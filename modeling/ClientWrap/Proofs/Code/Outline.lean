import ClientWrap.Proofs.Code.Calling

/-!
# The structs and functions of a file

A reader of tokens finds the name and the fields of each struct and the name, the parameters and the
body of each function without a receiver (`File.structsIn_lines`, `File.funcsIn_lines`). It knows
nothing of what the code was made from.
-/

namespace ClientWrap.Code

open ClientWrap.Text Token

/-- A struct as it is read: its name and the tokens of each field. -/
structure StructCode where
  name : String
  fields : List (List Token)

/-- A function as it is read: its name, the tokens of each parameter and those of its body. -/
structure FuncCode where
  name : String
  params : List (List Token)
  body : List Token

/-- The struct that stands in the lines of a block. -/
def structCode? (block : String × List String) : Option StructCode :=
  match tokens block.1 with
  | word "type" :: word name :: _ => some ⟨name, block.2.map tokens⟩
  | _ => none

/-- The function without a receiver that stands in the lines of a block. -/
def funcCode? (block : String × List String) : Option FuncCode :=
  match tokens block.1 with
  | word "func" :: word name :: mark '(' :: rest =>
    some ⟨name, entries rest, tokens (ofLines block.2)⟩
  | _ => none

/-- The structs in the lines of a file. -/
def structsIn (ls : List String) : List StructCode :=
  (braced "type " ls).filterMap structCode?

/-- The functions without a receiver in the lines of a file. -/
def funcsIn (ls : List String) : List FuncCode :=
  (braced "func " ls).filterMap funcCode?

/-- The calls of functions of the file itself, whose names have no qualifier. -/
def localCalls (us : List Use) : List (String × List (List Token)) :=
  (us.filterMap Use.call?).filter fun call => '.' ∉ call.1.toList

/-- The struct literals. -/
def literals (us : List Use) : List (String × List (List Token)) :=
  us.filterMap Use.fresh?

section

variable {name : String} {args : List (List Token)} {us us' : List Use}

/-- The local calls of several parts are those of each in turn. -/
theorem localCalls_flatMap {α : Type} {f : α → List Use} {as : List α} :
  localCalls (as.flatMap f) = as.flatMap fun a => localCalls (f a)
  := by
  rw [localCalls, List.filterMap_flatMap, List.filter_flatMap]
  rfl

/-- What is selected from something has a qualifier. -/
theorem dot_mem_select (base id : String) :
  '.' ∈ (base ++ "." ++ id).toList
  := by simp

/-- A call with a dot in its name is no local one. -/
theorem localCalls_qualified (h : '.' ∈ name.toList) :
  localCalls (.call name args :: us) = localCalls us
  := by
  simp [localCalls, Use.call?, h]

/-- A call without a dot in its name is a local one. -/
theorem localCalls_local (h : '.' ∉ name.toList) :
  localCalls (.call name args :: us) = (name, args) :: localCalls us
  := by
  simp [localCalls, Use.call?, h]

/-- All uses are calls of methods and of functions of other packages. -/
def Qualified (us : List Use) : Prop :=
  ∀ u ∈ us, ∃ name args, u = .call name args ∧ '.' ∈ name.toList

/-- Qualified uses one after another are qualified. -/
theorem Qualified.append (h : Qualified us) (h' : Qualified us') :
  Qualified (us ++ us')
  := List.forall_mem_append.mpr ⟨h, h'⟩

/-- Where nothing is used all uses are qualified. -/
theorem qualified_nil :
  Qualified []
  := List.forall_mem_nil _

/-- A call with a dot in its name keeps all uses qualified. -/
theorem Qualified.cons (h : Qualified us) (hname : '.' ∈ name.toList) :
  Qualified (.call name args :: us)
  := List.forall_mem_cons.mpr ⟨⟨name, args, rfl, hname⟩, h⟩

/-- Qualified uses have no local calls. -/
theorem Qualified.localCalls (h : Qualified us) :
  localCalls us = []
  := by
  rw [Code.localCalls, List.filter_eq_nil_iff]
  intro call hcall
  obtain ⟨u, hu, hcall⟩ := List.mem_filterMap.mp hcall
  obtain ⟨name, args, rfl, hname⟩ := h u hu
  obtain rfl := Option.some.inj hcall
  simpa using hname

/-- Qualified uses have no struct literals. -/
theorem Qualified.literals (h : Qualified us) :
  literals us = []
  := by
  rw [Code.literals, List.filterMap_eq_nil_iff]
  intro u hu
  obtain ⟨name, args, rfl, -⟩ := h u hu
  rfl

end

/-! ### Structs -/

/-- The struct as it is read. -/
def Struct.code (s : Struct) : StructCode :=
  ⟨s.name, s.fields.map entryTokens⟩

/-- The lines of a readable struct are read as its code. -/
theorem Struct.Readable.structCode? {s : Struct} (h : s.Readable) :
  structCode? (s.header, s.bodyLines) = some s.code
  := by
  have hfields : s.bodyLines.map tokens = s.fields.map entryTokens := by
    rw [← List.forall₂_eq_eq_eq, List.forall₂_map_left_iff]
    apply h.forall₂_reads.imp
    intro l ts hl
    apply hl.tokens_eq
  simp only [Code.structCode?, h.reads_header.tokens_eq, headerTokens, hfields, code]

/-! ### Functions -/

/-- The function as it is read. -/
def Func.code (f : Func) : FuncCode :=
  ⟨f.name, f.params.map entryTokens, f.bodyTokens⟩

/-- The lines of a readable function are read as its code, unless it is a method. -/
theorem Func.Readable.funcCode? {f : Func} (h : f.Readable) :
  funcCode? (f.header, f.bodyLines) = if f.receiver.isSome then none else some f.code
  := by
  cases hr : f.receiver with
  | none =>
      simp only [Code.funcCode?, h.tokens_header, headerTokens, hr, receiverTokens, signatureTokens,
        List.nil_append, h.entries_params, tokens_bodyLines h.body]
      rfl
  | some r =>
      simp only [Code.funcCode?, h.tokens_header, headerTokens, hr, receiverTokens, List.cons_append]
      rfl

/-! ### Files -/

namespace File

variable {f : File} (hprintable : f.Printable) (hreadable : ∀ item ∈ f.items, item.Readable)

include hprintable hreadable

/-- The structs that are read from a file are those that it has. -/
theorem structsIn_lines :
  structsIn (Text.lines f.body) = f.structs.map Struct.code
  := by
  rw [structsIn, hprintable.braced_type, List.filterMap_map, ← List.filterMap_eq_map]
  apply List.filterMap_congr
  intro s hs
  apply (f.readable_struct hreadable s hs).structCode?

/-- The functions that are read from a file are those without a receiver. -/
theorem funcsIn_lines :
  funcsIn (Text.lines f.body) = (f.funcs.filter (!·.receiver.isSome)).map Func.code
  := by
  rw [funcsIn, hprintable.braced_func, List.filterMap_map, ← List.filterMap_eq_map,
    List.filterMap_filter]
  apply List.filterMap_congr
  intro g hg
  rw [Function.comp_apply, (f.readable_func hreadable g hg).funcCode?]
  cases g.receiver.isSome <;> rfl

end File

end ClientWrap.Code
