import ClientWrap.Proofs.Code.Bodies

/-!
# Functions and structs in the lines of a file

A reader of lines finds each function with the lines of its body and each struct with the lines of
its fields: a line with the word that opens the one or the other, and the lines after it up to a
closing brace (`File.Printable.braced_func`, `File.Printable.braced_type`).
-/

namespace ClientWrap.Code

open ClientWrap.Text

/-- The lines that begin with a text, each with the lines behind it up to a closing brace. -/
def braced (lead : String) : List String → List (String × List String)
  | [] => []
  | l :: ls =>
    if BeginsWith lead l then (l, ls.takeWhile (· ≠ "\x7d")) :: braced lead ls else braced lead ls

section

variable {lead lead' l : String} {ls rest : List String}

/-- A line with another beginning opens no block. -/
theorem braced_cons_of_not (h : ¬ BeginsWith lead l) :
  braced lead (l :: ls) = braced lead ls
  := by
  rw [braced, if_neg h]

/-- Lines with other beginnings open no block. -/
theorem braced_append_of_not (h : ∀ l ∈ ls, ¬ BeginsWith lead l) :
  braced lead (ls ++ rest) = braced lead rest
  := by
  induction ls with
  | nil => rfl
  | cons l ls ih =>
      obtain ⟨hl, hls⟩ := List.forall_mem_cons.mp h
      rw [List.cons_append, braced_cons_of_not hl, ih hls]

/-- The text can begin a line that opens a block, but no line of another kind. -/
structure OpensBlocks (lead : String) : Prop where
  tab : ¬ BeginsWith "\t" lead ∧ ¬ BeginsWith lead "\t"
  comment : ¬ BeginsWith "// " lead ∧ ¬ BeginsWith lead "// "
  closing : ¬ BeginsWith lead "\x7d"
  empty : ¬ BeginsWith lead ""

/-- Functions open blocks. -/
theorem opensBlocks_func :
  OpensBlocks "func "
  := by
  constructor <;> decide

/-- Structs open blocks. -/
theorem opensBlocks_type :
  OpensBlocks "type "
  := by
  constructor <;> decide

/-- What is found in the lines of a block, the first of which opens it. -/
theorem OpensBlocks.braced_block (h : OpensBlocks lead) (hls : ∀ l ∈ ls, BeginsWith "\t" l) :
  braced lead (l :: (ls ++ "\x7d" :: rest))
    = [(l, ls)].filter (BeginsWith lead ·.1) ++ braced lead rest
  := by
  have htake : (ls ++ "\x7d" :: rest).takeWhile (· ≠ "\x7d") = ls := by
    rw [List.takeWhile_append_of_pos]
    · simp
    · intro l hl
      have hne : l ≠ "\x7d" := by
        rintro rfl
        have := hls _ hl
        revert this
        decide
      simpa using hne
  have hrest : braced lead (ls ++ "\x7d" :: rest) = braced lead rest := by
    rw [braced_append_of_not, braced_cons_of_not h.closing]
    intro l hl
    apply (hls l hl).not_beginsWith h.tab.1 h.tab.2
  rw [braced, htake, hrest]
  by_cases hl : BeginsWith lead l <;> simp [hl]

/-- A longer text finds some of the lines. -/
theorem braced_of_beginsWith (h : BeginsWith lead lead') (ls : List String) :
  braced lead' ls = (braced lead ls).filter (BeginsWith lead' ·.1)
  := by
  induction ls with
  | nil => rfl
  | cons l ls ih =>
      rw [braced, braced]
      by_cases hl : BeginsWith lead l
      · by_cases hl' : BeginsWith lead' l <;> simp [hl, hl', ih]
      · have hl' : ¬ BeginsWith lead' l := by
          intro hl'
          apply hl (h.trans hl')
        simp [hl, hl', ih]

end

/-! ### Structs and functions -/

/-- The line that opens the struct. -/
def Struct.header (s : Struct) : String :=
  "type " ++ s.name ++ " struct \x7b"

/-- The lines of the fields. -/
def Struct.bodyLines (s : Struct) : List String :=
  fieldLines (s.fields.map fun (name, t) => (name, t.text))

/-- The first line of a struct says that it is a type. -/
theorem Struct.beginsWith_header (s : Struct) :
  BeginsWith "type " s.header
  := by
  simp [BeginsWith, header]

/-- The first line of a function says that it is one. -/
theorem Func.beginsWith_func (f : Func) :
  BeginsWith "func " f.header
  := by
  simp [BeginsWith, header]

/-- The line that opens the item and the lines inside it. -/
def Item.block? : Item → Option (String × List String)
  | .gap | .comment _ => none
  | .struct s => some (s.header, s.bodyLines)
  | .func f => some (f.header, f.bodyLines)

/-- The block of an item is found if the text begins it. -/
theorem OpensBlocks.braced_item {lead : String} (h : OpensBlocks lead) (item : Item)
    (rest : List String) :
  braced lead (item.lines ++ rest)
    = item.block?.toList.filter (BeginsWith lead ·.1) ++ braced lead rest
  := by
  cases item with
  | gap => apply braced_cons_of_not h.empty
  | comment text =>
      apply braced_cons_of_not
      apply (beginsWith_append "// " text).not_beginsWith h.comment.1 h.comment.2
  | struct s =>
      have htabs : ∀ l ∈ s.bodyLines, BeginsWith "\t" l := by
        intro l hl
        obtain ⟨f, -, rfl⟩ := List.mem_map.mp hl
        simp [BeginsWith]
      have hlines : Item.lines (.struct s) ++ rest = s.header :: (s.bodyLines ++ "\x7d" :: rest) := by
        simp [Item.lines, Struct.lines, structLines, Struct.header, Struct.bodyLines]
      rw [hlines, h.braced_block htabs]
      rfl
  | func f =>
      have htabs : ∀ l ∈ f.bodyLines, BeginsWith "\t" l := by
        intro l hl
        obtain ⟨s, -, hl⟩ := List.mem_flatMap.mp hl
        apply s.beginsWith_tab l hl
      have hlines : Item.lines (.func f) ++ rest = f.header :: (f.bodyLines ++ "\x7d" :: rest) := by
        simp [Item.lines, Func.lines, Func.bodyLines]
      rw [hlines, h.braced_block htabs]
      rfl

/-! ### Files -/

namespace File

variable {f : File}

/-- The blocks that are read from a printable file are those of its parts. -/
theorem Printable.braced_eq (h : f.Printable) {lead : String} (hlead : OpensBlocks lead) :
  braced lead (Text.lines f.body)
    = (f.items.filterMap Item.block?).filter (BeginsWith lead ·.1)
  := by
  have hitems : ∀ items : List Item, braced lead (items.flatMap Item.lines ++ [""])
      = (items.filterMap Item.block?).filter (BeginsWith lead ·.1) := by
    intro items
    induction items with
    | nil => apply braced_cons_of_not hlead.empty
    | cons item items ih =>
        rw [List.flatMap_cons, List.append_assoc, hlead.braced_item, ih, ← List.filter_append,
          List.filterMap_cons]
        cases item.block? <;> rfl
  rw [h.lines_body, bodyLines, hitems]

/-- The functions and methods of a file with the lines of their bodies. -/
theorem Printable.braced_func (h : f.Printable) :
  braced "func " (Text.lines f.body) = f.funcs.map fun g => (g.header, g.bodyLines)
  := by
  have hitem : ∀ item : Item, item.block?.filter (BeginsWith "func " ·.1)
      = item.func?.map fun g => (g.header, g.bodyLines) := by
    intro item
    cases item with
    | struct s =>
        have hnot := s.beginsWith_header.not_beginsWith (by decide)
          (by decide : ¬ BeginsWith "func " "type ")
        simp [Item.block?, Item.func?, hnot]
    | func g => simp [Item.block?, Item.func?, g.beginsWith_func]
    | _ => rfl
  rw [h.braced_eq opensBlocks_func, funcs, List.filter_filterMap, List.map_filterMap]
  simp only [hitem]

/-- The structs of a file with the lines of their fields. -/
theorem Printable.braced_type (h : f.Printable) :
  braced "type " (Text.lines f.body) = f.structs.map fun s => (s.header, s.bodyLines)
  := by
  have hitem : ∀ item : Item, item.block?.filter (BeginsWith "type " ·.1)
      = item.struct?.map fun s => (s.header, s.bodyLines) := by
    intro item
    cases item with
    | struct s => simp [Item.block?, Item.struct?, s.beginsWith_header]
    | func g =>
        have hnot := g.beginsWith_func.not_beginsWith (by decide)
          (by decide : ¬ BeginsWith "type " "func ")
        simp [Item.block?, Item.struct?, hnot]
    | _ => rfl
  rw [h.braced_eq opensBlocks_type, structs, List.filter_filterMap, List.map_filterMap]
  simp only [hitem]

/-- The functions with a receiver are the methods. -/
theorem filter_funcs (f : File) :
  f.funcs.filter (·.receiver.isSome) = f.methods
  := by
  rw [funcs, methods, List.filter_filterMap]
  rfl

/-- The methods of a receiver with the lines of their bodies. -/
theorem Printable.braced_receiver (h : f.Printable) {r : String} (hr : ')' ∉ r.toList)
    (hf : ∀ m ∈ f.methods, ∀ r', m.receiver = some r' → ')' ∉ r'.toList) :
  braced ("func (c *" ++ r ++ ") ") (Text.lines f.body)
    = (f.methods.filter (·.receiver = some r)).map fun m => (m.header, m.bodyLines)
  := by
  have hlead : BeginsWith "func " ("func (c *" ++ r ++ ") ") := by
    simp [BeginsWith]
  have hreceiver : ∀ g ∈ f.funcs, BeginsWith ("func (c *" ++ r ++ ") ") g.header
      ↔ g.receiver = some r := by
    intro g hg
    obtain ⟨item, hitem, hitem'⟩ := List.mem_filterMap.mp hg
    cases item with
    | func g' =>
        obtain rfl := Option.some.inj hitem'
        apply Func.beginsWith_receiver hr _ (Func.Printable.name (h _ hitem))
        intro r' hr'
        apply hf g' _ r' hr'
        rw [← filter_funcs, List.mem_filter, hr']
        exact ⟨hg, rfl⟩
    | _ => contradiction
  rw [braced_of_beginsWith hlead, h.braced_func, List.filter_map, ← filter_funcs,
    List.filter_filter]
  congr 1
  apply List.filter_congr
  intro g hg
  cases hg' : g.receiver with
  | none => simp [hreceiver g hg, hg']
  | some r' => simp [hreceiver g hg, hg']

end File

end ClientWrap.Code
