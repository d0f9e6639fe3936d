import ClientWrap.Proofs.Code.Lines

/-!
# The names that emitted code declares

A reader of lines finds the names of the types, fields, functions and methods that a file declares,
in their order (`File.declarationsFrom_lines`). It looks at the beginning of each line only, and at
whether the line is inside a struct.
-/

namespace ClientWrap.Code

open ClientWrap.Text

/-- A name in the place where it is declared. -/
inductive Declaration where
  | type (name : String)
  | field (name : String)
  | func (name : String)
  | method (name : String)
  deriving DecidableEq

namespace Declaration

/-- The declared name. -/
def name : Declaration → String
  | type name | field name | func name | method name => name

/-- The declared name, if it is that of a type or a function. -/
def outer? : Declaration → Option String
  | type name | func name => some name
  | field _ | method _ => none

/-! ### Reading lines -/

/-- What stands before the first space or parenthesis. -/
def word (s : List Char) : String :=
  String.ofList (s.takeWhile fun c => c != ' ' && c != '(')

/-- What a line outside of structs declares. -/
def ofLine? (line : String) : Option Declaration :=
  if BeginsWith "type " line then some (type (word (line.toList.drop 5)))
  else if BeginsWith "func (" line then
    some (method (word ((line.toList.dropWhile (· != ')')).drop 2)))
  else if BeginsWith "func " line then some (func (word (line.toList.drop 5)))
  else none

/-- What lines declare, the first of them inside a struct or outside. -/
def declarationsFrom : Bool → List String → List Declaration
  | _, [] => []
  | true, line :: rest =>
    if line = "\x7d" then declarationsFrom false rest
    else field (word (line.toList.drop 1)) :: declarationsFrom true rest
  | false, line :: rest =>
    (ofLine? line).toList ++ declarationsFrom (BeginsWith "type " line) rest

variable {line name : String} {rest : List String}

/-- A name ends at the blank or the parenthesis behind it. -/
theorem word_append (h : isIdentifier name.toList) {c : Char} (hc : c = ' ' ∨ c = '(')
    (cs : List Char) :
  word (name.toList ++ c :: cs) = name
  := by
  rw [word, List.takeWhile_append_of_pos, List.takeWhile_cons_of_neg, List.append_nil,
    String.ofList_toList]
  · rcases hc with rfl | rfl <;> decide
  · intro d hd
    have hblank : ' ' ∉ name.toList := not_mem_of_isIdentifier h rfl
    have hparen : '(' ∉ name.toList := not_mem_of_isIdentifier h rfl
    simp [ne_of_mem_of_not_mem hd hblank, ne_of_mem_of_not_mem hd hparen]

/-- Outside a struct a line that begins with neither word declares nothing. -/
theorem declarationsFrom_cons_of_not (htype : ¬ BeginsWith "type " line)
    (hfunc : ¬ BeginsWith "func " line) :
  declarationsFrom false (line :: rest) = declarationsFrom false rest
  := by
  have hmethod : ¬ BeginsWith "func (" line := by
    intro (h : BeginsWith ("func " ++ "(") line)
    apply hfunc h.of_append
  simp [declarationsFrom, ofLine?, htype, hfunc, hmethod]

/-- Lines that open neither a type nor a function declare nothing. -/
theorem declarationsFrom_append_of_not {ls : List String}
    (h : ∀ l ∈ ls, ¬ BeginsWith "type " l ∧ ¬ BeginsWith "func " l) :
  declarationsFrom false (ls ++ rest) = declarationsFrom false rest
  := by
  induction ls with
  | nil => rfl
  | cons l ls ih =>
      obtain ⟨⟨htype, hfunc⟩, hls⟩ := List.forall_mem_cons.mp h
      rw [List.cons_append, declarationsFrom_cons_of_not htype hfunc, ih hls]

end Declaration

open Declaration

/-! ### Items -/

/-- What the struct declares: its name and its fields. -/
def Struct.declarations (s : Struct) : List Declaration :=
  .type s.name :: s.fields.map fun f => .field f.1

/-- What the function declares. -/
def Func.declaration (f : Func) : Declaration :=
  if f.receiver.isSome then .method f.name else .func f.name

/-- A function declares its name. -/
theorem Func.name_declaration (f : Func) :
  f.declaration.name = f.name
  := by
  rw [declaration]
  split <;> rfl

/-- What the item declares. -/
def Item.declarations : Item → List Declaration
  | .gap | .comment _ => []
  | .struct s => s.declarations
  | .func f => [f.declaration]

/-- An item that declares a field is a struct with that field. -/
theorem Item.field_mem_declarations {item : Item} {name : String} :
  .field name ∈ item.declarations ↔ ∃ s, item.struct? = some s ∧ ∃ f ∈ s.fields, f.1 = name
  := by
  cases item with
  | struct s => simp [declarations, Struct.declarations, struct?]
  | func f =>
      rw [declarations, Func.declaration]
      split <;> simp [struct?]
  | _ => simp [declarations, struct?]

/-- An item that declares a method is a function with a receiver. -/
theorem Item.method_mem_declarations {item : Item} {name : String} :
  .method name ∈ item.declarations ↔ ∃ m, item.method? = some m ∧ m.name = name
  := by
  cases item with
  | struct s => simp [declarations, Struct.declarations, method?, func?]
  | func f =>
      simp only [method?_eq_some, func.injEq]
      rw [declarations, Func.declaration]
      grind
  | _ => simp [declarations, method?, func?]

variable {rest : List String}

/-- The fields of a struct are read from its lines, which the closing brace ends. -/
theorem declarationsFrom_fields (width : Nat) {fields : List (String × String)}
    (h : ∀ f ∈ fields, isIdentifier f.1.toList) :
  declarationsFrom true
      (fields.map (fun f => "\t" ++ padTo width f.1 ++ " " ++ f.2) ++ "\x7d" :: rest)
    = fields.map (fun f => .field f.1) ++ declarationsFrom false rest
  := by
  induction fields with
  | nil => rfl
  | cons f fields ih =>
      obtain ⟨hf, hfields⟩ := List.forall_mem_cons.mp h
      obtain ⟨name, type⟩ := f
      have hline : ("\t" ++ padTo width name ++ " " ++ type).toList.drop 1 = name.toList
          ++ ' ' :: (List.replicate (width - name.length) ' ' ++ type.toList) := by
        rw [← List.cons_append, ← List.replicate_succ, List.replicate_succ']
        simp [padTo]
      have hclosing : "\t" ++ padTo width name ++ " " ++ type ≠ "\x7d" := by
        apply mt (congrArg String.toList)
        simp
      simp only [List.map_cons, List.cons_append]
      rw [declarationsFrom, if_neg hclosing, hline, word_append hf (Or.inl rfl), ih hfields]

/-- The lines of a struct declare its name and its fields. -/
theorem Struct.declarationsFrom_lines {s : Struct}
    (h : ∀ d ∈ s.declarations, isIdentifier d.name.toList) :
  declarationsFrom false (s.lines ++ rest) = s.declarations ++ declarationsFrom false rest
  := by
  rw [declarations, List.forall_mem_cons, List.forall_mem_map] at h
  obtain ⟨hname, hfields⟩ := h
  change isIdentifier s.name.toList = true at hname
  have hopens : ofLine? ("type " ++ s.name ++ " struct \x7b") = some (.type s.name) := by
    have hline : ("type " ++ s.name ++ " struct \x7b").toList.drop 5
        = s.name.toList ++ ' ' :: "struct \x7b".toList := by simp
    rw [ofLine?, if_pos (by simp [BeginsWith]), hline, word_append hname (Or.inl rfl)]
  have hinside : decide (BeginsWith "type " ("type " ++ s.name ++ " struct \x7b")) = true := by
    simp [BeginsWith]
  rw [lines, structLines, List.append_assoc, List.append_assoc, List.singleton_append,
    List.singleton_append, declarationsFrom, hopens, hinside, fieldLines]
  rw [declarationsFrom_fields _ (by rw [List.forall_mem_map]; apply hfields), declarations,
    List.map_map]
  rfl

/-- The line that opens a function opens no type. -/
theorem Func.not_beginsWith_header (f : Func) :
  ¬ BeginsWith "type " f.header
  := by
  have hfunc : BeginsWith "func " f.header := by simp [BeginsWith, header]
  apply hfunc.not_beginsWith (by decide) (by decide)

/-- The header of a function tells what the function declares. -/
theorem Func.ofLine?_header {f : Func} (hname : isIdentifier f.name.toList)
    (hreceiver : ∀ r, f.receiver = some r → ')' ∉ r.toList) :
  ofLine? f.header = some f.declaration
  := by
  rw [ofLine?, if_neg f.not_beginsWith_header, declaration]
  simp only [Func.beginsWith_header hname]
  cases hr : f.receiver with
  | none =>
      have hline : f.header.toList.drop 5
          = f.name.toList ++ '(' :: (paramsText f.params ++ ")" ++ resultsText f.results
            ++ " \x7b").toList := by simp [header, hr]
      have hfunc : BeginsWith "func " f.header := by simp [BeginsWith, header]
      rw [if_neg (by simp), if_pos hfunc, hline, word_append hname (Or.inr rfl)]
      rfl
  | some r =>
      have hline : (f.header.toList.dropWhile (· != ')')).drop 2
          = f.name.toList ++ '(' :: (paramsText f.params ++ ")" ++ resultsText f.results
            ++ " \x7b").toList := by
        have hclosing : ')' ∉ "func (c *".toList ++ r.toList := by
          rw [List.mem_append, not_or]
          exact ⟨by decide, hreceiver r hr⟩
        have hlead : ∀ c ∈ "func (c *".toList ++ r.toList, (c != ')') = true := by
          intro c hc
          simpa using ne_of_mem_of_not_mem hc hclosing
        have hheader : f.header.toList = ("func (c *".toList ++ r.toList) ++ ')' :: ' ' ::
            (f.name.toList ++ '(' :: (paramsText f.params ++ ")" ++ resultsText f.results
              ++ " \x7b").toList) := by simp [header, hr]
        rw [hheader, List.dropWhile_append_of_pos hlead, List.dropWhile_cons_of_neg (by decide)]
        rfl
      rw [if_pos (by simp), hline, word_append hname (Or.inr rfl)]
      rfl

/-- What an item declares is read from its lines. -/
theorem Item.declarationsFrom_lines {item : Item}
    (hnames : ∀ d ∈ item.declarations, isIdentifier d.name.toList)
    (hreceiver : ∀ f ∈ item.method?, ∀ r, f.receiver = some r → ')' ∉ r.toList) :
  declarationsFrom false (item.lines ++ rest) = item.declarations ++ declarationsFrom false rest
  := by
  cases item with
  | gap => rfl
  | comment text =>
      apply declarationsFrom_cons_of_not
      · simp [BeginsWith]
      · simp [BeginsWith]
  | struct s => apply s.declarationsFrom_lines hnames
  | func f =>
      have hname : isIdentifier f.name.toList := by
        rw [← f.name_declaration]
        apply hnames f.declaration List.mem_cons_self
      have hheader : ofLine? f.header = some f.declaration := by
        apply f.ofLine?_header hname
        intro r hr
        apply hreceiver f (method?_eq_some.mpr ⟨rfl, by rw [hr]; rfl⟩) r hr
      have htype := decide_eq_false f.not_beginsWith_header
      have hbody : ∀ l ∈ f.body.flatMap Stmt.lines ++ ["\x7d"],
          ¬ BeginsWith "type " l ∧ ¬ BeginsWith "func " l := by
        rw [List.forall_mem_append, List.forall_mem_singleton]
        refine ⟨fun l hl => ?_, by decide, by decide⟩
        obtain ⟨s, -, hl⟩ := List.mem_flatMap.mp hl
        have htab := s.beginsWith_tab l hl
        exact ⟨htab.not_beginsWith (by decide) (by decide),
          htab.not_beginsWith (by decide) (by decide)⟩
      rw [lines, Func.lines, List.cons_append, declarationsFrom, hheader, htype,
        declarationsFrom_append_of_not hbody]
      rfl

/-! ### Files -/

namespace File

/-- What the file declares after its imports. -/
def declarations (f : File) : List Declaration :=
  f.items.flatMap Item.declarations

/-- The names that the file declares for all of the file or of the package: the aliases of its
imports, and the names of its types and functions. -/
def outerNames (f : File) : List String :=
  f.imports.map Naming.packageAlias ++ f.declarations.filterMap Declaration.outer?

/-- The fields that a file declares are those of its structs. -/
theorem field_mem_declarations {f : File} {name : String} :
  .field name ∈ f.declarations ↔ ∃ s ∈ f.structs, ∃ p ∈ s.fields, p.1 = name
  := by
  simp only [declarations, structs, List.mem_flatMap, List.mem_filterMap,
    Item.field_mem_declarations]
  grind

/-- The methods that a file declares are its functions with a receiver. -/
theorem method_mem_declarations {f : File} {name : String} :
  .method name ∈ f.declarations ↔ ∃ m ∈ f.methods, m.name = name
  := by
  simp only [declarations, methods, List.mem_flatMap, List.mem_filterMap,
    Item.method_mem_declarations]
  grind

/-- What a file declares is read from the text after its import block. -/
theorem Printable.declarationsFrom_lines {f : File} (h : f.Printable)
    (hnames : ∀ d ∈ f.declarations, isIdentifier d.name.toList)
    (hreceiver : ∀ m ∈ f.methods, ∀ r, m.receiver = some r → ')' ∉ r.toList) :
  declarationsFrom false (Text.lines f.body) = f.declarations
  := by
  have hitems : ∀ items ⊆ f.items, declarationsFrom false (items.flatMap Item.lines ++ [""])
      = items.flatMap Item.declarations := by
    intro items hsubset
    induction items with
    | nil => decide
    | cons item items ih =>
        obtain ⟨hmem, hrest⟩ := List.cons_subset.mp hsubset
        rw [List.flatMap_cons, List.append_assoc, item.declarationsFrom_lines, ih hrest,
          List.flatMap_cons]
        · intro d hd
          apply hnames d (List.mem_flatMap.mpr ⟨item, hmem, hd⟩)
        · intro m hm
          apply hreceiver m (List.mem_filterMap.mpr ⟨item, hmem, hm⟩)
  rw [h.lines_body, bodyLines, hitems f.items (List.Subset.refl _), declarations]

end File

end ClientWrap.Code
