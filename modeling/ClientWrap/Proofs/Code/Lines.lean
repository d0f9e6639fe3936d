import ClientWrap.Code.File
import ClientWrap.Proofs.Text.OneLine

/-!
# The lines of emitted code

The lines of a file that open a method are the headers of the methods that it declares, in their
order (`File.filter_methodLines`), and those of one receiver are found by the name of the receiver
(`File.filter_receiverLines`). All other lines begin with a tab or with another word, provided that
no name, type or literal of the file breaks a line (`File.Printable`).
-/

namespace ClientWrap

open ClientWrap.Text

/-- An alias stands on one line. -/
@[simp]
theorem Naming.oneLine_packageAlias (path : String) :
  OneLine (Naming.packageAlias path)
  := by
  apply oneLine_of_forall (p := Naming.isAliasChar) rfl
  rw [Naming.packageAlias, String.toList_ofList]
  apply List.all_eq_true.mp (Naming.aliasChars_all path.toList)

namespace Code

/-! ### Expressions and statements -/

namespace Expr

/-- A name stands on one line if its text does. -/
@[simp]
theorem oneLine_name {id : String} :
  OneLine (name id).text ↔ OneLine id
  := Iff.rfl

/-- A name of a package stands on one line if the name does, whatever the package is. -/
@[simp]
theorem oneLine_qualified {package id : String} :
  OneLine (qualified package id).text ↔ OneLine id
  := by
  rw [text]
  simp +decide

/-- A literal stands on one line whatever its value is. -/
@[simp]
theorem oneLine_string {value : String} :
  OneLine (string value).text
  := oneLine_quoted value

/-- A selection stands on one line if its parts do. -/
@[simp]
theorem oneLine_select {base : Expr} {id : String} :
  OneLine (select base id).text ↔ OneLine base.text ∧ OneLine id
  := by
  rw [text]
  simp +decide

/-- A call stands on one line if its parts do. -/
@[simp]
theorem oneLine_call {callee : Expr} {args : List Expr} :
  OneLine (call callee args).text ↔ OneLine callee.text ∧ ∀ e ∈ args, OneLine e.text
  := by
  rw [text]
  simp +decide [texts_eq_map]

/-- Remaining arguments stand on one line if their expression does. -/
@[simp]
theorem oneLine_spread {e : Expr} :
  OneLine (spread e).text ↔ OneLine e.text
  := by
  rw [text]
  simp +decide

/-- A fresh struct stands on one line if its parts do. -/
@[simp]
theorem oneLine_fresh {type : String} {values : List Expr} :
  OneLine (fresh type values).text ↔ OneLine type ∧ ∀ e ∈ values, OneLine e.text
  := by
  rw [text]
  simp +decide [texts_eq_map]

end Expr

/-- Every name of the statement and every expression in it is on one line. -/
def Step.Printable : Step → Prop
  | .run e | .atReturn e => OneLine e.text
  | .give es => ∀ e ∈ es, OneLine e.text
  | .define names e => (∀ name ∈ names, OneLine name) ∧ OneLine e.text
  | .assign target e => OneLine target ∧ OneLine e.text

/-- A printable statement on one line stands on one. -/
theorem Step.Printable.oneLine {s : Step} (h : s.Printable) :
  OneLine s.text
  := by
  cases s with
  | run e => apply h
  | give es => simpa +decide [text, Expr.texts_eq_map, Printable] using h
  | define names e => simpa +decide [text, Printable] using h
  | assign target e => simpa +decide [text, Printable] using h
  | atReturn e => simpa +decide [text, Printable] using h

/-- Every name of the statement and every expression in it is on one line. -/
def Stmt.Printable : Stmt → Prop
  | .step s => s.Printable
  | .defineCall names callee args =>
    (∀ name ∈ names, OneLine name) ∧ OneLine callee.text ∧ ∀ e ∈ args, OneLine e.text
  | .giveFresh type fields =>
    OneLine type ∧ ∀ f ∈ fields, OneLine f.1 ∧ OneLine f.2.text
  | .ifPresent value body => OneLine value ∧ ∀ s ∈ body, s.Printable

/-- Padding breaks no line. -/
theorem oneLine_padTo (width : Nat) {s : String} (h : OneLine s) :
  OneLine (padTo width s)
  := by
  rw [padTo, oneLine_append]
  use h
  rw [OneLine, String.toList_ofList]
  intro hmem
  have := List.eq_of_mem_replicate hmem
  contradiction

/-- Aligned keys and values stand on a line each. -/
theorem oneLine_keyedLines {indent : String} {pairs : List (String × String)}
    (hindent : OneLine indent) (h : ∀ p ∈ pairs, OneLine p.1 ∧ OneLine p.2) :
  ∀ l ∈ keyedLines indent pairs, OneLine l
  := by
  intro l hl
  obtain ⟨⟨key, value⟩, hp, rfl⟩ := List.mem_map.mp hl
  obtain ⟨hkey, hvalue⟩ := h _ hp
  have hcolon : OneLine (key ++ ":") := by simpa +decide using hkey
  simp +decide [hindent, oneLine_padTo _ hcolon, hvalue]

/-- Aligned fields stand on a line each. -/
theorem oneLine_fieldLines {fields : List (String × String)}
    (h : ∀ f ∈ fields, OneLine f.1 ∧ OneLine f.2) :
  ∀ l ∈ fieldLines fields, OneLine l
  := by
  intro l hl
  obtain ⟨⟨name, type⟩, hf, rfl⟩ := List.mem_map.mp hl
  obtain ⟨hname, htype⟩ := h _ hf
  simp +decide [oneLine_padTo _ hname, htype]

/-- The lines of a printable statement are single lines. -/
theorem Stmt.Printable.oneLine {s : Stmt} (h : s.Printable) :
  ∀ l ∈ s.lines, OneLine l
  := by
  cases s with
  | step s => simpa +decide [lines] using Step.Printable.oneLine h
  | defineCall names callee args =>
      obtain ⟨hnames, hcallee, hargs⟩ := h
      rw [lines, List.forall_mem_append, List.forall_mem_append, List.forall_mem_singleton,
        List.forall_mem_singleton, List.forall_mem_map, Expr.texts_eq_map, List.forall_mem_map]
      and_intros
      · simp +decide [hcallee]
        apply hnames
      · intro e he
        simp +decide [hargs e he]
      · decide
  | giveFresh type fields =>
      obtain ⟨htype, hfields⟩ := h
      rw [lines, List.forall_mem_append, List.forall_mem_append, List.forall_mem_singleton,
        List.forall_mem_singleton]
      and_intros
      · simp +decide [htype]
      · apply oneLine_keyedLines (by decide)
        rw [List.forall_mem_map]
        apply hfields
      · decide
  | ifPresent value body =>
      obtain ⟨hvalue, hbody⟩ := h
      rw [lines, List.forall_mem_append, List.forall_mem_append, List.forall_mem_singleton,
        List.forall_mem_singleton, List.forall_mem_map]
      and_intros
      · simp +decide [hvalue]
      · intro s hs
        simp +decide [(hbody s hs).oneLine]
      · decide

/-- The lines of a statement are indented. -/
theorem Stmt.beginsWith_tab {s : Stmt} :
  ∀ l ∈ s.lines, BeginsWith "\t" l
  := by
  intro l hl
  cases s with
  | step s =>
      obtain rfl := List.mem_singleton.mp hl
      simp [BeginsWith]
  | defineCall names callee args =>
      simp only [lines, List.mem_append, List.mem_singleton, List.mem_map] at hl
      rcases hl with (rfl | ⟨e, -, rfl⟩) | rfl <;> simp [BeginsWith]
  | giveFresh type fields =>
      simp only [lines, keyedLines, List.mem_append, List.mem_singleton, List.mem_map] at hl
      rcases hl with (rfl | ⟨p, -, rfl⟩) | rfl <;> simp [BeginsWith]
  | ifPresent value body =>
      simp only [lines, List.mem_append, List.mem_singleton, List.mem_map] at hl
      rcases hl with (rfl | ⟨s, -, rfl⟩) | rfl <;> simp [BeginsWith]

/-! ### Functions and structs -/

/-- Every name in the signature of the function and every statement of its body is on one line. A
function without a receiver has an identifier as its name. -/
structure Func.Printable (f : Func) : Prop where
  receiver : ∀ r, f.receiver = some r → OneLine r
  name : isIdentifier f.name.toList
  params : ∀ p ∈ f.params, OneLine p.1 ∧ OneLine p.2.text
  results : ∀ t ∈ f.results, OneLine t.text
  body : ∀ s ∈ f.body, s.Printable

/-- Parameters stand on one line if their names and types do. -/
theorem oneLine_paramsText {params : List (String × GoType)}
    (h : ∀ p ∈ params, OneLine p.1 ∧ OneLine p.2.text) :
  OneLine (paramsText params)
  := by
  rw [paramsText, oneLine_commas, List.forall_mem_map]
  intro p hp
  obtain ⟨hname, htype⟩ := h p hp
  simp +decide [hname, htype]

/-- Results stand on one line if their types do. -/
theorem oneLine_resultsText {results : List GoType} (h : ∀ t ∈ results, OneLine t.text) :
  OneLine (resultsText results)
  := by
  rw [resultsText.eq_def]
  split
  · decide
  · simpa +decide using h
  · simpa +decide using h

/-- The line that opens a printable function is a single line. -/
theorem Func.Printable.oneLine_header {f : Func} (h : f.Printable) :
  OneLine f.header
  := by
  have hname := oneLine_of_isIdentifier h.name
  have hparams := oneLine_paramsText h.params
  have hresults := oneLine_resultsText h.results
  rw [header]
  cases hreceiver : f.receiver with
  | none => simp +decide [hname, hparams, hresults]
  | some r => simp +decide [hname, hparams, hresults, h.receiver r hreceiver]

/-- The lines of a printable function are single lines. -/
theorem Func.Printable.oneLine {f : Func} (h : f.Printable) :
  ∀ l ∈ f.lines, OneLine l
  := by
  rw [lines, List.forall_mem_cons, List.forall_mem_append, List.forall_mem_singleton]
  and_intros
  · apply h.oneLine_header
  · intro l hl
    obtain ⟨s, hs, hl⟩ := List.mem_flatMap.mp hl
    apply (h.body s hs).oneLine l hl
  · decide

/-- A function begins like a method exactly if it has a receiver. -/
theorem Func.beginsWith_header {f : Func} (h : isIdentifier f.name.toList) :
  BeginsWith "func (" f.header ↔ f.receiver.isSome = true
  := by
  rw [header]
  cases f.receiver with
  | none =>
      cases hname : f.name.toList with
      | nil =>
          rw [hname] at h
          contradiction
      | cons c name =>
          have hc : c ≠ '(' := by
            rintro rfl
            rw [hname] at h
            contradiction
          simp [BeginsWith, hname, hc.symm]
  | some r => simp [BeginsWith]

/-- What stands before the first separator is determined. -/
theorem eq_of_append_cons {α : Type} [DecidableEq α] {sep : α} {s t x y : List α} (hs : sep ∉ s)
    (ht : sep ∉ t) (h : s ++ sep :: x = t ++ sep :: y) :
  s = t
  := by
  have htake : ∀ {s x : List α}, sep ∉ s → (s ++ sep :: x).takeWhile (· != sep) = s := by
    intro s x hs
    rw [List.takeWhile_append_of_pos]
    · simp
    · intro a ha
      simpa using ne_of_mem_of_not_mem ha hs
  rw [← htake hs, h, htake ht]

/-- The header of a method begins with a receiver exactly if that is its receiver. -/
theorem Func.beginsWith_receiver {f : Func} {r : String} (hr : ')' ∉ r.toList)
    (hf : ∀ r', f.receiver = some r' → ')' ∉ r'.toList) (hname : isIdentifier f.name.toList) :
  BeginsWith ("func (c *" ++ r ++ ") ") f.header ↔ f.receiver = some r
  := by
  constructor
  · intro h
    have hlead : BeginsWith ("func (" ++ ("c *" ++ r ++ ") ")) f.header := by
      simpa [BeginsWith] using h
    have hsome := (beginsWith_header hname).mp hlead.of_append
    obtain ⟨r', hr'⟩ := Option.isSome_iff_exists.mp hsome
    have hprefix : r.toList ++ [')', ' '] <+: r'.toList ++ ')' :: (" " ++ f.name ++ "("
        ++ paramsText f.params ++ ")" ++ resultsText f.results ++ " \x7b").toList := by
      simpa [BeginsWith, header, hr'] using h
    obtain ⟨rest, hrest⟩ := hprefix
    rw [List.append_assoc] at hrest
    have heq := eq_of_append_cons hr (hf r' hr') hrest
    rw [hr', String.toList_inj.mp heq]
  · intro h
    rw [BeginsWith, header, h]
    simp

/-- All lines of the struct are on one line. -/
structure Struct.Printable (s : Struct) : Prop where
  name : OneLine s.name
  fields : ∀ f ∈ s.fields, OneLine f.1 ∧ OneLine f.2.text

/-- The lines of a printable struct are single lines. -/
theorem Struct.Printable.oneLine {s : Struct} (h : s.Printable) :
  ∀ l ∈ s.lines, OneLine l
  := by
  rw [lines, structLines, List.forall_mem_append, List.forall_mem_append,
    List.forall_mem_singleton, List.forall_mem_singleton]
  and_intros
  · simp +decide [h.name]
  · apply oneLine_fieldLines
    rw [List.forall_mem_map]
    apply h.fields
  · decide

/-! ### Files -/

/-- The names and types of the item are on one line each. -/
def Item.Printable : Item → Prop
  | .gap => True
  | .comment text => OneLine text
  | .struct s => s.Printable
  | .func f => f.Printable

/-- The lines of a printable part of a file are single lines. -/
theorem Item.Printable.oneLine {item : Item} (h : item.Printable) :
  ∀ l ∈ item.lines, OneLine l
  := by
  cases item with
  | gap => decide
  | comment text =>
      rw [lines, List.forall_mem_singleton]
      rw [Printable] at h
      simp +decide [h]
  | struct s => apply Struct.Printable.oneLine h
  | func f => exact Func.Printable.oneLine h

/-- The method that the item declares. -/
def Item.method? (item : Item) : Option Func :=
  item.func?.filter (·.receiver.isSome)

/-- A part of a file is a method exactly if it is a function with a receiver. -/
theorem Item.method?_eq_some {item : Item} {f : Func} :
  item.method? = some f ↔ item = .func f ∧ f.receiver.isSome = true
  := by
  rw [method?]
  cases item with
  | func g =>
      rw [func?, Option.filter_eq_some_iff, Option.some.injEq, func.injEq]
  | _ => simp [func?]

/-- None of the lines that begin with one text begins with another one. -/
theorem filter_eq_nil_of_beginsWith (lead : String) {lead' : String} {ls : List String}
    (hlead : ¬ BeginsWith lead lead') (hlead' : ¬ BeginsWith lead' lead)
    (h : ∀ l ∈ ls, BeginsWith lead l) :
  ls.filter (BeginsWith lead') = []
  := by
  apply List.filter_eq_nil_iff.mpr
  intro l hl
  have := (h l hl).not_beginsWith hlead hlead'
  simpa using this

/-- A text begins with what it is put together from first. -/
theorem beginsWith_append (s t : String) :
  BeginsWith s (s ++ t)
  := by
  rw [BeginsWith, String.toList_append]
  apply List.prefix_append

/-- No line of a struct opens a method. -/
theorem Struct.filter_methodLines (s : Struct) :
  s.lines.filter (BeginsWith "func (") = []
  := by
  rw [lines, structLines, List.filter_append, List.filter_append]
  rw [filter_eq_nil_of_beginsWith "type " (by decide) (by decide),
    filter_eq_nil_of_beginsWith "\t" (by decide) (by decide)]
  · decide
  · intro l hl
    obtain ⟨f, -, rfl⟩ := List.mem_map.mp hl
    simp [BeginsWith]
  · simp [BeginsWith]

/-- Of the lines of a function only the first one can open a method, and does so if the function has
a receiver. -/
theorem Func.filter_methodLines {f : Func} (h : isIdentifier f.name.toList) :
  f.lines.filter (BeginsWith "func (")
    = if f.receiver.isSome then [f.header] else []
  := by
  have hbody : (f.body.flatMap Stmt.lines ++ ["\x7d"]).filter (BeginsWith "func (") = [] := by
    rw [List.filter_append, filter_eq_nil_of_beginsWith "\t" (by decide) (by decide)]
    · decide
    · intro l hl
      obtain ⟨s, -, hl⟩ := List.mem_flatMap.mp hl
      apply Stmt.beginsWith_tab l hl
  rw [lines, List.filter_cons, hbody]
  simp only [decide_eq_true_eq, beginsWith_header h]

/-- The lines of an item that open a method: the header, if the item declares one. -/
theorem Item.filter_methodLines {item : Item} (h : item.Printable) :
  item.lines.filter (BeginsWith "func (") = item.method?.toList.map Func.header
  := by
  cases item with
  | gap => decide
  | comment text =>
      apply filter_eq_nil_of_beginsWith "// " (by decide) (by decide)
      rw [lines, List.forall_mem_singleton]
      apply beginsWith_append
  | struct s => apply s.filter_methodLines
  | func f =>
      rw [lines, Func.filter_methodLines (Func.Printable.name h), method?, func?,
        Option.filter_some]
      cases f.receiver.isSome <;> rfl

namespace File

/-- The names and types of the file are on one line each. -/
def Printable (f : File) : Prop :=
  ∀ item ∈ f.items, item.Printable

/-- The text after the import block. -/
def body (f : File) : String :=
  ofLines f.bodyLines

/-- The methods that the file declares. -/
def methods (f : File) : List Func :=
  f.items.filterMap Item.method?

/-- The text of a file is its import block and then its body. -/
theorem text_eq (f : File) :
  f.text = ofLines (preambleLines f.package f.imports) ++ f.body
  := by
  rw [text, lines, ofLines_append]
  rfl

/-- The lines of the body of a printable file are those of its parts, and the empty one at the
end. -/
theorem Printable.lines_body {f : File} (h : f.Printable) :
  Text.lines f.body = f.bodyLines ++ [""]
  := by
  apply lines_ofLines
  intro l hl
  obtain ⟨item, hitem, hl⟩ := List.mem_flatMap.mp hl
  apply (h item hitem).oneLine l hl

/-- The lines that open a method are the headers of the methods of the file. -/
theorem Printable.filter_methodLines {f : File} (h : f.Printable) :
  (Text.lines f.body).filter (BeginsWith "func (") = f.methods.map Func.header
  := by
  have hitems : ∀ items : List Item, (∀ item ∈ items, item.Printable) →
      (items.flatMap Item.lines).filter (BeginsWith "func (")
        = (items.filterMap Item.method?).map Func.header := by
    intro items h
    induction items with
    | nil => rfl
    | cons item items ih =>
        obtain ⟨hitem, hitems⟩ := List.forall_mem_cons.mp h
        rw [List.flatMap_cons, List.filter_append, item.filter_methodLines hitem, ih hitems,
          List.filterMap_cons]
        cases item.method? <;> rfl
  rw [h.lines_body, List.filter_append, bodyLines, hitems f.items h, methods]
  simp [BeginsWith]

/-- The lines that open a method of a receiver are the headers of the methods with that
receiver. -/
theorem Printable.filter_receiverLines {f : File} (h : f.Printable) {r : String}
    (hr : ')' ∉ r.toList) (hf : ∀ m ∈ f.methods, ∀ r', m.receiver = some r' → ')' ∉ r'.toList) :
  (Text.lines f.body).filter (BeginsWith ("func (c *" ++ r ++ ") "))
    = (f.methods.filter (·.receiver = some r)).map Func.header
  := by
  have hmethod : ∀ l, BeginsWith ("func (c *" ++ r ++ ") ") l → BeginsWith "func (" l := by
    intro l hl
    have hlead : BeginsWith ("func (" ++ ("c *" ++ r ++ ") ")) l := by
      simpa [BeginsWith] using hl
    apply hlead.of_append
  have hfilter : (Text.lines f.body).filter (BeginsWith ("func (c *" ++ r ++ ") "))
      = ((Text.lines f.body).filter (BeginsWith "func (")).filter
        (BeginsWith ("func (c *" ++ r ++ ") ")) := by
    rw [List.filter_filter]
    apply List.filter_congr
    intro l _
    simpa using hmethod l
  rw [hfilter, h.filter_methodLines, List.filter_map]
  congr 1
  apply List.filter_congr
  intro m hm
  have hname : isIdentifier m.name.toList := by
    obtain ⟨item, hitem, hm⟩ := List.mem_filterMap.mp hm
    obtain ⟨rfl, -⟩ := Item.method?_eq_some.mp hm
    apply Func.Printable.name (h _ hitem)
  simp [Func.beginsWith_receiver hr (hf m hm) hname]

end File

end Code

end ClientWrap
