import ClientWrap.Proofs.Code.Calling

/-!
# Scanning literals

A scanner goes through a text character by character and reads a string literal wherever it meets a
quote. The literal for a text is read back as that text and ends at its closing quote
(`readLiteral_quotedChars`), so the scanner finds in the code of a file exactly the strings of its
expressions, and with other strings in their place it finds everything else where it was
(`File.carries_strings`).
-/

namespace ClientWrap.Text

/-- Reads the literal that a text begins with: what it stands for and what follows it. -/
def readLiteral : List Char → Option (List Char × List Char)
  | '"' :: s => unescape s
  | _ => none

/-- The literal for a text is read up to its closing quote. -/
theorem readLiteral_quotedChars (s rest : List Char) :
  readLiteral (quotedChars s ++ rest) = some (s, rest)
  := by
  rw [quotedChars, List.cons_append, List.append_assoc]
  apply unescape_escape

end ClientWrap.Text

namespace ClientWrap.Code

open ClientWrap.Text

/-! ### Glyphs -/

/-- What a scanner finds: a character of code, or a string literal with what it stands for. -/
inductive Glyph where
  | code (c : Char)
  | literal (value : String)
  deriving DecidableEq

/-- What the literal stands for. -/
def Glyph.value? : Glyph → Option String
  | code _ => none
  | literal value => some value

/-- The glyph, with another value if it is a literal. -/
def Glyph.withValue (f : String → String) : Glyph → Glyph
  | code c => code c
  | literal value => literal (f value)

/-- A glyph is the same with its own value. -/
theorem Glyph.withValue_id :
  withValue id = id
  := by
  funext g
  cases g <;> rfl

/-- The glyphs of a text. An apostrophe or a backquote would open a literal of another kind; a text
with one in its code is not scanned. -/
def scan : List Char → Option (List Glyph)
  | [] => some []
  | c :: s =>
    if c = '"' then
      match _h : unescape s with
      | some (value, rest) => (scan rest).map (.literal (String.ofList value) :: ·)
      | none => none
    else if opensLiteral c then none
    else (scan s).map (.code c :: ·)
termination_by s => s.length
decreasing_by
  · have hlength := length_of_unescape _h
    rw [List.length_cons]
    omega
  · rw [List.length_cons, Nat.lt_succ_iff]

/-- The scanner finds the glyphs in the text whatever is behind it. -/
def Scans (s : String) (gs : List Glyph) : Prop :=
  ∀ rest, scan (s.toList ++ rest) = (scan rest).map (gs ++ ·)

section

variable {s t : String} {gs us : List Glyph}

/-- What scans to glyphs is scanned to them when nothing follows. -/
theorem Scans.scan_eq (h : Scans s gs) :
  scan s.toList = some gs
  := by
  have hscan := h []
  rwa [List.append_nil, scan, Option.map_some, List.append_nil] at hscan

/-- Texts that follow each other scan to their glyphs one after another. -/
theorem Scans.append (hs : Scans s gs) (ht : Scans t us) :
  Scans (s ++ t) (gs ++ us)
  := by
  intro rest
  rw [String.toList_append, List.append_assoc, hs, ht, Option.map_map]
  simp only [Function.comp_def, List.append_assoc]

/-- Characters that open no literal are scanned one by one. -/
theorem scan_append_of_plain {cs : List Char} (h : ∀ c ∈ cs, opensLiteral c = false)
    (rest : List Char) :
  scan (cs ++ rest) = (scan rest).map (cs.map .code ++ ·)
  := by
  induction cs with
  | nil => simp
  | cons c cs ih =>
      obtain ⟨hc, hcs⟩ := List.forall_mem_cons.mp h
      have hquote : c ≠ '"' := by
        rintro rfl
        exact absurd hc (by decide)
      rw [List.cons_append, scan, if_neg hquote, if_neg (by simp [hc]), ih hcs, Option.map_map]
      rfl

/-- A text that opens no literal scans to its characters. -/
theorem scans_plain (h : Plain s) :
  Scans s (s.toList.map .code)
  := by
  apply scan_append_of_plain
  intro c hc
  simpa using List.all_eq_true.mp h c hc

/-- A quoted value scans to one literal with this value. -/
theorem scans_quoted (value : String) :
  Scans (quoted value) [.literal value]
  := by
  intro rest
  have hquoted : (quoted value).toList ++ rest = '"' :: (escape value.toList ++ '"' :: rest) := by
    simp [quoted, quotedChars]
  rw [hquoted, scan, if_pos rfl]
  split
  · next read after h =>
      rw [unescape_escape] at h
      obtain ⟨rfl, rfl⟩ := Prod.mk.inj (Option.some.inj h)
      rw [String.ofList_toList]
      rfl
  · next h =>
      rw [unescape_escape] at h
      exact absurd h (Option.some_ne_none _)

end

/-! ### Texts around values -/

/-- The literals of a text stand for the values. When these are replaced, so are the literals, and
everything else that the scanner finds stays. -/
def Frames (text : (String → String) → String) (values : List String) : Prop :=
  ∃ gs : List Glyph, gs.filterMap Glyph.value? = values
    ∧ ∀ f, Scans (text f) (gs.map (Glyph.withValue f))

section

variable {text text' : (String → String) → String} {values values' : List String}

/-- A text without literals is a frame around no values. -/
theorem frames_plain {s : String} (h : Plain s) :
  Frames (fun _ => s) []
  := by
  refine ⟨s.toList.map .code, ?_, ?_⟩
  · rw [List.filterMap_map]
    apply List.filterMap_eq_nil_iff.mpr
    intro c _
    rfl
  · intro f
    rw [List.map_map]
    apply scans_plain h

/-- A quoted value is the frame of its value. -/
theorem frames_quoted (value : String) :
  Frames (fun f => quoted (f value)) [value]
  := ⟨[.literal value], rfl, fun f => scans_quoted (f value)⟩

/-- Frames that follow each other are a frame around the values of both. -/
theorem Frames.append (h : Frames text values) (h' : Frames text' values') :
  Frames (fun f => text f ++ text' f) (values ++ values')
  := by
  obtain ⟨gs, rfl, hscans⟩ := h
  obtain ⟨gs', rfl, hscans'⟩ := h'
  refine ⟨gs ++ gs', List.filterMap_append, ?_⟩
  intro f
  rw [List.map_append]
  apply (hscans f).append (hscans' f)

/-- Plain text in front. -/
theorem Frames.lead (h : Frames text values) (s : String) (hs : Plain s) :
  Frames (fun f => s ++ text f) values
  := (frames_plain hs).append h

/-- Plain text behind. -/
theorem Frames.trail (h : Frames text values) (s : String) (hs : Plain s) :
  Frames (fun f => text f ++ s) values
  := by
  have hframes := h.append (frames_plain hs)
  rwa [List.append_nil] at hframes

end

section

variable {α : Type} {l : List α} {text : (String → String) → α → String} {values : α → List String}

/-- Frames with commas between them are a frame around the values of all. -/
theorem frames_commas (h : ∀ a ∈ l, Frames (text · a) (values a)) :
  Frames (fun f => ", ".intercalate (l.map (text f))) (l.flatMap values)
  := by
  induction l with
  | nil => apply frames_plain (s := "") (by decide)
  | cons a l ih =>
      obtain ⟨ha, hl⟩ := List.forall_mem_cons.mp h
      cases l with
      | nil => simpa using ha
      | cons b l =>
          have hframes := ha.append ((ih hl).lead ", " (by decide))
          simpa [String.append_assoc] using hframes

/-- A frame that is a line of its own is a frame. -/
theorem frames_line {line : (String → String) → String} {values : List String}
    (h : Frames line values) :
  Frames (fun f => ofLines [line f]) values
  := by
  simpa [ofLines] using h.trail "\n" (by decide)

/-- The lines of two texts. -/
theorem Frames.appendLines {lines lines' : (String → String) → List String}
    {values values' : List String} (h : Frames (fun f => ofLines (lines f)) values)
    (h' : Frames (fun f => ofLines (lines' f)) values') :
  Frames (fun f => ofLines (lines f ++ lines' f)) (values ++ values')
  := by
  simpa only [ofLines_append] using h.append h'

/-- The lines of several texts. -/
theorem frames_flatMap {lines : (String → String) → α → List String}
    (h : ∀ a ∈ l, Frames (fun f => ofLines (lines f a)) (values a)) :
  Frames (fun f => ofLines (l.flatMap (lines f))) (l.flatMap values)
  := by
  induction l with
  | nil => apply frames_plain (s := "") (by decide)
  | cons a l ih =>
      obtain ⟨ha, hl⟩ := List.forall_mem_cons.mp h
      simpa only [List.flatMap_cons] using ha.appendLines (ih hl)

/-- Frames that are a line each are a frame around the values of all. -/
theorem frames_ofLines (h : ∀ a ∈ l, Frames (text · a) (values a)) :
  Frames (fun f => ofLines (l.map (text f))) (l.flatMap values)
  := by
  induction l with
  | nil => apply frames_plain (s := "") (by decide)
  | cons a l ih =>
      obtain ⟨ha, hl⟩ := List.forall_mem_cons.mp h
      have hframes := (ha.trail "\n" (by decide)).append (ih hl)
      simpa only [List.map_cons, ofLines_cons, List.flatMap_cons] using hframes

end

/-! ### Expressions -/

/-- A text without literals between others without any has none. -/
theorem Plain.between {s : String} (h : Plain s) (lead trail : String) (hlead : Plain lead)
    (htrail : Plain trail) :
  Plain (lead ++ s ++ trail)
  := plain_append.mpr ⟨plain_append.mpr ⟨hlead, h⟩, htrail⟩

/-- Texts without literals have none with commas between them. -/
theorem plain_commas {ss : List String} (h : ∀ s ∈ ss, Plain s) :
  Plain (", ".intercalate ss)
  := by
  induction ss with
  | nil => decide
  | cons s ss ih =>
      obtain ⟨hs, hss⟩ := List.forall_mem_cons.mp h
      cases ss with
      | nil => simpa using hs
      | cons t ss =>
          rw [String.intercalate_cons_cons, plain_append, plain_append]
          exact ⟨⟨hs, by decide⟩, ih hss⟩

/-- A word has no literals. -/
theorem IsWord.plain {s : String} (h : IsWord s) :
  Plain s
  := plain_of_word h.2

namespace Expr

mutual

/-- The expression with other string literals. -/
def withStrings (f : String → String) : Expr → Expr
  | name id => name id
  | qualified package id => qualified package id
  | string value => string (f value)
  | select base id => select (base.withStrings f) id
  | call callee args => call (callee.withStrings f) (withStringsEach f args)
  | spread e => spread (e.withStrings f)
  | fresh type values => fresh type (withStringsEach f values)

/-- The expressions of a list with other string literals. -/
def withStringsEach (f : String → String) : List Expr → List Expr
  | [] => []
  | e :: rest => e.withStrings f :: withStringsEach f rest

end

mutual

/-- What the string literals in the expression stand for. -/
def strings : Expr → List String
  | name _ | qualified _ _ => []
  | string value => [value]
  | select e _ | spread e => e.strings
  | call callee args => callee.strings ++ stringsAll args
  | fresh _ values => stringsAll values

/-- What the string literals in the expressions of a list stand for. -/
def stringsAll : List Expr → List String
  | [] => []
  | e :: rest => e.strings ++ stringsAll rest

end

/-- To change the literals of expressions is to change those of each. -/
theorem withStringsEach_eq_map (f : String → String) (es : List Expr) :
  withStringsEach f es = es.map (withStrings f)
  := by
  induction es with
  | nil => rfl
  | cons e rest ih => rw [withStringsEach, ih, List.map_cons]

/-- The literals of expressions are those of each in turn. -/
theorem stringsAll_eq_flatMap (es : List Expr) :
  stringsAll es = es.flatMap strings
  := by
  induction es with
  | nil => rfl
  | cons e rest ih => rw [stringsAll, ih, List.flatMap_cons]

mutual

/-- An expression is the same with its own literals. -/
theorem withStrings_id (e : Expr) :
  e.withStrings id = e
  := by
  cases e with
  | name id | qualified package id | string value => rfl
  | select base id => rw [withStrings, withStrings_id base]
  | call callee args => rw [withStrings, withStrings_id callee, withStringsEach_id args]
  | spread e => rw [withStrings, withStrings_id e]
  | fresh type values => rw [withStrings, withStringsEach_id values]

/-- Expressions are the same with their own literals. -/
theorem withStringsEach_id (es : List Expr) :
  withStringsEach id es = es
  := by
  cases es with
  | nil => rfl
  | cons e rest => rw [withStringsEach, withStrings_id e, withStringsEach_id rest]

end

/-- Expressions with commas between them. -/
theorem frames_texts {es : List Expr}
    (h : ∀ e ∈ es, Frames (fun f => (e.withStrings f).text) e.strings) :
  Frames (fun f => ", ".intercalate (texts (withStringsEach f es))) (stringsAll es)
  := by
  have hframes := frames_commas h
  simpa only [texts_eq_map, withStringsEach_eq_map, List.map_map, Function.comp_def,
    stringsAll_eq_flatMap] using hframes

/-- There are no literals in a word. -/
theorem withStrings_of_word (f : String → String) (e : Expr) (h : e.text.toList.all isWordChar) :
  e.withStrings f = e ∧ e.strings = []
  := by
  cases e with
  | name id | qualified package id => exact ⟨rfl, rfl⟩
  | select base id =>
      rw [text, String.toList_append, String.toList_append, List.all_append, List.all_append,
        Bool.and_eq_true, Bool.and_eq_true] at h
      obtain ⟨hbase, hstrings⟩ := withStrings_of_word f base h.1.1
      rw [withStrings, hbase]
      exact ⟨rfl, hstrings⟩
  | spread e =>
      rw [text, String.toList_append, List.all_append, Bool.and_eq_true] at h
      obtain ⟨he, hstrings⟩ := withStrings_of_word f e h.1
      rw [withStrings, he]
      exact ⟨rfl, hstrings⟩
  | string value =>
      have hquote := List.all_eq_true.mp h '"' (by simp [text, quoted, quotedChars])
      exact absurd hquote (by decide)
  | call callee args =>
      have hopening := List.all_eq_true.mp h '(' (by simp [text])
      exact absurd hopening (by decide)
  | fresh type values =>
      have hreference := List.all_eq_true.mp h '&' (by simp [text])
      exact absurd hreference (by decide)

/-- An expression that is printed as a word is a frame around no values. -/
theorem frames_of_word {e : Expr} (h : IsWord e.text) :
  Frames (fun f => (e.withStrings f).text) e.strings
  := by
  have hword := fun f => e.withStrings_of_word f h.2
  simp only [(hword _).1, (hword id).2]
  apply frames_plain h.plain

mutual

/-- Around the literals of an expression there is plain text. -/
theorem Readable.frames {e : Expr} (h : e.Readable) :
  Frames (fun f => (e.withStrings f).text) e.strings
  := by
  cases e with
  | name id | qualified package id | select base id | spread e => apply frames_of_word h
  | string value => apply frames_quoted
  | call callee args =>
      obtain ⟨hcallee, hargs⟩ := h
      have hframes := ((frames_of_word hcallee).append
        ((frames_texts (frames_all hargs)).lead "(" (by decide))).trail ")" (by decide)
      simpa only [withStrings, text, strings, String.append_assoc] using hframes
  | fresh type values =>
      obtain ⟨htype, hvalues⟩ := h
      have hframes := (((frames_texts (frames_all hvalues)).lead "\x7b" (by decide)).trail "\x7d"
        (by decide)).lead ("&" ++ type) (plain_append.mpr ⟨by decide, htype.plain⟩)
      simpa only [withStrings, text, strings, String.append_assoc] using hframes

/-- Readable expressions are frames around their literals. -/
theorem frames_all {es : List Expr} (h : ReadableAll es) :
  ∀ e ∈ es, Frames (fun f => (e.withStrings f).text) e.strings
  := by
  cases es with
  | nil => apply List.forall_mem_nil
  | cons e rest => exact List.forall_mem_cons.mpr ⟨h.1.frames, frames_all h.2⟩

end

end Expr

/-! ### Statements -/

namespace Step

/-- The statement with other string literals. -/
def withStrings (f : String → String) : Step → Step
  | run e => run (e.withStrings f)
  | give es => give (Expr.withStringsEach f es)
  | define names e => define names (e.withStrings f)
  | assign target e => assign target (e.withStrings f)
  | atReturn e => atReturn (e.withStrings f)

/-- What the string literals in the statement stand for. -/
def strings : Step → List String
  | run e | define _ e | assign _ e | atReturn e => e.strings
  | give es => Expr.stringsAll es

/-- A statement on one line is the same with its own literals. -/
theorem withStrings_id :
  withStrings id = id
  := by
  funext s
  cases s <;> simp only [withStrings, Expr.withStrings_id, Expr.withStringsEach_id, id]

/-- A readable statement on one line is a frame around its literals. -/
theorem Readable.frames {s : Step} (h : s.Readable) :
  Frames (fun f => (s.withStrings f).text) s.strings
  := by
  cases s with
  | run e => apply Expr.Readable.frames h
  | give es => apply (Expr.frames_texts (Expr.frames_all h)).lead "return " (by decide)
  | define names e =>
      obtain ⟨hnames, he⟩ := h
      have hplain : Plain (", ".intercalate names ++ " := ") :=
        plain_append.mpr ⟨plain_commas fun name hname => (hnames name hname).plain, by decide⟩
      apply he.frames.lead _ hplain
  | assign target e =>
      have hplain : Plain (target ++ " = ") := plain_append.mpr ⟨h.1.plain, by decide⟩
      apply h.2.frames.lead _ hplain
  | atReturn e => apply (Expr.Readable.frames h).lead "defer " (by decide)

end Step

/-- Lines without literals have none together. -/
theorem plain_ofLines {ls : List String} (h : ∀ l ∈ ls, Plain l) :
  Plain (ofLines ls)
  := by
  induction ls with
  | nil => decide
  | cons l ls ih =>
      obtain ⟨hl, hls⟩ := List.forall_mem_cons.mp h
      rw [ofLines_cons, plain_append, plain_append]
      exact ⟨⟨hl, by decide⟩, ih hls⟩

/-- Lines without literals are a frame around no values. -/
theorem frames_plainLines {ls : List String} (h : ∀ l ∈ ls, Plain l) :
  Frames (fun _ => ofLines ls) []
  := frames_plain (plain_ofLines h)

/-- Padding adds no literals. -/
theorem plain_padTo (width : ℕ) {s : String} (h : Plain s) :
  Plain (padTo width s)
  := by
  apply plain_append.mpr ⟨h, ?_⟩
  apply List.all_eq_true.mpr
  intro c hc
  rw [String.toList_ofList] at hc
  obtain rfl := List.eq_of_mem_replicate hc
  decide

namespace Stmt

/-- The statement with other string literals. -/
def withStrings (f : String → String) : Stmt → Stmt
  | step s => step (s.withStrings f)
  | defineCall names callee args =>
    defineCall names (callee.withStrings f) (Expr.withStringsEach f args)
  | giveFresh type fields => giveFresh type (fields.map fun (key, e) => (key, e.withStrings f))
  | ifPresent value body => ifPresent value (body.map (Step.withStrings f))

/-- What the string literals in the statement stand for. -/
def strings : Stmt → List String
  | step s => s.strings
  | defineCall _ callee args => callee.strings ++ Expr.stringsAll args
  | giveFresh _ fields => fields.flatMap fun (_, e) => e.strings
  | ifPresent _ body => body.flatMap Step.strings

/-- A statement is the same with its own literals. -/
theorem withStrings_id :
  withStrings id = id
  := by
  funext s
  cases s <;>
    simp [withStrings, Expr.withStrings_id, Expr.withStringsEach_id, Step.withStrings_id]

/-- The fields of a struct with their values, each on a line of its own. The values begin in the
same column whatever their literals are, since the column depends on the keys only. -/
theorem frames_keyedLines {fields : List (String × Expr)}
    (h : ∀ field ∈ fields, IsWord field.1 ∧ field.2.Readable) :
  Frames (fun f => ofLines (keyedLines "\t\t" (fields.map fun (key, e) =>
      (key, (e.withStrings f).text))))
    (fields.flatMap fun (_, e) => e.strings)
  := by
  have hfield : ∀ width, ∀ field ∈ fields, Frames (fun f => "\t\t"
      ++ padTo width (field.1 ++ ":") ++ " " ++ (field.2.withStrings f).text ++ ",")
      field.2.strings := by
    intro width field hfield
    have hkey : Plain (field.1 ++ ":") :=
      plain_append.mpr ⟨(h field hfield).1.plain, by decide⟩
    have hlead := (plain_padTo width hkey).between "\t\t" " " (by decide) (by decide)
    apply ((h field hfield).2.frames.lead _ hlead).trail "," (by decide)
  have hframes := frames_ofLines (hfield (widest (fields.map (·.1 ++ ":"))))
  simpa only [keyedLines, List.map_map, Function.comp_def] using hframes

/-- The lines of a readable statement are a frame around its literals. -/
theorem Readable.frames {s : Stmt} (h : s.Readable) :
  Frames (fun f => ofLines (s.withStrings f).lines) s.strings
  := by
  have hcall : ∀ l ∈ ["\t)"], Plain l := by decide
  have hclosing : ∀ l ∈ ["\t\x7d"], Plain l := by decide
  cases s with
  | step s => apply frames_line ((Step.Readable.frames h).lead "\t" (by decide))
  | defineCall names callee args =>
      obtain ⟨hnames, hcallee, hargs⟩ := h
      have hcommas := plain_commas fun name hname => (hnames name hname).plain
      have hplain := hcommas.between "\t" " := " (by decide) (by decide)
      have hopening := frames_line
        (((Expr.frames_of_word hcallee).lead _ hplain).trail "(" (by decide))
      have hlines := frames_ofLines fun e he =>
        ((Expr.frames_all hargs e he).lead "\t\t" (by decide)).trail "," (by decide)
      have hframes := (hopening.appendLines hlines).appendLines (frames_plainLines hcall)
      simpa only [withStrings, lines, strings, Expr.texts_eq_map, Expr.withStringsEach_eq_map,
        Expr.stringsAll_eq_flatMap, List.map_map, Function.comp_def, List.append_nil,
        String.append_assoc] using hframes
  | giveFresh type fields =>
      obtain ⟨htype, hfields⟩ := h
      have hplain := htype.plain.between "\treturn &" "\x7b" (by decide) (by decide)
      have hframes := ((frames_plainLines (List.forall_mem_singleton.mpr hplain)).appendLines
        (frames_keyedLines hfields)).appendLines (frames_plainLines hclosing)
      simpa only [withStrings, lines, strings, List.map_map, Function.comp_def, List.append_nil,
        List.nil_append] using hframes
  | ifPresent value body =>
      obtain ⟨hvalue, hbody⟩ := h
      have hplain := hvalue.plain.between "\tif " " != nil \x7b" (by decide) (by decide)
      have hopening := frames_plainLines (List.forall_mem_singleton.mpr hplain)
      have hlines := frames_ofLines fun s hs =>
        (Step.Readable.frames (hbody s hs)).lead "\t\t" (by decide)
      have hframes := (hopening.appendLines hlines).appendLines (frames_plainLines hclosing)
      simpa only [withStrings, lines, strings, List.map_map, Function.comp_def, List.append_nil,
        List.nil_append] using hframes

end Stmt

/-! ### Files -/

/-- A readable parameter or field has no literals. -/
theorem ReadableEntry.plain {p : String × GoType} (h : ReadableEntry p) :
  Plain (p.1 ++ " " ++ p.2.text)
  := by
  rw [plain_append, plain_append]
  exact ⟨⟨h.1.plain, by decide⟩, h.2.plain⟩

/-- Readable parameters have no literals. -/
theorem plain_paramsText {params : List (String × GoType)} (h : ∀ p ∈ params, ReadableEntry p) :
  Plain (paramsText params)
  := by
  apply plain_commas
  rw [List.forall_mem_map]
  intro p hp
  apply (h p hp).plain

/-- Readable results have no literals. -/
theorem plain_resultsText {results : List GoType} (h : ∀ t ∈ results, Inert t.text) :
  Plain (resultsText results)
  := by
  match results with
  | [] => decide
  | [t] => exact plain_append.mpr ⟨by decide, (h t (List.mem_singleton_self t)).plain⟩
  | t :: u :: rest =>
      have hcommas : Plain (", ".intercalate ((t :: u :: rest).map GoType.text)) := by
        apply plain_commas
        rw [List.forall_mem_map]
        intro t ht
        apply (h t ht).plain
      rw [resultsText, plain_append, plain_append]
      · exact ⟨⟨by decide, hcommas⟩, by decide⟩
      all_goals simp

namespace Func

/-- The function with other string literals. -/
def withStrings (f : String → String) (g : Func) : Func :=
  { g with body := g.body.map (Stmt.withStrings f) }

/-- What the string literals in the function stand for. -/
def strings (g : Func) : List String :=
  g.body.flatMap Stmt.strings

variable {g : Func}

/-- The line that opens a readable function has no literals. -/
theorem Readable.plain_header (h : g.Readable) :
  Plain g.header
  := by
  have hparams := plain_paramsText h.params
  have hresults := plain_resultsText h.results
  have hname := (isWord_of_isIdentifier h.name).plain
  rw [header]
  cases hreceiver : g.receiver with
  | none => simp +decide [plain_append, hname, hparams, hresults]
  | some r =>
      simp +decide [plain_append, hname, hparams, hresults, (h.receiver r hreceiver).plain]

/-- A function is the same with its own literals. -/
theorem withStrings_id (g : Func) :
  g.withStrings id = g
  := by
  rw [withStrings, Stmt.withStrings_id, List.map_id]

/-- With other literals only the lines of the body of a function are others. -/
theorem lines_withStrings (f : String → String) (g : Func) :
  (g.withStrings f).lines
    = [g.header] ++ g.body.flatMap (fun s => (s.withStrings f).lines) ++ ["\x7d"]
  := by
  rw [lines, withStrings, List.flatMap_map]
  rfl

/-- The lines of a readable function are a frame around its literals. -/
theorem Readable.frames (h : g.Readable) :
  Frames (fun f => ofLines (g.withStrings f).lines) g.strings
  := by
  have hclosing : ∀ l ∈ ["\x7d"], Plain l := by decide
  have hbody := frames_flatMap fun s hs => (h.body s hs).frames
  have hframes := ((frames_plainLines (List.forall_mem_singleton.mpr h.plain_header)).appendLines
    hbody).appendLines (frames_plainLines hclosing)
  simpa only [lines_withStrings, strings, List.append_nil, List.nil_append] using hframes

end Func

/-- The lines of a readable struct have no literals. -/
theorem Struct.Readable.plain_lines {s : Struct} (h : s.Readable) :
  ∀ l ∈ s.lines, Plain l
  := by
  have hheader := h.name.plain.between "type " " struct \x7b" (by decide) (by decide)
  have hclosing : Plain "\x7d" := by decide
  rw [lines, structLines, List.forall_mem_append, List.forall_mem_append, List.forall_mem_singleton,
    List.forall_mem_singleton]
  refine ⟨⟨hheader, ?_⟩, hclosing⟩
  rw [fieldLines, List.forall_mem_map, List.forall_mem_map]
  intro field hfield
  simp only [plain_append]
  exact ⟨⟨⟨by decide, plain_padTo _ (h.fields field hfield).1.plain⟩, by decide⟩,
    (h.fields field hfield).2.plain⟩

/-- Prose has no literals. -/
theorem IsProse.plain {s : String} (h : IsProse s) :
  Plain s
  := by
  apply List.all_eq_true.mpr
  intro c hc
  rw [not_opensLiteral (Bool.or_eq_true_iff.mp (List.all_eq_true.mp h c hc))]
  rfl

namespace Item

/-- The item with other string literals. -/
def withStrings (f : String → String) : Item → Item
  | func g => func (g.withStrings f)
  | item => item

/-- What the string literals in the item stand for. -/
def strings : Item → List String
  | func g => g.strings
  | _ => []

/-- A part of a file is the same with its own literals. -/
theorem withStrings_id :
  withStrings id = id
  := by
  funext item
  cases item with
  | func g => rw [withStrings, g.withStrings_id, id]
  | _ => rfl

/-- The lines of a readable part of a file are a frame around its literals. -/
theorem Readable.frames {item : Item} (h : item.Readable) :
  Frames (fun f => ofLines (item.withStrings f).lines) item.strings
  := by
  cases item with
  | gap => apply frames_plainLines (by decide)
  | comment text =>
      have hplain : Plain ("// " ++ text) := plain_append.mpr ⟨by decide, IsProse.plain h⟩
      apply frames_plainLines (List.forall_mem_singleton.mpr hplain)
  | struct s => apply frames_plainLines (Struct.Readable.plain_lines h)
  | func g => apply Func.Readable.frames h

end Item

namespace File

/-- The file with other string literals. -/
def withStrings (f : String → String) (file : File) : File :=
  { file with items := file.items.map (Item.withStrings f) }

/-- What the string literals in the file stand for. -/
def strings (file : File) : List String :=
  file.items.flatMap Item.strings

/-- They are those of its functions. -/
theorem strings_eq (file : File) :
  file.strings = file.funcs.flatMap Func.strings
  := by
  rw [strings, funcs, List.filterMap_eq_flatMap_toList, List.flatMap_assoc]
  apply List.flatMap_congr
  intro item _
  cases item with
  | func f => rw [Item.func?, Option.toList_some, List.flatMap_singleton, Item.strings]
  | _ => rfl

/-- A file is the same with its own literals. -/
theorem withStrings_id (file : File) :
  file.withStrings id = file
  := by
  rw [withStrings, Item.withStrings_id, List.map_id]

/-- The body of a file with readable parts is a frame around its literals. -/
theorem frames_body {file : File} (h : ∀ item ∈ file.items, item.Readable) :
  Frames (fun f => (file.withStrings f).body) file.strings
  := by
  have hframes := frames_flatMap fun item hitem => (h item hitem).frames
  simpa only [body, bodyLines, withStrings, strings, List.flatMap_map] using hframes

/-- What the scanner finds in the code of the file. -/
def glyphs? (file : File) : Option (List Glyph) :=
  scan file.body.toList

/-- What the scanner finds when there is nothing in the literals. -/
def frame? (file : File) : Option (List Glyph) :=
  file.glyphs?.map (List.map (Glyph.withValue fun _ => ""))

/-- The literals that the scanner finds stand for the values, in order. With other strings in the
file it finds the same code around them. -/
def Carries (file : File) (values : List String) : Prop :=
  ∃ gs, file.glyphs? = some gs ∧ gs.filterMap Glyph.value? = values
    ∧ ∀ f, (file.withStrings f).glyphs? = some (gs.map (Glyph.withValue f))

section

variable {file : File}

/-- In a readable file the scanner finds the strings of the expressions. -/
theorem carries_strings (h : ∀ item ∈ file.items, item.Readable) :
  file.Carries file.strings
  := by
  obtain ⟨gs, hvalues, hscans⟩ := frames_body h
  refine ⟨gs, ?_, hvalues, fun f => (hscans f).scan_eq⟩
  have hscan : scan (file.withStrings id).body.toList = some (gs.map (Glyph.withValue id)) :=
    (hscans id).scan_eq
  rwa [withStrings_id, Glyph.withValue_id, List.map_id] at hscan

/-- A file with nothing in its literals scans to what is outside of them. -/
theorem Carries.frame? {values : List String} (h : file.Carries values) :
  (file.withStrings fun _ => "").glyphs? = file.frame?
  := by
  obtain ⟨gs, hglyphs, -, hwith⟩ := h
  rw [hwith, File.frame?, hglyphs, Option.map_some]

end

end File

end ClientWrap.Code
