import ClientWrap.Proofs.Code.Signatures

/-!
# Lines that call a function

A line calls a function if the name stands in it before an opening bracket, and not inside a string
literal (`calling`). A qualified name is called in the bodies of a readable file only
(`File.calling_lines`), and there by the statements that hold the call
(`Stmt.Readable.calling_eq_nil`).
-/

namespace ClientWrap.Code

open ClientWrap.Text Token

/-- The functions that a line calls. -/
def callees (line : String) : List String :=
  (calls (tokens line)).map (·.1)

/-- The lines that call the function. -/
def calling (name : String) (ls : List String) : List String :=
  ls.filter (name ∈ callees ·)

/-- The functions that are called. -/
def calledIn (us : List Use) : List String :=
  (us.filterMap Use.call?).map (·.1)

section

variable {w name line : String} {ls ls' : List String} {ts : List Token} {us : List Use}

/-- Where nothing is used nothing is called. -/
@[simp]
theorem calledIn_nil :
  calledIn [] = []
  := rfl

/-- A call is counted. -/
@[simp]
theorem calledIn_call {args : List (List Token)} :
  calledIn (.call name args :: us) = name :: calledIn us
  := rfl

/-- A fresh struct calls nothing itself. -/
@[simp]
theorem calledIn_fresh {args : List (List Token)} :
  calledIn (.fresh name args :: us) = calledIn us
  := rfl

/-- What is called in several parts is called in one of them. -/
theorem calledIn_flatMap {α : Type} {f : α → List Use} {as : List α} :
  calledIn (as.flatMap f) = as.flatMap fun a => calledIn (f a)
  := by
  rw [calledIn, List.filterMap_flatMap, List.map_flatMap]
  rfl

/-- What a line calls is read from its tokens. -/
theorem callees_of_reads (h : Reads line ts) :
  callees line = calledIn (uses ts)
  := by
  rw [callees, h.tokens_eq]
  rfl

/-- The lines with a call among two lists are those of both. -/
theorem calling_append :
  calling w (ls ++ ls') = calling w ls ++ calling w ls'
  := List.filter_append ls ls'

/-- The lines with a call among several parts are those of each in turn. -/
theorem calling_flatMap {α : Type} {f : α → List String} {as : List α} :
  calling w (as.flatMap f) = as.flatMap fun a => calling w (f a)
  := List.filter_flatMap

/-- No line has the call exactly if none of them calls it. -/
theorem calling_eq_nil :
  calling w ls = [] ↔ ∀ l ∈ ls, w ∉ callees l
  := by
  simp [calling, List.filter_eq_nil_iff]

/-- No line has the call if none of their tokens do. -/
theorem calling_eq_nil_of_reads {tss : List (List Token)} (h : List.Forall₂ Reads ls tss)
    (htss : ∀ ts ∈ tss, w ∉ calledIn (uses ts)) :
  calling w ls = []
  := by
  rw [calling_eq_nil]
  intro l hl
  obtain ⟨ts, hts, hread⟩ := Outcome.exists_of_mem_left h hl
  rw [callees_of_reads hread]
  apply htss ts hts

end

/-! ### Statements -/

section

variable {w : String}

/-- The uses of a statement on one line are those of its tokens. -/
theorem Step.uses_self (s : Step) :
  Code.uses s.tokens = s.uses
  := by
  have huses := s.uses_tokens apart_nil
  rwa [List.append_nil, Code.uses, List.append_nil] at huses

/-- A comma behind an expression uses nothing. -/
theorem Expr.uses_comma (e : Expr) :
  Code.uses (e.tokens ++ [mark ',']) = e.uses
  := by
  rw [e.uses_tokens (apart_cons.mpr (by decide)), uses_mark (by decide), Code.uses, List.append_nil]

/-- An indented statement calls what is called in it. -/
theorem Step.Readable.callees {s : Step} (h : s.Readable) :
  callees ("\t" ++ s.text) = calledIn s.uses ∧ callees ("\t\t" ++ s.text) = calledIn s.uses
  := by
  rw [callees_of_reads (h.reads.lead "\t" (by decide)),
    callees_of_reads (h.reads.lead "\t\t" (by decide)), ← s.uses_self]
  exact ⟨rfl, rfl⟩

/-- The line of a statement has the call exactly if the statement makes it. -/
theorem calling_step {s : Step} (h : (Stmt.step s).Readable) :
  calling w (Stmt.step s).lines = if w ∈ calledIn s.uses then ["\t" ++ s.text] else []
  := by
  have h : s.Readable := h
  by_cases hw : w ∈ calledIn s.uses <;> simp [calling, Stmt.lines, h.callees.1, hw]

/-- The lines of a statement call nothing but what is called in the statement. -/
theorem Stmt.Readable.calling_eq_nil {s : Stmt} (h : s.Readable) (hw : w ∉ calledIn s.uses) :
  calling w s.lines = []
  := by
  apply calling_eq_nil_of_reads h.reads
  cases s with
  | step s =>
      rw [lineTokens, List.forall_mem_singleton, s.uses_self]
      apply hw
  | defineCall names callee args =>
      rw [uses, calledIn_call, List.mem_cons, not_or, Expr.usesAll_eq_flatMap, calledIn_flatMap,
        List.mem_flatMap] at hw
      rw [lineTokens, List.forall_mem_append, List.forall_mem_append, List.forall_mem_singleton,
        List.forall_mem_singleton, Expr.tokensEach_eq_map, List.map_map, List.forall_mem_map]
      and_intros
      · rw [uses_nameTokens (apart_cons.mpr (by decide)), uses_mark (by decide),
          uses_mark (by decide), uses_call]
        simpa [Code.uses] using hw.1
      · intro e he hmem
        rw [Function.comp_apply, e.uses_comma] at hmem
        apply hw.2 ⟨e, he, hmem⟩
      · simp [Code.uses]
  | giveFresh type fields =>
      rw [uses, calledIn_fresh, calledIn_flatMap, List.mem_flatMap] at hw
      rw [lineTokens, List.forall_mem_append, List.forall_mem_append, List.forall_mem_singleton,
        List.forall_mem_singleton, List.forall_mem_map]
      and_intros
      · simp [Code.uses]
      · intro f hf hmem
        change w ∈ calledIn (Code.uses (word f.1 :: mark ':' :: (f.2.tokens ++ [mark ',']))) at hmem
        rw [uses_word (apart_cons.mpr (by decide)), uses_mark (by decide), f.2.uses_comma] at hmem
        apply hw ⟨f, hf, hmem⟩
      · simp [Code.uses]
  | ifPresent value body =>
      rw [uses, calledIn_flatMap, List.mem_flatMap] at hw
      rw [lineTokens, List.forall_mem_append, List.forall_mem_append, List.forall_mem_singleton,
        List.forall_mem_singleton, List.forall_mem_map]
      and_intros
      · simp [Code.uses]
      · intro s hs hmem
        rw [s.uses_self] at hmem
        apply hw ⟨s, hs, hmem⟩
      · simp [Code.uses]

/-- A condition calls what the statements behind it call. -/
theorem calling_ifPresent {value : String} {body : List Step}
    (h : (Stmt.ifPresent value body).Readable) :
  calling w (Stmt.ifPresent value body).lines
    = (body.filter (w ∈ calledIn ·.uses)).map ("\t\t" ++ ·.text)
  := by
  have hbraces : calling w (Stmt.ifPresent value []).lines = [] := by
    have hempty : (Stmt.ifPresent value []).Readable := ⟨h.1, List.forall_mem_nil _⟩
    apply hempty.calling_eq_nil List.not_mem_nil
  rw [Stmt.lines, List.map_nil, List.append_nil, calling_append, List.append_eq_nil_iff] at hbraces
  have hbody : ∀ s ∈ body, (w ∈ callees ("\t\t" ++ s.text)) ↔ w ∈ calledIn s.uses := by
    intro s hs
    rw [(h.2 s hs).callees.2]
  rw [Stmt.lines, calling_append, calling_append, hbraces.1, hbraces.2, List.nil_append,
    List.append_nil, calling, List.filter_map]
  congr 1
  apply List.filter_congr
  intro s hs
  simp [hbody s hs]

end

/-! ### Files -/

/-- The body of a function calls nothing but what is called in its statements. -/
theorem Func.Readable.calling_eq_nil {w : String} {f : Func} (h : f.Readable)
    (hw : w ∉ calledIn (f.body.flatMap Stmt.uses)) :
  calling w f.bodyLines = []
  := by
  rw [calledIn_flatMap, List.mem_flatMap] at hw
  rw [bodyLines, calling_flatMap, List.flatMap_eq_nil_iff]
  intro s hs
  apply (h.body s hs).calling_eq_nil
  intro hmem
  apply hw ⟨s, hs, hmem⟩

/-- All characters of the text are blanks or characters of words. -/
def IsProse (s : String) : Prop :=
  s.toList.all fun c => isWordChar c || isBlank c

instance : DecidablePred IsProse :=
  fun s => inferInstanceAs (Decidable (s.toList.all fun c => isWordChar c || isBlank c))

/-- A joined text is prose exactly if its parts are. -/
theorem isProse_append {s t : String} :
  IsProse (s ++ t) ↔ IsProse s ∧ IsProse t
  := by
  simp [IsProse, List.all_append]

/-- A word is prose. -/
theorem IsWord.isProse {s : String} (h : IsWord s) :
  IsProse s
  := by
  apply List.all_eq_true.mpr
  intro c hc
  rw [List.all_eq_true.mp h.2 c hc, Bool.true_or]

/-- The tokens of prose are words. -/
theorem exists_word_of_mem {s : List Char} (h : ∀ c ∈ s, isWordChar c = true ∨ isBlank c = true) :
  ∀ t ∈ tokensFrom s, ∃ w, t = word w
  := by
  fun_induction tokensFrom s with
  | case1 => simp
  | case2 c s _ ih =>
      rw [List.forall_mem_cons]
      use ⟨_, rfl⟩
      apply ih
      intro d hd
      apply h d (List.mem_cons_of_mem c ((List.dropWhile_sublist isWordChar).mem hd))
  | case3 c s _ _ ih =>
      apply ih
      intro d hd
      apply h d (List.mem_cons_of_mem c hd)
  | case4 c s hword hblank | case5 c s hword hblank =>
      rcases h c List.mem_cons_self with hc | hc
      · contradiction
      · contradiction

/-- Words alone use nothing. -/
theorem uses_eq_nil_of_words {ts : List Token} (h : ∀ t ∈ ts, ∃ w, t = word w) :
  uses ts = []
  := by
  induction ts with
  | nil => rfl
  | cons t ts ih =>
      obtain ⟨⟨w, rfl⟩, hts⟩ := List.forall_mem_cons.mp h
      have hapart : Apart ts := by
        cases ts with
        | nil => apply apart_nil
        | cons u us =>
            obtain ⟨w', rfl⟩ := hts _ List.mem_cons_self
            apply apart_cons.mpr (by simp)
      rw [uses_word hapart, ih hts]

/-- A comment calls nothing. -/
theorem IsProse.callees {text : String} (h : IsProse text) :
  callees ("// " ++ text) = []
  := by
  have hwords : ∀ t ∈ tokensFrom text.toList, ∃ w, t = word w := by
    apply exists_word_of_mem
    intro c hc
    simpa using List.all_eq_true.mp h c hc
  have htokens : tokens ("// " ++ text) = mark '/' :: mark '/' :: tokensFrom text.toList := by
    rw [tokens, String.toList_append]
    change tokensFrom ('/' :: '/' :: ' ' :: text.toList) = _
    rw [tokensFrom_mark (by decide) (by decide) (by decide),
      tokensFrom_mark (by decide) (by decide) (by decide), tokensFrom_blank (by decide) (by decide)]
  rw [Code.callees, calls, htokens, uses_mark (by decide), uses_mark (by decide),
    uses_eq_nil_of_words hwords]
  rfl

/-- A closing brace calls nothing. -/
theorem callees_closing :
  callees "\x7d" = []
  := by
  rw [callees_of_reads (reads_marks (by decide))]
  rfl

/-- The names and types of the item are readable. -/
def Item.Readable : Item → Prop
  | .gap => True
  | .comment text => IsProse text
  | .struct s => s.Readable
  | .func f => f.Readable

/-- A struct calls nothing. -/
theorem Struct.Readable.calling_lines {w : String} {s : Struct} (h : s.Readable) :
  calling w s.lines = []
  := by
  have hheader : Quiet s.headerTokens := by
    apply (quiet_word "type").append
    apply (quiet_word s.name).append
    apply (quiet_word "struct").append (quiet_mark (by decide) (by decide))
  have hfields : calling w s.bodyLines = [] := by
    apply calling_eq_nil_of_reads h.forall₂_reads
    rw [List.forall_mem_map]
    intro f hf
    rw [(h.fields f hf).quiet.uses_self]
    apply List.not_mem_nil
  have hlines : s.lines = [s.header] ++ s.bodyLines ++ ["\x7d"] := rfl
  rw [hlines, calling_append, calling_append, hfields, List.append_nil, List.append_eq_nil_iff]
  constructor
  · apply calling_eq_nil.mpr
    rw [List.forall_mem_singleton, callees_of_reads h.reads_header, hheader.uses_self]
    apply List.not_mem_nil
  · apply calling_eq_nil.mpr
    rw [List.forall_mem_singleton, callees_closing]
    apply List.not_mem_nil

section

variable {w : String} (hw : '.' ∈ w.toList)

include hw

/-- The line that opens a function calls nothing with a dot in its name. -/
theorem Func.Readable.not_mem_callees {f : Func} (h : f.Readable) :
  w ∉ callees f.header
  := by
  have hname : w ≠ f.name := by
    rintro rfl
    apply not_mem_of_isIdentifier h.name rfl hw
  have hfunc : w ≠ "func" := by
    rintro rfl
    revert hw
    decide
  have huses := h.uses_signatureTokens []
  rw [List.append_nil, uses] at huses
  rw [callees_of_reads h.reads_header, headerTokens]
  cases f.receiver with
  | none =>
      have hapart : Apart f.signatureTokens := apart_cons.mpr (by simp)
      rw [receiverTokens, List.nil_append, uses_word hapart, huses]
      simpa using hname
  | some r =>
      simp only [receiverTokens, List.cons_append, List.nil_append]
      rw [uses_call, uses_word (apart_cons.mpr (by decide)), uses_mark (by decide),
        uses_word (apart_cons.mpr (by decide)), uses_mark (by decide), huses]
      simpa using ⟨hfunc, hname⟩

/-- An item calls a qualified name in the body of a function only. -/
theorem Item.Readable.calling_lines {item : Item} (h : item.Readable) :
  calling w item.lines = item.func?.toList.flatMap fun f => calling w f.bodyLines
  := by
  cases item with
  | gap =>
      apply calling_eq_nil.mpr
      rw [lines, List.forall_mem_singleton, callees_of_reads reads_empty]
      apply List.not_mem_nil
  | comment text =>
      apply calling_eq_nil.mpr
      rw [lines, List.forall_mem_singleton, IsProse.callees h]
      apply List.not_mem_nil
  | struct s => apply Struct.Readable.calling_lines h
  | func f =>
      have hheader : w ∉ callees f.header := Func.Readable.not_mem_callees hw h
      have hlines : lines (.func f) = [f.header] ++ f.bodyLines ++ ["\x7d"] := rfl
      have hends : calling w [f.header] = [] ∧ calling w ["\x7d"] = [] := by
        simp [calling, hheader, callees_closing]
      rw [hlines, calling_append, calling_append, hends.1, hends.2, List.nil_append, List.append_nil,
        func?, Option.toList_some, List.flatMap_singleton]

/-- A file calls a qualified name in the bodies of its functions only. -/
theorem File.calling_lines {f : File} (hprintable : f.Printable)
    (h : ∀ item ∈ f.items, item.Readable) :
  calling w (Text.lines f.body) = f.funcs.flatMap fun g => calling w g.bodyLines
  := by
  have hempty : calling w [""] = [] := by
    simp [calling, callees_of_reads reads_empty, uses]
  rw [hprintable.lines_body, calling_append, hempty, List.append_nil, bodyLines, calling_flatMap,
    funcs, List.filterMap_eq_flatMap_toList, List.flatMap_assoc]
  apply List.flatMap_congr
  intro item hitem
  apply (h item hitem).calling_lines hw

end

/-- The functions of a file with readable parts are readable. -/
theorem File.readable_func {f : File} (h : ∀ item ∈ f.items, item.Readable) :
  ∀ g ∈ f.funcs, g.Readable
  := by
  intro g hg
  obtain ⟨item, hitem, hg⟩ := List.mem_filterMap.mp hg
  have hreadable := h item hitem
  cases item with
  | func g' =>
      obtain rfl := Option.some.inj hg
      apply hreadable
  | _ => contradiction

/-- The structs of a file with readable parts are readable. -/
theorem File.readable_struct {f : File} (h : ∀ item ∈ f.items, item.Readable) :
  ∀ s ∈ f.structs, s.Readable
  := by
  intro s hs
  obtain ⟨item, hitem, hs⟩ := List.mem_filterMap.mp hs
  have hreadable := h item hitem
  cases item with
  | struct s' =>
      obtain rfl := Option.some.inj hs
      apply hreadable
  | _ => contradiction

end ClientWrap.Code
