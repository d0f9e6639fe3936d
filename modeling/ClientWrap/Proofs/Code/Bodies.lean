import ClientWrap.Proofs.Code.Lines
import ClientWrap.Proofs.Code.Uses

/-!
# Reading bodies

The tokens of expressions and statements, and the calls and struct literals in them. A reader of the
lines of a body finds both (`Func.tokens_bodyLines`, `Func.uses_bodyLines`) if every name in it is a
word (`Stmt.Readable`). What a string literal holds is never read as a call.
-/

namespace ClientWrap.Code

open ClientWrap.Text Token

/-! ### Expressions -/

namespace Expr

mutual

/-- The tokens of the expression. -/
def tokens : Expr → List Token
  | string value => [literal value]
  | call callee args =>
    word callee.text :: mark '(' :: (commaTokens (tokensEach args) ++ [mark ')'])
  | fresh type values =>
    mark '&' :: word type :: mark '\x7b' :: (commaTokens (tokensEach values) ++ [mark '\x7d'])
  | e => [word e.text]

/-- The tokens of each expression of a list. -/
def tokensEach : List Expr → List (List Token)
  | [] => []
  | e :: rest => e.tokens :: tokensEach rest

end

mutual

/-- The calls and struct literals in the expression. -/
def uses : Expr → List Use
  | call callee args => .call callee.text (tokensEach args) :: usesAll args
  | fresh type values => .fresh type (tokensEach values) :: usesAll values
  | _ => []

/-- The calls and struct literals in the expressions of a list. -/
def usesAll : List Expr → List Use
  | [] => []
  | e :: rest => e.uses ++ usesAll rest

end

mutual

/-- Names, and what is selected from them, are words. -/
def Readable : Expr → Prop
  | string _ => True
  | call callee args => IsWord callee.text ∧ ReadableAll args
  | fresh type values => IsWord type ∧ ReadableAll values
  | e => IsWord e.text

/-- The expressions of a list are readable. -/
def ReadableAll : List Expr → Prop
  | [] => True
  | e :: rest => e.Readable ∧ ReadableAll rest

end

/-- The tokens of expressions are those of each. -/
theorem tokensEach_eq_map (es : List Expr) :
  tokensEach es = es.map tokens
  := by
  induction es with
  | nil => rfl
  | cons e rest ih => rw [tokensEach, ih, List.map_cons]

/-- The uses of expressions are those of each in turn. -/
theorem usesAll_eq_flatMap (es : List Expr) :
  usesAll es = es.flatMap uses
  := by
  induction es with
  | nil => rfl
  | cons e rest ih => rw [usesAll, ih, List.flatMap_cons]

/-- Expressions are readable if each of them is. -/
theorem readableAll_iff {es : List Expr} :
  ReadableAll es ↔ ∀ e ∈ es, e.Readable
  := by
  induction es with
  | nil => simp [ReadableAll]
  | cons e rest ih => rw [ReadableAll, ih, List.forall_mem_cons]

/-! #### The text of an expression -/

mutual

/-- A readable expression is read as its tokens. -/
theorem Readable.reads {e : Expr} (h : e.Readable) :
  Reads e.text e.tokens
  := by
  cases e with
  | name id | qualified package id | select base id | spread e => apply reads_word h
  | string value => apply reads_quoted
  | call callee args =>
      obtain ⟨hcallee, hargs⟩ := h
      have hread := (reads_commas (forall₂_reads hargs)).trail ")" (by decide)
      have hopening : IsMarks "(" := by decide
      rw [text, String.append_assoc, String.append_assoc]
      apply (reads_word hcallee).append (hread.lead _ hopening)
        (hopening.endsWord_append (by decide) _)
  | fresh type values =>
      obtain ⟨htype, hvalues⟩ := h
      have hread := (reads_commas (forall₂_reads hvalues)).trail "\x7d" (by decide)
      have hopening : IsMarks "\x7b" := by decide
      rw [text, String.append_assoc, String.append_assoc, String.append_assoc]
      apply ((reads_word htype).append (hread.lead _ hopening)
        (hopening.endsWord_append (by decide) _)).lead "&" (by decide)

/-- Readable expressions are read as their tokens one by one. -/
theorem forall₂_reads {es : List Expr} (h : ReadableAll es) :
  List.Forall₂ Reads (texts es) (tokensEach es)
  := by
  cases es with
  | nil => apply List.Forall₂.nil
  | cons e rest => exact .cons h.1.reads (forall₂_reads h.2)

end

/-! #### The tokens of an expression -/

/-- An expression has tokens. -/
theorem tokens_ne_nil (e : Expr) :
  e.tokens ≠ []
  := by
  cases e <;> simp [tokens]

/-- The tokens of an expression do not begin with an open parenthesis, so a word in front of them
calls nothing. -/
theorem apart_tokens (e : Expr) (rest : List Token) :
  Apart (e.tokens ++ rest)
  := by
  cases e <;> simp [tokens, Apart]

/-- The tokens of expressions with commas do not begin with an open parenthesis if what follows them
does not. -/
theorem apart_commaTokens {es : List Expr} {rest : List Token} (h : Apart rest) :
  Apart (commaTokens (tokensEach es) ++ rest)
  := by
  cases es with
  | nil => apply h
  | cons e es =>
      cases es with
      | nil =>
          rw [tokensEach, tokensEach, commaTokens, List.intercalate_singleton]
          apply e.apart_tokens
      | cons e' es =>
          rw [tokensEach, tokensEach, commaTokens, List.intercalate_cons_cons, List.append_assoc,
            List.append_assoc]
          apply e.apart_tokens

mutual

/-- The tokens of an expression are a whole: their brackets match and all commas stand inside of
them. -/
theorem whole_tokens (e : Expr) :
  Whole e.tokens
  := by
  cases e with
  | name id | qualified package id | select base id | spread e => apply whole_word
  | string value => apply whole_literal
  | call callee args =>
      have hargs := (inside_commaTokens (whole_tokensEach args)).brackets
        (mark '(') (mark ')') (by decide) (by decide)
      apply (whole_word callee.text).append hargs
  | fresh type values =>
      have hvalues := (inside_commaTokens (whole_tokensEach values)).brackets
        (mark '\x7b') (mark '\x7d') (by decide) (by decide)
      have hand : Whole [mark '&'] := by
        apply whole_singleton <;> decide
      apply hand.append ((whole_word type).append hvalues)

/-- The tokens of each of the expressions are a whole. -/
theorem whole_tokensEach (es : List Expr) :
  ∀ ts ∈ tokensEach es, Whole ts
  := by
  cases es with
  | nil => apply List.forall_mem_nil
  | cons e rest => exact List.forall_mem_cons.mpr ⟨whole_tokens e, whole_tokensEach rest⟩

end

/-- Each of the expressions has tokens. -/
theorem ne_nil_of_mem_tokensEach {es : List Expr} {ts : List Token} (h : ts ∈ tokensEach es) :
  ts ≠ []
  := by
  rw [tokensEach_eq_map] at h
  obtain ⟨e, -, rfl⟩ := List.mem_map.mp h
  apply e.tokens_ne_nil

/-- The expressions of a list are the entries up to the closing bracket. -/
theorem entries_tokensEach {es : List Expr} {closing : Token} (hclosing : closing.Closes)
    {rest : List Token} :
  entries (commaTokens (tokensEach es) ++ closing :: rest) = tokensEach es
  := by
  apply entries_commaTokens _ hclosing
  intro ts hts
  exact ⟨whole_tokensEach es ts hts, ne_nil_of_mem_tokensEach hts⟩

mutual

/-- The calls and literals of an expression are read from its tokens. -/
theorem uses_tokens (e : Expr) {rest : List Token} (h : Apart rest) :
  Code.uses (e.tokens ++ rest) = e.uses ++ Code.uses rest
  := by
  cases e with
  | name id | qualified package id | select base id | spread e => apply uses_word h
  | string value => rfl
  | call callee args =>
      have hentries : entries (commaTokens (tokensEach args) ++ [mark ')'] ++ rest)
          = tokensEach args := by
        rw [List.append_assoc]
        apply entries_tokensEach (by decide)
      rw [tokens, uses, List.cons_append, List.cons_append, uses_call, hentries, List.append_assoc,
        List.singleton_append, uses_commaTokens args (apart_cons.mpr (by decide)),
        uses_mark (by decide), List.cons_append]
  | fresh type values =>
      have hentries : entries (commaTokens (tokensEach values) ++ [mark '\x7d'] ++ rest)
          = tokensEach values := by
        rw [List.append_assoc]
        apply entries_tokensEach (by decide)
      rw [tokens, uses, List.cons_append, List.cons_append, List.cons_append, uses_fresh, hentries,
        List.append_assoc, List.singleton_append,
        uses_commaTokens values (apart_cons.mpr (by decide)), uses_mark (by decide),
        List.cons_append]

/-- What is used in expressions with commas between them is what each of them uses. -/
theorem uses_commaTokens (es : List Expr) {rest : List Token} (h : Apart rest) :
  Code.uses (commaTokens (tokensEach es) ++ rest) = usesAll es ++ Code.uses rest
  := by
  cases es with
  | nil => rfl
  | cons e es =>
      rw [usesAll, tokensEach, List.append_assoc]
      cases es with
      | nil =>
          rw [tokensEach, commaTokens, List.intercalate_singleton, uses_tokens e h]
          rfl
      | cons e' es =>
          rw [← uses_commaTokens (e' :: es) h, tokensEach, commaTokens,
            List.intercalate_cons_cons, ← commaTokens, List.append_assoc, List.append_assoc,
            List.singleton_append, uses_tokens e (apart_cons.mpr (by decide)),
            uses_mark (by decide)]

end

/-- A comma after an expression is no part of its calls and literals. -/
theorem uses_trailing (e : Expr) (rest : List Token) :
  Code.uses ((e.tokens ++ [mark ',']) ++ rest) = e.uses ++ Code.uses rest
  := by
  rw [List.append_assoc, List.singleton_append, e.uses_tokens (apart_cons.mpr (by decide)),
    uses_mark (by decide)]

end Expr

/-! ### Statements -/

section

variable {names : List String}

/-- The tokens of names with commas between them. -/
def nameTokens (names : List String) : List Token :=
  commaTokens (Expr.tokensEach (names.map .name))

/-- The tokens of names are words with commas between them. -/
theorem nameTokens_eq (names : List String) :
  nameTokens names = commaTokens (names.map fun name => [word name])
  := by
  rw [nameTokens, Expr.tokensEach_eq_map, List.map_map]
  rfl

/-- Names with commas between them are read as their tokens. -/
theorem reads_names (h : ∀ name ∈ names, IsWord name) :
  Reads (", ".intercalate names) (nameTokens names)
  := by
  rw [nameTokens_eq]
  apply reads_commas
  rw [List.forall₂_map_right_iff, List.forall₂_same]
  intro name hname
  apply reads_word (h name hname)

/-- Names use nothing. -/
theorem uses_nameTokens {rest : List Token} (h : Apart rest) :
  uses (nameTokens names ++ rest) = uses rest
  := by
  have hnone : Expr.usesAll (names.map .name) = [] := by
    rw [Expr.usesAll_eq_flatMap, List.flatMap_map, List.flatMap_eq_nil_iff]
    intro name _
    rfl
  rw [nameTokens, Expr.uses_commaTokens _ h, hnone, List.nil_append]

end

namespace Step

/-- The tokens of the statement. -/
def tokens : Step → List Token
  | run e => e.tokens
  | give es => word "return" :: commaTokens (Expr.tokensEach es)
  | define names e => nameTokens names ++ mark ':' :: mark '=' :: e.tokens
  | assign target e => word target :: mark '=' :: e.tokens
  | atReturn e => word "defer" :: e.tokens

/-- The calls and struct literals in the statement. -/
def uses : Step → List Use
  | run e | define _ e | assign _ e | atReturn e => e.uses
  | give es => Expr.usesAll es

/-- The names and the expressions of the statement are readable. -/
def Readable : Step → Prop
  | run e | atReturn e => e.Readable
  | give es => Expr.ReadableAll es
  | define names e => (∀ name ∈ names, IsWord name) ∧ e.Readable
  | assign target e => IsWord target ∧ e.Readable

/-- A readable statement on one line is read as its tokens. -/
theorem Readable.reads {s : Step} (h : s.Readable) :
  Reads s.text s.tokens
  := by
  cases s with
  | run e => apply Expr.Readable.reads h
  | give es => apply (reads_commas (Expr.forall₂_reads h)).after_word "return" (by decide)
  | define names e =>
      have hdefines : IsMarks " := " := by decide
      rw [text, String.append_assoc]
      apply (reads_names h.1).append (h.2.reads.lead _ hdefines)
        (hdefines.endsWord_append (by decide) _)
  | assign target e =>
      have hassigns : IsMarks " = " := by decide
      rw [text, String.append_assoc]
      apply (reads_word h.1).append (h.2.reads.lead _ hassigns)
        (hassigns.endsWord_append (by decide) _)
  | atReturn e => apply (Expr.Readable.reads h).after_word "defer" (by decide)

/-- The tokens of a statement on one line do not begin with an open parenthesis. -/
theorem apart_tokens (s : Step) (rest : List Token) :
  Apart (s.tokens ++ rest)
  := by
  cases s with
  | run e => apply e.apart_tokens
  | define names e =>
      rw [tokens, List.append_assoc]
      apply Expr.apart_commaTokens (apart_cons.mpr (by decide))
  | _ => simp [tokens, Apart]

/-- The calls and literals of a statement are read from its tokens. -/
theorem uses_tokens (s : Step) {rest : List Token} (h : Apart rest) :
  Code.uses (s.tokens ++ rest) = s.uses ++ Code.uses rest
  := by
  cases s with
  | run e => apply e.uses_tokens h
  | give es =>
      rw [tokens, List.cons_append, uses_word (Expr.apart_commaTokens h),
        Expr.uses_commaTokens es h, uses]
  | define names e =>
      rw [tokens, List.append_assoc, List.cons_append, List.cons_append,
        uses_nameTokens (apart_cons.mpr (by decide)), uses_mark (by decide), uses_mark (by decide),
        e.uses_tokens h, uses]
  | assign target e =>
      rw [tokens, List.cons_append, List.cons_append, uses_word (apart_cons.mpr (by decide)),
        uses_mark (by decide), e.uses_tokens h, uses]
  | atReturn e =>
      rw [tokens, List.cons_append, uses_word (e.apart_tokens rest), e.uses_tokens h, uses]

end Step

namespace Stmt

/-- The tokens of each line of the statement. -/
def lineTokens : Stmt → List (List Token)
  | step s => [s.tokens]
  | defineCall names callee args =>
    [nameTokens names ++ [mark ':', mark '=', word callee.text, mark '(']] ++
      (Expr.tokensEach args).map (· ++ [mark ',']) ++ [[mark ')']]
  | giveFresh type fields =>
    [[word "return", mark '&', word type, mark '\x7b']] ++
      fields.map (fun (key, e) => (word key :: mark ':' :: e.tokens) ++ [mark ',']) ++
        [[mark '\x7d']]
  | ifPresent value body =>
    [[word "if", word value, mark '!', mark '=', word "nil", mark '\x7b']] ++
      body.map Step.tokens ++ [[mark '\x7d']]

/-- The tokens of the statement. -/
def tokens (s : Stmt) : List Token :=
  s.lineTokens.flatten

/-- The calls and struct literals in the statement. -/
def uses : Stmt → List Use
  | step s => s.uses
  | defineCall _ callee args => .call callee.text (Expr.tokensEach args) :: Expr.usesAll args
  | giveFresh type fields =>
    .fresh type (fields.map fun (key, e) => word key :: mark ':' :: e.tokens) ::
      fields.flatMap fun (_, e) => e.uses
  | ifPresent _ body => body.flatMap Step.uses

/-- The names and the expressions of the statement are readable. -/
def Readable : Stmt → Prop
  | step s => s.Readable
  | defineCall names callee args =>
    (∀ name ∈ names, IsWord name) ∧ IsWord callee.text ∧ Expr.ReadableAll args
  | giveFresh type fields => IsWord type ∧ ∀ f ∈ fields, IsWord f.1 ∧ f.2.Readable
  | ifPresent value body => IsWord value ∧ ∀ s ∈ body, s.Readable

end Stmt

/-- Padding is not read. -/
theorem reads_padTo (width : ℕ) {s : String} {ts : List Token} (h : Reads s ts) :
  Reads (padTo width s) ts
  := by
  have hblanks : IsMarks (String.ofList (List.replicate (width - s.length) ' ')) := by
    apply isMarks_iff.mpr
    intro c hc
    rw [String.toList_ofList] at hc
    obtain rfl := List.eq_of_mem_replicate hc
    decide
  have hnone : marks (String.ofList (List.replicate (width - s.length) ' ')) = [] := by
    rw [marks, String.toList_ofList, List.filter_eq_nil_iff.mpr, List.map_nil]
    intro c hc
    obtain rfl := List.eq_of_mem_replicate hc
    decide
  have hread := h.trail _ hblanks
  rwa [hnone, List.append_nil] at hread

/-- The line of an entry with a key. -/
theorem reads_keyed {key value : String} {ts : List Token} (width : ℕ) (hkey : IsWord key)
    (hvalue : Reads value ts) :
  Reads ("\t\t" ++ padTo width (key ++ ":") ++ " " ++ value ++ ",")
    ((word key :: mark ':' :: ts) ++ [mark ','])
  := by
  have hblank : IsMarks " " := by decide
  have htabs : IsMarks "\t\t" := by decide
  have hkey := reads_padTo width ((reads_word hkey).trail ":" (by decide))
  have hpair := hkey.append (hvalue.lead _ hblank) (hblank.endsWord_append (by decide) value)
  have hread := (hpair.lead _ htabs).trail "," (by decide)
  simp only [String.append_assoc] at hread ⊢
  apply hread

/-- The tokens of lines are those of each line. -/
theorem reads_ofLines {ls : List String} {tss : List (List Token)}
    (h : List.Forall₂ Reads ls tss) :
  Reads (ofLines ls) tss.flatten
  := by
  induction h with
  | nil => apply reads_empty
  | @cons l ts ls tss hl _ ih =>
      have hfeed : IsMarks "\n" := by decide
      rw [ofLines_cons, String.append_assoc, List.flatten_cons]
      apply hl.append (ih.lead _ hfeed) (hfeed.endsWord_append (by decide) _)

namespace Stmt

/-- The lines of a readable statement are read as their tokens. -/
theorem Readable.reads {s : Stmt} (h : s.Readable) :
  List.Forall₂ Reads s.lines s.lineTokens
  := by
  have htab : IsMarks "\t" := by decide
  have htabs : IsMarks "\t\t" := by decide
  cases s with
  | step s => exact .cons ((Step.Readable.reads h).lead _ htab) .nil
  | defineCall names callee args =>
      obtain ⟨hnames, hcallee, hargs⟩ := h
      have hdefines : IsMarks " := " := by decide
      rw [lines, lineTokens]
      apply List.rel_append
      · apply List.rel_append
        · refine .cons ?_ .nil
          have hcall := (reads_word hcallee).trail "(" (by decide)
          have hread := (reads_names hnames).append (hcall.lead _ hdefines)
            (hdefines.endsWord_append (by decide) _)
          simp only [String.append_assoc] at hread ⊢
          apply hread.lead _ htab
        · rw [List.forall₂_map_left_iff, List.forall₂_map_right_iff]
          apply (Expr.forall₂_reads hargs).imp
          intro a ts ha
          apply (ha.lead _ htabs).trail "," (by decide)
      · exact .cons (reads_marks (by decide)) .nil
  | giveFresh type fields =>
      obtain ⟨htype, hfields⟩ := h
      rw [lines, lineTokens]
      apply List.rel_append
      · apply List.rel_append
        · refine .cons ?_ .nil
          have hliteral := ((reads_word htype).trail "\x7b" (by decide)).lead "&"
            (by decide)
          have hread := hliteral.after_word "return" (by decide)
          simp only [String.append_assoc] at hread ⊢
          apply hread.lead _ htab
        · rw [keyedLines, List.map_map, List.forall₂_map_left_iff, List.forall₂_map_right_iff,
            List.forall₂_same]
          intro f hf
          apply reads_keyed _ (hfields f hf).1 (hfields f hf).2.reads
      · exact .cons (reads_marks (by decide)) .nil
  | ifPresent value body =>
      obtain ⟨hvalue, hbody⟩ := h
      rw [lines, lineTokens]
      apply List.rel_append
      · apply List.rel_append
        · refine .cons ?_ .nil
          have hnil := ((reads_word (s := "nil") (by decide)).trail " \x7b" (by decide)).lead
            " != " (by decide)
          have hread := ((reads_word hvalue).append hnil (endsWord_cons.mpr (by decide))).after_word
            "if" (by decide)
          simp only [String.append_assoc] at hread ⊢
          apply hread.lead _ htab
        · rw [List.forall₂_map_left_iff, List.forall₂_map_right_iff, List.forall₂_same]
          intro s hs
          apply (hbody s hs).reads.lead _ htabs
      · exact .cons (reads_marks (by decide)) .nil

/-- The tokens of a statement on one line. -/
theorem tokens_step (s : Step) :
  (step s).tokens = s.tokens
  := List.flatten_singleton

/-- The tokens of a call over several lines: each argument has a comma after it. -/
theorem tokens_defineCall (names : List String) (callee : Expr) (args : List Expr) :
  (defineCall names callee args).tokens
    = nameTokens names ++ mark ':' :: mark '=' :: word callee.text :: mark '(' ::
      ((args.map fun e => e.tokens ++ [mark ',']).flatten ++ [mark ')'])
  := by
  simp [tokens, lineTokens, Expr.tokensEach_eq_map, Function.comp_def]

/-- The tokens of a fresh struct that is given back: each field has a comma after it. -/
theorem tokens_giveFresh (type : String) (fields : List (String × Expr)) :
  (giveFresh type fields).tokens
    = word "return" :: mark '&' :: word type :: mark '\x7b' ::
      ((fields.map fun f => word f.1 :: mark ':' :: (f.2.tokens ++ [mark ','])).flatten
        ++ [mark '\x7d'])
  := by
  simp [tokens, lineTokens]

/-- The tokens of a condition with the statements under it. -/
theorem tokens_ifPresent (value : String) (body : List Step) :
  (ifPresent value body).tokens
    = word "if" :: word value :: mark '!' :: mark '=' :: word "nil" :: mark '\x7b' ::
      ((body.map Step.tokens).flatten ++ [mark '\x7d'])
  := by
  simp [tokens, lineTokens]

/-- The tokens of a statement do not begin with an open parenthesis. -/
theorem apart_tokens (s : Stmt) (rest : List Token) :
  Apart (s.tokens ++ rest)
  := by
  cases s with
  | step s =>
      rw [tokens_step]
      apply s.apart_tokens
  | defineCall names callee args =>
      rw [tokens_defineCall, List.append_assoc]
      apply Expr.apart_commaTokens (apart_cons.mpr (by decide))
  | giveFresh type fields => simp [tokens_giveFresh, Apart]
  | ifPresent value body => simp [tokens_ifPresent, Apart]

/-- The calls and literals of a statement are read from its tokens. -/
theorem uses_tokens (s : Stmt) {rest : List Token} (h : Apart rest) :
  Code.uses (s.tokens ++ rest) = s.uses ++ Code.uses rest
  := by
  cases s with
  | step s => rw [tokens_step, s.uses_tokens h, uses]
  | defineCall names callee args =>
      have hentries := entries_trailing (Expr.whole_tokensEach args) (mark ')') (by decide)
        rest
      have hargs : Code.uses ((args.map fun e => e.tokens ++ [mark ',']).flatten ++ mark ')' :: rest)
          = args.flatMap Expr.uses ++ Code.uses (mark ')' :: rest) := by
        apply uses_flatten _ _ args (apart_cons.mpr (by decide))
        · intro e rest _
          apply e.uses_trailing
        · intro e rest
          rw [List.append_assoc]
          apply e.apart_tokens
      rw [Expr.tokensEach_eq_map, List.map_map, Function.comp_def] at hentries
      rw [tokens_defineCall, List.append_assoc, List.cons_append, List.cons_append,
        List.cons_append, List.cons_append, List.append_assoc, List.singleton_append,
        uses_nameTokens (apart_cons.mpr (by decide)), uses_mark (by decide), uses_mark (by decide),
        uses_call, hentries, hargs, uses_mark (by decide), uses, Expr.tokensEach_eq_map,
        Expr.usesAll_eq_flatMap, List.cons_append]
  | giveFresh type fields =>
      have hwhole : ∀ ts ∈ fields.map fun f => word f.1 :: mark ':' :: f.2.tokens, Whole ts := by
        rw [List.forall_mem_map]
        intro f _
        apply (whole_word f.1).append (whole_colon.append f.2.whole_tokens)
      have hentries := entries_trailing hwhole (mark '\x7d') (by decide) rest
      have hfields : Code.uses ((fields.map fun f =>
          word f.1 :: mark ':' :: (f.2.tokens ++ [mark ','])).flatten ++ mark '\x7d' :: rest)
          = fields.flatMap (fun f => f.2.uses) ++ Code.uses (mark '\x7d' :: rest) := by
        apply uses_flatten _ _ fields (apart_cons.mpr (by decide))
        · intro f rest _
          rw [List.cons_append, List.cons_append, uses_word (apart_cons.mpr (by decide)),
            uses_mark (by decide), f.2.uses_trailing]
        · intro f rest
          apply apart_cons.mpr (by simp)
      rw [List.map_map, Function.comp_def] at hentries
      rw [tokens_giveFresh, List.cons_append, List.cons_append, List.cons_append, List.cons_append,
        List.append_assoc, List.singleton_append, uses_word (apart_cons.mpr (by decide)),
        uses_fresh, hfields, uses_mark (by decide), uses, List.cons_append]
      congr 2
  | ifPresent value body =>
      have hbody : Code.uses ((body.map Step.tokens).flatten ++ mark '\x7d' :: rest)
          = body.flatMap Step.uses ++ Code.uses (mark '\x7d' :: rest) := by
        apply uses_flatten _ Step.apart_tokens body (apart_cons.mpr (by decide))
        intro s rest h
        apply s.uses_tokens h
      rw [tokens_ifPresent]
      simp only [List.cons_append, List.append_assoc, List.nil_append]
      rw [uses_word (apart_cons.mpr (by simp)), uses_word (apart_cons.mpr (by decide)),
        uses_mark (by decide), uses_mark (by decide), uses_word (apart_cons.mpr (by decide)),
        uses_mark (by decide), hbody, uses_mark (by decide), uses]

end Stmt

/-! ### Bodies -/

/-- The lines of the body. -/
def Func.bodyLines (f : Func) : List String :=
  f.body.flatMap Stmt.lines

/-- The tokens of the body. -/
def Func.bodyTokens (f : Func) : List Token :=
  f.body.flatMap Stmt.tokens

/-- The lines of readable statements are read as their tokens. -/
theorem forall₂_reads_lines {body : List Stmt} (h : ∀ s ∈ body, s.Readable) :
  List.Forall₂ Reads (body.flatMap Stmt.lines) (body.flatMap Stmt.lineTokens)
  := by
  induction body with
  | nil => exact .nil
  | cons s body ih =>
      obtain ⟨hs, hbody⟩ := List.forall_mem_cons.mp h
      rw [List.flatMap_cons, List.flatMap_cons]
      apply List.rel_append hs.reads (ih hbody)

/-- The tokens of a body are read from its lines. -/
theorem Func.tokens_bodyLines {f : Func} (h : ∀ s ∈ f.body, s.Readable) :
  tokens (ofLines f.bodyLines) = f.bodyTokens
  := by
  rw [bodyLines, (reads_ofLines (forall₂_reads_lines h)).tokens_eq, bodyTokens, List.flatMap_def,
    List.flatten_flatten, List.map_map, List.flatMap_def]
  rfl

/-- The calls and struct literals of a body are those of its statements. -/
theorem Func.uses_bodyTokens (f : Func) :
  uses f.bodyTokens = f.body.flatMap Stmt.uses
  := by
  have huses := uses_flatten (fun s _ => Stmt.uses_tokens s) Stmt.apart_tokens f.body apart_nil
  rwa [List.append_nil, uses, List.append_nil, ← List.flatMap_def, ← bodyTokens] at huses

/-- The calls and struct literals of a body are read from its lines. -/
theorem Func.uses_bodyLines {f : Func} (h : ∀ s ∈ f.body, s.Readable) :
  uses (tokens (ofLines f.bodyLines)) = f.body.flatMap Stmt.uses
  := by
  rw [tokens_bodyLines h, uses_bodyTokens]

end ClientWrap.Code
