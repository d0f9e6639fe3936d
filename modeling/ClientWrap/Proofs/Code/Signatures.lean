import ClientWrap.Proofs.Code.Braced
import ClientWrap.Proofs.GoType.Parsed

/-!
# Reading signatures and fields

The tokens of a type hold no call, and a type forms one entry among others (`Inert`). So the name
and the parameters of a function are read from the line that opens it
(`Func.Readable.reads_header`), and the names and types of fields from the lines of a struct
(`Struct.Readable.forall₂_reads`).
-/

namespace ClientWrap.Code

open ClientWrap.Text Token

/-! ### Tokens without calls -/

/-- The tokens hold no call and no struct literal, whatever is behind them. -/
structure Quiet (ts : List Token) : Prop where
  apart : ∀ rest, Apart rest → Apart (ts ++ rest)
  uses : ∀ rest, Apart rest → uses (ts ++ rest) = uses rest

section

variable {ts us : List Token} {tss : List (List Token)}

/-- No tokens use nothing. -/
theorem quiet_nil :
  Quiet []
  := by
  constructor
  · intro rest h
    apply h
  · intro rest _
    rfl

/-- Tokens without uses have none one after another. -/
theorem Quiet.append (hts : Quiet ts) (hus : Quiet us) :
  Quiet (ts ++ us)
  := by
  constructor
  · intro rest h
    rw [List.append_assoc]
    apply hts.apart _ (hus.apart rest h)
  · intro rest h
    rw [List.append_assoc, hts.uses _ (hus.apart rest h), hus.uses rest h]

/-- Tokens without uses have none when nothing follows them. -/
theorem Quiet.uses_self (h : Quiet ts) :
  Code.uses ts = []
  := by
  have huses := h.uses [] apart_nil
  rwa [List.append_nil] at huses

/-- A word alone uses nothing. -/
theorem quiet_word (w : String) :
  Quiet [word w]
  := by
  constructor
  · intro rest _
    apply apart_cons.mpr (by simp)
  · intro rest h
    apply uses_word h

/-- A mark that opens no call and no fresh struct uses nothing. -/
theorem quiet_mark {c : Char} (hcall : c ≠ '(') (hliteral : c ≠ '&') :
  Quiet [mark c]
  := by
  constructor
  · intro rest _
    apply apart_cons.mpr (by simpa using hcall)
  · intro rest _
    apply uses_mark hliteral

/-- Tokens without uses have none with commas between them. -/
theorem quiet_commaTokens (h : ∀ ts ∈ tss, Quiet ts) :
  Quiet (commaTokens tss)
  := by
  induction tss with
  | nil => apply quiet_nil
  | cons ts tss ih =>
      obtain ⟨hts, htss⟩ := List.forall_mem_cons.mp h
      cases tss with
      | nil => simpa [commaTokens] using hts
      | cons us tss =>
          rw [commaTokens, List.intercalate_cons_cons, ← commaTokens]
          apply (hts.append (quiet_mark (by decide) (by decide))).append (ih htss)

end

/-! ### Types -/

/-- The text is read as one entry without calls and literals. -/
structure Inert (s : String) : Prop where
  plain : Plain s
  reads : Reads s (tokens s)
  quiet : Quiet (tokens s)
  whole : Whole (tokens s)

section

variable {s t p : String} {ts : List Token}

/-- A text is inert if the tokens that it is read as are. -/
theorem inert_of_reads (hplain : Plain s) (hreads : Reads s ts) (hquiet : Quiet ts)
    (hwhole : Whole ts) :
  Inert s
  := by
  obtain rfl := hreads.tokens_eq
  exact ⟨hplain, hreads, hquiet, hwhole⟩

/-- A word is inert. -/
theorem inert_of_isWord (h : IsWord s) :
  Inert s
  := inert_of_reads (plain_of_word h.2) (reads_word h) (quiet_word s) (whole_word s)

/-- A word goes on in front of itself. -/
theorem IsWord.after (hs : IsWord s) (hp : p.toList.all isWordChar) :
  IsWord (p ++ s)
  := by
  constructor
  · intro hempty
    apply hs.1
    have hchars := congrArg String.toList hempty
    rw [String.toList_append] at hchars
    apply String.toList_inj.mp (List.append_eq_nil_iff.mp hchars).2
  · rw [String.toList_append, List.all_append, hp, hs.2]
    rfl

/-- A word in front of a text that does not go on with it. -/
theorem Inert.after_word (ht : Inert t) (hends : EndsWord t.toList) (hp : p.toList.all isWordChar) :
  Inert (p ++ t)
  := by
  by_cases hempty : p = ""
  · rwa [hempty, String.empty_append]
  · apply inert_of_reads _ ((reads_word ⟨hempty, hp⟩).append ht.reads hends)
    · apply (quiet_word p).append ht.quiet
    · apply (whole_word p).append ht.whole
    · exact plain_append.mpr ⟨plain_of_word hp, ht.plain⟩

/-- An asterisk in front of an inert text keeps it inert. -/
theorem Inert.star (ht : Inert t) :
  Inert ("*" ++ t)
  := by
  have hquiet : Quiet [mark '*'] := quiet_mark (by decide) (by decide)
  have hwhole : Whole [mark '*'] := by
    apply whole_singleton <;> decide
  apply inert_of_reads (plain_append.mpr ⟨by decide, ht.plain⟩) (ht.reads.lead "*" (by decide))
    (hquiet.append ht.quiet) (hwhole.append ht.whole)

/-- A text in square brackets in front of another one. -/
theorem Inert.indexed (hs : Inert s) (ht : Inert t) :
  Inert ("[" ++ s ++ "]" ++ t)
  := by
  have hopening : Quiet [mark '['] := quiet_mark (by decide) (by decide)
  have hclosing : Quiet [mark ']'] := quiet_mark (by decide) (by decide)
  have hbracket : IsMarks "]" := by decide
  have hwhole := hs.whole.inside.brackets (mark '[') (mark ']') (by decide) (by decide)
  have hreads := (hs.reads.append (ht.reads.lead "]" hbracket)
    (hbracket.endsWord_append (by decide) t)).lead "[" (by decide)
  have htext : "[" ++ s ++ "]" ++ t = "[" ++ (s ++ ("]" ++ t)) := by
    simp only [String.append_assoc]
  have htokens : marks "[" ++ (tokens s ++ (marks "]" ++ tokens t))
      = mark '[' :: (tokens s ++ [mark ']']) ++ tokens t := by
    rw [List.cons_append, List.append_assoc]
    rfl
  rw [htext]
  rw [htokens] at hreads
  apply inert_of_reads _ hreads
  · apply (hopening.append (hs.quiet.append hclosing)).append ht.quiet
  · apply hwhole.append ht.whole
  · simp only [plain_append]
    exact ⟨by decide, hs.plain, by decide, ht.plain⟩

/-- The empty text is inert. -/
theorem inert_empty :
  Inert ""
  := inert_of_reads (by decide) reads_empty quiet_nil whole_nil

end

end ClientWrap.Code

namespace ClientWrap.GoType

open ClientWrap.Code ClientWrap.Text Token

/-- The text of a named type with characters of a word in front of it. -/
theorem inert_named (package : String) {name p : String} (hname : name.toList.all isWordChar)
    (hp : p.toList.all isWordChar) :
  Inert (p ++ (named package name).text)
  := by
  have hword := isWord_selected (all_isWordChar_packageAlias package) hname
  apply inert_of_isWord (hword.after hp)

/-- The text of a type with characters of a word in front of it. They are part of the first word of
the text; what stands behind an asterisk or a bracket has nothing in front of it. -/
theorem SpellsPlain.inert {s : List Char} {t : GoType} (h : SpellsPlain s t) {p : String}
    (hp : p.toList.all isWordChar) :
  Inert (p ++ t.text)
  := by
  have hstar : IsMarks "*" := by decide
  have hbracket : IsMarks "[" := by decide
  have hnone : "".toList.all isWordChar := by decide
  induction h generalizing p with
  | @identifier s hs =>
      apply inert_of_isWord
      apply IsWord.after _ hp
      apply isWord_of_isIdentifier
      rwa [text, String.toList_ofList]
  | emptyInterface =>
      have hword : IsWord "interface" := by decide
      have hbraces : IsMarks "\x7b\x7d" := by decide
      have hempty := whole_nil.inside.brackets (mark '\x7b') (mark '\x7d') (by decide) (by decide)
      have htext : (builtin "interface\x7b\x7d").text = "interface" ++ "\x7b\x7d" := by decide
      rw [htext, ← String.append_assoc]
      apply inert_of_reads _ ((reads_word (hword.after hp)).trail _ hbraces)
      · apply (quiet_word _).append
        apply (quiet_mark (by decide) (by decide)).append (quiet_mark (by decide) (by decide))
      · apply (whole_word _).append hempty
      · exact plain_append.mpr ⟨plain_of_word (hword.after hp).2, by decide⟩
  | @named path name _ hname _ =>
      have hname := isWord_of_isIdentifier (s := String.ofList name) (by rwa [String.toList_ofList])
      apply inert_named _ hname.2 hp
  | @pointer s t _ ih =>
      have helement := ih hnone
      rw [String.empty_append] at helement
      apply helement.star.after_word (hstar.endsWord_append (by decide) t.text) hp
  | @slice s t _ ih =>
      have helement := ih hnone
      rw [String.empty_append] at helement
      have hindexed := inert_empty.indexed helement
      rw [String.append_assoc, String.append_assoc] at hindexed
      apply hindexed.after_word (hbracket.endsWord_append (by decide) _) hp
  | @map s s' key value _ _ ihkey ihvalue =>
      have hkey := ihkey hnone
      have hvalue := ihvalue hnone
      rw [String.empty_append] at hkey hvalue
      have hword : (p ++ "map").toList.all isWordChar := by
        rw [String.toList_append, List.all_append, hp]
        decide
      have hindexed := hkey.indexed hvalue
      rw [String.append_assoc, String.append_assoc] at hindexed
      have hmap := hindexed.after_word (hbracket.endsWord_append (by decide) _) hword
      have htext : p ++ (GoType.map key value).text
          = p ++ "map" ++ ("[" ++ (key.text ++ ("]" ++ value.text))) := by
        apply String.toList_inj.mp
        simp [text]
      rwa [htext]
  | blanks _ _ _ ih => apply ih hp

/-- The text of a parsed type is one entry without calls. -/
theorem Parsed.inert {t : GoType} (h : t.Parsed) :
  Inert t.text
  := by
  obtain ⟨s, hs⟩ := h.spells
  cases hs with
  | plain hs =>
      have hinert := hs.inert (p := "") (by decide)
      rwa [String.empty_append] at hinert
  | variadic _ hs => apply hs.inert (p := "...") (by decide)

end ClientWrap.GoType

namespace ClientWrap.Code

open ClientWrap.Text Token

/-! ### Headers -/

/-- The tokens of a parameter or field: its name and those of its type. -/
def entryTokens (p : String × GoType) : List Token :=
  word p.1 :: tokens p.2.text

/-- The name is a word and the type an entry. -/
def ReadableEntry (p : String × GoType) : Prop :=
  IsWord p.1 ∧ Inert p.2.text

section

variable {p : String × GoType} (h : ReadableEntry p)

include h

/-- A readable parameter is read as its name and the tokens of its type. -/
theorem ReadableEntry.reads :
  Reads (p.1 ++ " " ++ p.2.text) (entryTokens p)
  := h.2.reads.after_word p.1 h.1

/-- A readable parameter uses nothing. -/
theorem ReadableEntry.quiet :
  Quiet (entryTokens p)
  := (quiet_word p.1).append h.2.quiet

/-- A readable parameter is a single entry. -/
theorem ReadableEntry.whole :
  Whole (entryTokens p)
  := (whole_word p.1).append h.2.whole

end

/-- Readable parameters are read as entries with commas between them. -/
theorem reads_paramsText {params : List (String × GoType)} (h : ∀ p ∈ params, ReadableEntry p) :
  Reads (paramsText params) (commaTokens (params.map entryTokens))
  := by
  apply reads_commas
  rw [List.forall₂_map_left_iff, List.forall₂_map_right_iff, List.forall₂_same]
  intro p hp
  apply (h p hp).reads

/-- Readable parameters use nothing. -/
theorem quiet_params {params : List (String × GoType)} (h : ∀ p ∈ params, ReadableEntry p) :
  Quiet (commaTokens (params.map entryTokens))
  := by
  apply quiet_commaTokens
  rw [List.forall_mem_map]
  intro p hp
  apply (h p hp).quiet

/-- The tokens of the results. -/
def resultTokens : List GoType → List Token
  | [] => []
  | [t] => tokens t.text
  | ts => mark '(' :: (commaTokens (ts.map fun t => tokens t.text) ++ [mark ')'])

/-- Results are read as the tokens of their types, in parentheses if there are several. -/
theorem reads_resultsText {results : List GoType} (h : ∀ t ∈ results, Inert t.text) :
  Reads (resultsText results) (resultTokens results)
  := by
  match results with
  | [] => apply reads_empty
  | [t] => apply (h t (List.mem_singleton_self t)).reads.lead " " (by decide)
  | t :: u :: rest =>
      have hcommas : List.Forall₂ Reads ((t :: u :: rest).map GoType.text)
          ((t :: u :: rest).map fun t => tokens t.text) := by
        rw [List.forall₂_map_left_iff, List.forall₂_map_right_iff, List.forall₂_same]
        intro t ht
        apply (h t ht).reads
      have hread := ((reads_commas hcommas).trail ")" (by decide)).lead " (" (by decide)
      rw [resultsText, resultTokens, String.append_assoc]
      · apply hread
      all_goals simp

/-- Results use nothing, though they may begin with a parenthesis: it stands behind that of the
parameters. -/
theorem uses_resultTokens {results : List GoType} (h : ∀ t ∈ results, Inert t.text)
    {rest : List Token} (hrest : Apart rest) :
  uses (mark ')' :: (resultTokens results ++ rest)) = uses rest
  := by
  rw [uses_mark (by decide)]
  match results with
  | [] => rfl
  | [t] => apply (h t (List.mem_singleton_self t)).quiet.uses rest hrest
  | t :: u :: results =>
      have hcommas : Quiet (commaTokens ((t :: u :: results).map fun t => tokens t.text)) := by
        apply quiet_commaTokens
        rw [List.forall_mem_map]
        intro t ht
        apply (h t ht).quiet
      rw [resultTokens, List.cons_append, uses_mark (by decide), List.append_assoc,
        List.singleton_append, hcommas.uses _ (apart_cons.mpr (by decide)), uses_mark (by decide)]
      all_goals simp

/-- The names and types of the signature and the statements of the body are readable. -/
structure Func.Readable (f : Func) : Prop where
  receiver : ∀ r, f.receiver = some r → IsWord r
  name : isIdentifier f.name.toList
  params : ∀ p ∈ f.params, ReadableEntry p
  results : ∀ t ∈ f.results, Inert t.text
  body : ∀ s ∈ f.body, s.Readable

namespace Func

/-- The tokens of a receiver. -/
def receiverTokens : Option String → List Token
  | some type => [mark '(', word "c", mark '*', word type, mark ')']
  | none => []

/-- The tokens after the receiver. -/
def signatureTokens (f : Func) : List Token :=
  word f.name :: mark '(' :: (commaTokens (f.params.map entryTokens)
    ++ mark ')' :: (resultTokens f.results ++ [mark '\x7b']))

/-- The tokens of the line that opens the function. -/
def headerTokens (f : Func) : List Token :=
  word "func" :: (receiverTokens f.receiver ++ f.signatureTokens)

variable {f : Func}

/-- A signature is read as its tokens. -/
theorem Readable.reads_signature (h : f.Readable) :
  Reads (f.name ++ "(" ++ paramsText f.params ++ ")" ++ resultsText f.results ++ " \x7b")
    f.signatureTokens
  := by
  have hopening : IsMarks "(" := by decide
  have hclosing : IsMarks ")" := by decide
  have hresults := ((reads_resultsText h.results).trail " \x7b" (by decide)).lead ")" hclosing
  have hread := (reads_word (isWord_of_isIdentifier h.name)).append
    (((reads_paramsText h.params).append hresults (hclosing.endsWord_append (by decide) _)).lead
      "(" hopening) (hopening.endsWord_append (by decide) _)
  simp only [String.append_assoc] at hread ⊢
  apply hread

/-- The line that opens a function is read. -/
theorem Readable.reads_header (h : f.Readable) :
  Reads f.header f.headerTokens
  := by
  have hsignature := h.reads_signature
  rw [headerTokens]
  cases hr : f.receiver with
  | none =>
      have hread := hsignature.after_word "func" (by decide)
      rw [header, hr]
      simp only [String.append_assoc] at hread ⊢
      apply hread
  | some r =>
      have hstar : IsMarks " *" := by decide
      have hclosing : IsMarks ") " := by decide
      have htype := (reads_word (h.receiver r hr)).append (hsignature.lead ") " hclosing)
        (hclosing.endsWord_append (by decide) _)
      have hreceiver := (reads_word (s := "c") (by decide)).append (htype.lead " *" hstar)
        (hstar.endsWord_append (by decide) _)
      have hread := (hreceiver.lead "(" (by decide)).after_word "func" (by decide)
      have htext : f.header = "func" ++ " " ++ ("(" ++ ("c" ++ (" *" ++ (r ++ (") " ++ (f.name ++ "("
          ++ paramsText f.params ++ ")" ++ resultsText f.results ++ " \x7b")))))) := by
        apply String.toList_inj.mp
        simp [header, hr]
      rw [htext]
      apply hread

/-- The line that opens a readable function has the tokens of its header. -/
theorem Readable.tokens_header (h : f.Readable) :
  tokens f.header = f.headerTokens
  := h.reads_header.tokens_eq

/-- The parameters are the entries of the brackets after the name. -/
theorem Readable.entries_params (h : f.Readable) (rest : List Token) :
  entries (commaTokens (f.params.map entryTokens) ++ mark ')' :: rest) = f.params.map entryTokens
  := by
  apply entries_commaTokens _ (by decide)
  rw [List.forall_mem_map]
  intro p hp
  exact ⟨(h.params p hp).whole, List.cons_ne_nil _ _⟩

/-- A line that opens a function names it in front of its parameters. -/
theorem Readable.uses_signatureTokens (h : f.Readable) (rest : List Token) :
  uses (f.signatureTokens ++ rest) = .call f.name (f.params.map entryTokens) :: uses rest
  := by
  have hparams := quiet_params h.params
  have hbrace : Apart (mark '\x7b' :: rest) := apart_cons.mpr (by decide)
  rw [signatureTokens]
  simp only [List.cons_append, List.append_assoc, List.nil_append]
  rw [uses_call, h.entries_params, hparams.uses _ (apart_cons.mpr (by decide)),
    uses_resultTokens h.results hbrace, uses_mark (by decide)]

end Func

/-! ### Structs -/

/-- The name of the struct and the names and types of its fields are readable. -/
structure Struct.Readable (s : Struct) : Prop where
  name : IsWord s.name
  fields : ∀ f ∈ s.fields, ReadableEntry f

namespace Struct

variable {s : Struct}

/-- The tokens of the line that opens the struct. -/
def headerTokens (s : Struct) : List Token :=
  [word "type", word s.name, word "struct", mark '\x7b']

/-- The line that opens a readable struct is read as its tokens. -/
theorem Readable.reads_header (h : s.Readable) :
  Reads s.header s.headerTokens
  := by
  have hstruct := (reads_word (s := "struct") (by decide)).trail " \x7b" (by decide)
  have hread := (hstruct.after_word s.name h.name).after_word "type" (by decide)
  have htext : s.header = "type" ++ " " ++ (s.name ++ " " ++ ("struct" ++ " \x7b")) := by
    apply String.toList_inj.mp
    simp [header]
  rw [htext]
  apply hread

/-- The lines of the fields are read. -/
theorem Readable.forall₂_reads (h : s.Readable) :
  List.Forall₂ Reads s.bodyLines (s.fields.map entryTokens)
  := by
  have hblank : IsMarks " " := by decide
  rw [bodyLines, fieldLines, List.map_map, List.forall₂_map_left_iff, List.forall₂_map_right_iff,
    List.forall₂_same]
  intro f hf
  obtain ⟨hname, htype⟩ := h.fields f hf
  have hread : ∀ width, Reads ("\t" ++ (padTo width f.1 ++ (" " ++ f.2.text))) (entryTokens f) := by
    intro width
    apply ((reads_padTo width (reads_word hname)).append (htype.reads.lead " " hblank)
      (hblank.endsWord_append (by decide) _)).lead "\t" (by decide)
  simp only [Function.comp_apply, String.append_assoc]
  apply hread

end Struct

end ClientWrap.Code
