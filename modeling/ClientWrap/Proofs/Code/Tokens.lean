import ClientWrap.Proofs.Code.ImportBlock
import ClientWrap.Text.Blank

/-!
# Tokens

A reader of tokens takes a text apart into words, string literals and single marks. A word is as
long as it can be and has the dots of qualified names in it, so `c.inner` is one word; what stands
inside a literal is never a token of its own.

`Reads s ts` says that the reader finds the tokens `ts` in the text `s` whatever is behind it, as
long as the last word of `s` ends there. The texts of emitted code are put together from small ones,
and so are their tokens (`Reads.append`, `Reads.lead`, `reads_commas`).
-/

namespace ClientWrap.Code

open ClientWrap.Text

/-- A word, the text that a string literal stands for, or another character. -/
inductive Token where
  | word (text : String)
  | literal (value : String)
  | mark (c : Char)
  deriving DecidableEq

/-- The characters of words. -/
def isWordChar (c : Char) : Bool :=
  isIdentRest c || c == '.'

/-- The tokens of a text. A quote that begins no literal is a mark. -/
def tokensFrom : List Char → List Token
  | [] => []
  | c :: s =>
    if isWordChar c then
      .word (String.ofList (c :: s.takeWhile isWordChar)) :: tokensFrom (s.dropWhile isWordChar)
    else if isBlank c then tokensFrom s
    else
      match _h : if c = '"' then unescape s else none with
      | some (value, rest) => .literal (String.ofList value) :: tokensFrom rest
      | none => .mark c :: tokensFrom s
termination_by s => s.length
decreasing_by
  · rw [List.length_cons, Nat.lt_succ_iff]
    apply (List.dropWhile_sublist isWordChar).length_le
  · rw [List.length_cons, Nat.lt_succ_iff]
  · have hlength := length_of_unescape (Option.ite_none_right_eq_some.mp _h).2
    rw [List.length_cons]
    omega
  · rw [List.length_cons, Nat.lt_succ_iff]

/-- The tokens of a string. -/
def tokens (s : String) : List Token :=
  tokensFrom s.toList

/-- A word that comes before the text ends there. -/
def EndsWord (s : List Char) : Prop :=
  ∀ c ∈ s.head?, isWordChar c = false

/-- The text is a single word. -/
def IsWord (s : String) : Prop :=
  s ≠ "" ∧ s.toList.all isWordChar

instance : DecidablePred IsWord :=
  fun s => inferInstanceAs (Decidable (s ≠ "" ∧ s.toList.all isWordChar))

/-- An identifier is a word. -/
theorem isWord_of_isIdentifier {s : String} (h : isIdentifier s.toList) :
  IsWord s
  := by
  constructor
  · rintro rfl
    contradiction
  · apply List.all_eq_true.mpr
    intro c hc
    rw [isWordChar, all_isIdentRest_of_isIdentifier h c hc, Bool.true_or]

/-- A name selected from another one makes a word with it, also if the other one is empty. -/
theorem isWord_selected {base id : String} (hbase : base.toList.all isWordChar)
    (hid : id.toList.all isWordChar) :
  IsWord (base ++ "." ++ id)
  := by
  have hdot : ".".toList.all isWordChar := by decide
  constructor
  · apply mt (congrArg String.toList)
    simp
  · rw [String.toList_append, String.toList_append, List.all_append, List.all_append, hbase, hid,
      hdot]
    rfl

/-- An alias has characters of words only. -/
theorem all_isWordChar_packageAlias (path : String) :
  (Naming.packageAlias path).toList.all isWordChar
  := by
  apply List.all_eq_true.mpr
  intro c hc
  rw [Naming.packageAlias, String.toList_ofList] at hc
  have halias := List.all_eq_true.mp (Naming.aliasChars_all path.toList) c hc
  exact Bool.or_eq_true_iff.mpr (Or.inl halias)

/-- The characters that open a literal: a quote, an apostrophe and a backquote. -/
def opensLiteral (c : Char) : Bool :=
  "\"'`".toList.contains c

/-- No character of the text opens a literal. -/
def Plain (s : String) : Prop :=
  s.toList.all (!opensLiteral ·)

instance : DecidablePred Plain :=
  fun s => inferInstanceAs (Decidable (s.toList.all (!opensLiteral ·)))

/-- A joined text opens no literal exactly if none of its parts does. -/
theorem plain_append {s t : String} :
  Plain (s ++ t) ↔ Plain s ∧ Plain t
  := by
  simp [Plain]

/-- Neither a character of words nor a blank opens a literal. -/
theorem not_opensLiteral {c : Char} (h : isWordChar c ∨ isBlank c) :
  opensLiteral c = false
  := by
  apply Bool.eq_false_iff.mpr
  intro hc
  have hmem : c = '"' ∨ c = '\'' ∨ c = Char.ofNat 96 := by simpa [opensLiteral] using hc
  rcases hmem with rfl | rfl | rfl <;> revert h <;> decide

/-- A text of characters of words opens no literal. -/
theorem plain_of_word {s : String} (h : s.toList.all isWordChar) :
  Plain s
  := by
  apply List.all_eq_true.mpr
  intro c hc
  rw [not_opensLiteral (Or.inl (List.all_eq_true.mp h c hc))]
  rfl

/-- The end of a text ends a word. -/
theorem EndsWord.nil :
  EndsWord []
  := by
  intro c hc
  contradiction

/-- A word ends in front of a character that is none of words. -/
theorem endsWord_cons {c : Char} {s : List Char} :
  EndsWord (c :: s) ↔ isWordChar c = false
  := by
  simp [EndsWord]

/-- The end of a text ends a word if what is behind it does. -/
theorem EndsWord.append {s rest : List Char} (h : EndsWord s) (hrest : EndsWord rest) :
  EndsWord (s ++ rest)
  := by
  cases s with
  | nil => apply hrest
  | cons c s => apply endsWord_cons.mpr (endsWord_cons.mp h)

/-! ### Single tokens -/

variable {c : Char} {rest : List Char}

/-- A word that ends is read as one token. -/
theorem tokensFrom_word {w : String} (hw : IsWord w) (hrest : EndsWord rest) :
  tokensFrom (w.toList ++ rest) = .word w :: tokensFrom rest
  := by
  obtain ⟨hne, hall⟩ := hw
  rw [List.all_eq_true] at hall
  cases hchars : w.toList with
  | nil =>
      apply absurd _ hne
      apply String.toList_inj.mp hchars
  | cons c cs =>
      rw [hchars, List.forall_mem_cons] at hall
      have htake : rest.takeWhile isWordChar = [] ∧ rest.dropWhile isWordChar = rest := by
        cases rest with
        | nil => exact ⟨rfl, rfl⟩
        | cons d rest => simp [endsWord_cons.mp hrest]
      rw [List.cons_append, tokensFrom, if_pos hall.1, List.takeWhile_append_of_pos hall.2,
        List.dropWhile_append_of_pos hall.2, htake.1, htake.2, List.append_nil, ← hchars,
        String.ofList_toList]

/-- A blank is passed over. -/
theorem tokensFrom_blank (hword : isWordChar c = false) (hblank : isBlank c = true) :
  tokensFrom (c :: rest) = tokensFrom rest
  := by
  rw [tokensFrom, if_neg (by simp [hword]), if_pos hblank]

/-- A character that is neither of a word nor a blank nor a quote is a token. -/
theorem tokensFrom_mark (hword : isWordChar c = false) (hblank : isBlank c = false)
    (hquote : c ≠ '"') :
  tokensFrom (c :: rest) = .mark c :: tokensFrom rest
  := by
  rw [tokensFrom, if_neg (by simp [hword]), if_neg (by simp [hblank])]
  split
  · next h =>
      rw [if_neg hquote] at h
      contradiction
  · rfl

/-- A quoted value is read as one token with this value. -/
theorem tokensFrom_quoted (value : String) :
  tokensFrom ((quoted value).toList ++ rest) = .literal value :: tokensFrom rest
  := by
  have hquoted : (quoted value).toList ++ rest = '"' :: (escape value.toList ++ '"' :: rest) := by
    simp [quoted, quotedChars]
  rw [hquoted, tokensFrom, if_neg (by decide), if_neg (by decide)]
  split
  · next read after h =>
      rw [if_pos rfl, unescape_escape] at h
      obtain ⟨rfl, rfl⟩ := Prod.mk.inj (Option.some.inj h)
      rw [String.ofList_toList]
  · next h =>
      rw [if_pos rfl, unescape_escape] at h
      contradiction

/-! ### Texts -/

/-- The tokens of the text in front of whatever ends its last word. -/
def Reads (s : String) (ts : List Token) : Prop :=
  ∀ rest, EndsWord rest → tokensFrom (s.toList ++ rest) = ts ++ tokensFrom rest

section

variable {s t : String} {ts us : List Token}

/-- What a text is read as are its tokens. -/
theorem Reads.tokens_eq (h : Reads s ts) :
  tokens s = ts
  := by
  have hread := h [] EndsWord.nil
  rwa [List.append_nil, tokensFrom, List.append_nil] at hread

/-- The empty text is read as no tokens. -/
theorem reads_empty :
  Reads "" []
  := by
  intro rest _
  rfl

/-- A word is read as one token. -/
theorem reads_word (h : IsWord s) :
  Reads s [.word s]
  := by
  intro rest hrest
  apply tokensFrom_word h hrest

/-- A quoted value is read as one token with this value. -/
theorem reads_quoted (value : String) :
  Reads (quoted value) [.literal value]
  := by
  intro rest _
  apply tokensFrom_quoted

/-- The tokens of two texts, the second of which does not go on with the last word of the first. -/
theorem Reads.append (hs : Reads s ts) (ht : Reads t us) (hends : EndsWord t.toList) :
  Reads (s ++ t) (ts ++ us)
  := by
  intro rest hrest
  rw [String.toList_append, List.append_assoc, hs _ (hends.append hrest), ht rest hrest,
    List.append_assoc]

/-- The text consists of blanks and of characters that are tokens. -/
def IsMarks (s : String) : Prop :=
  s.toList.all fun c => !isWordChar c && c != '"'

instance : DecidablePred IsMarks :=
  fun s => inferInstanceAs (Decidable (s.toList.all fun c => !isWordChar c && c != '"'))

/-- A text of marks has neither characters of words nor quotes. -/
theorem isMarks_iff :
  IsMarks s ↔ ∀ c ∈ s.toList, isWordChar c = false ∧ c ≠ '"'
  := by
  simp [IsMarks]

/-- Marks end a word in front of them. -/
theorem IsMarks.endsWord (h : IsMarks s) :
  EndsWord s.toList
  := by
  intro c hc
  apply (isMarks_iff.mp h c (List.mem_of_mem_head? hc)).1

/-- A word in front of marks ends there, whatever follows the marks. -/
theorem IsMarks.endsWord_append (h : IsMarks s) (hne : s ≠ "") (t : String) :
  EndsWord (s ++ t).toList
  := by
  cases hs : s.toList with
  | nil =>
      apply absurd _ hne
      apply String.toList_inj.mp hs
  | cons c cs =>
      have hends := h.endsWord
      rw [hs] at hends
      rw [String.toList_append, hs]
      apply endsWord_cons.mpr (endsWord_cons.mp hends)

/-- The characters of the text that are not blank, as tokens. -/
def marks (s : String) : List Token :=
  (s.toList.filter (!isBlank ·)).map .mark

/-- Marks are read one by one, and the blanks among them are passed over. -/
theorem tokensFrom_marks {cs : List Char} (h : ∀ c ∈ cs, isWordChar c = false ∧ c ≠ '"') :
  tokensFrom (cs ++ rest) = (cs.filter (!isBlank ·)).map .mark ++ tokensFrom rest
  := by
  induction cs with
  | nil => rfl
  | cons c cs ih =>
      obtain ⟨⟨hword, hquote⟩, hcs⟩ := List.forall_mem_cons.mp h
      rw [List.cons_append]
      by_cases hblank : isBlank c
      · rw [tokensFrom_blank hword hblank, ih hcs, List.filter_cons_of_neg (by simp [hblank])]
      · rw [Bool.not_eq_true] at hblank
        rw [tokensFrom_mark hword hblank hquote, ih hcs, List.filter_cons_of_pos (by simp [hblank])]
        rfl

/-- Marks and blanks in front of a text. -/
theorem Reads.lead (ht : Reads t us) (s : String) (hs : IsMarks s) :
  Reads (s ++ t) (marks s ++ us)
  := by
  intro rest hrest
  rw [String.toList_append, List.append_assoc, tokensFrom_marks (isMarks_iff.mp hs), ht rest hrest,
    marks, List.append_assoc]

/-- Marks are read as their tokens. -/
theorem reads_marks (hs : IsMarks s) :
  Reads s (marks s)
  := by
  have hread := reads_empty.lead s hs
  rwa [String.append_empty, List.append_nil] at hread

/-- Marks and blanks behind a text. -/
theorem Reads.trail (hs : Reads s ts) (t : String) (ht : IsMarks t) :
  Reads (s ++ t) (ts ++ marks t)
  := by
  apply hs.append (reads_marks ht) ht.endsWord

/-- A word with a blank behind it in front of a text. -/
theorem Reads.after_word (ht : Reads t us) (s : String) (hs : IsWord s) :
  Reads (s ++ " " ++ t) (.word s :: us)
  := by
  have hblank : IsMarks " " := by decide
  rw [String.append_assoc]
  apply (reads_word hs).append (ht.lead " " hblank) (hblank.endsWord_append (by decide) t)

/-- Tokens with commas between them. -/
def commaTokens (tss : List (List Token)) : List Token :=
  [Token.mark ','].intercalate tss

/-- Texts with commas between them are read one by one. -/
theorem reads_commas {ss : List String} {tss : List (List Token)} (h : List.Forall₂ Reads ss tss) :
  Reads (", ".intercalate ss) (commaTokens tss)
  := by
  induction h with
  | nil => apply reads_empty
  | @cons s ts ss tss hs hss ih =>
      cases hss with
      | nil => simpa [commaTokens] using hs
      | @cons s' ts' ss tss hs' hss =>
          rw [commaTokens, String.intercalate_cons_cons, List.intercalate_cons_cons, ← commaTokens,
            String.append_assoc, List.append_assoc]
          have hcomma : IsMarks ", " := by decide
          apply hs.append (ih.lead ", " hcomma) (hcomma.endsWord_append (by decide) _)

end

end ClientWrap.Code
