import ClientWrap.GoType.Parse
import ClientWrap.Proofs.Text.Identifiers
import ClientWrap.Proofs.Text.Trimming

/-!
# Spellings of types

The grammar of type expressions, without reference to how they are read. `SpellsPlain s t` says
that `s` spells `t` without a variadic marker, `Spells s t` that it does so with the marker allowed
in front. Blanks may stand around every plain type and before the marker.

Main statements:

* `SpellsPlain.closeKey_append`: the brackets of a spelling are balanced, so that the bracket
  after the key of a map is the one that closes it.
* `SpellsPlain.spelling`: a type that has a spelling is spelled by its own text.
-/

namespace ClientWrap.GoType

open ClientWrap.Text

/-! ### The grammar -/

/-- A part of a package path: one or more of its characters. -/
def IsPathPart (s : List Char) : Prop :=
  s ≠ [] ∧ ∀ c ∈ s, isPathChar c

/-- A package path: one or more parts with slashes between them. -/
inductive IsPath : List Char → Prop where
  | part {s : List Char} : IsPathPart s → IsPath s
  | slash {s rest : List Char} : IsPathPart s → IsPath rest → IsPath (s ++ '/' :: rest)

/-- The text spells the type, without a variadic marker. -/
inductive SpellsPlain : List Char → GoType → Prop where
  | identifier {s : List Char} :
      isIdentifier s → SpellsPlain s (builtin (String.ofList s))
  | emptyInterface :
      SpellsPlain "interface\x7b\x7d".toList (builtin "interface\x7b\x7d")
  | named {path name : List Char} :
      IsPath path → isIdentifier name → ¬ "...".toList <+: path ++ '.' :: name →
      SpellsPlain (path ++ '.' :: name) (named (String.ofList path) (String.ofList name))
  | pointer {s : List Char} {t : GoType} :
      SpellsPlain s t → SpellsPlain ('*' :: s) (pointer t)
  | slice {s : List Char} {t : GoType} :
      SpellsPlain s t → SpellsPlain ('[' :: ']' :: s) (slice t)
  | map {s s' : List Char} {key value : GoType} :
      SpellsPlain s key → SpellsPlain s' value →
      SpellsPlain ('m' :: 'a' :: 'p' :: '[' :: (s ++ ']' :: s')) (map key value)
  | blanks {before s after : List Char} {t : GoType} :
      (∀ c ∈ before, isBlank c) → (∀ c ∈ after, isBlank c) → SpellsPlain s t →
      SpellsPlain (before ++ s ++ after) t

/-- The text spells the type. -/
inductive Spells : List Char → GoType → Prop where
  | plain {s : List Char} {t : GoType} : SpellsPlain s t → Spells s t
  | variadic {before s : List Char} {t : GoType} :
      (∀ c ∈ before, isBlank c) → SpellsPlain s t →
      Spells (before ++ '.' :: '.' :: '.' :: s) (variadic t)

/-! ### Characters -/

/-- The characters of package paths are visible characters of ASCII. -/
theorem isPathChar_toNat {c : Char} (h : isPathChar c = true) :
  32 < c.toNat ∧ c.toNat < 128
  := by
  simp only [isPathChar, Bool.or_eq_true, beq_iff_eq] at h
  rcases h with (((h | rfl) | rfl) | rfl) | rfl
  · apply toNat_of_isAlphanum h
  all_goals decide

/-- No character of a path is a blank. -/
theorem not_isBlank_of_isPathChar {c : Char} (h : isPathChar c = true) :
  isBlank c = false
  := by
  apply Bool.eq_false_iff.mpr
  intro hb
  have := isPathChar_toNat h
  have := isBlank_toNat hb
  omega

/-- The characters of identifiers may stand in paths. -/
theorem isPathChar_of_isIdentRest {c : Char} (h : isIdentRest c = true) :
  isPathChar c = true
  := by
  rw [isIdentRest] at h
  simp only [isPathChar, h, Bool.true_or]

/-- The characters of a package path are those of its parts and the slash. -/
theorem IsPath.chars {s : List Char} (h : IsPath s) :
  ∀ c ∈ s, isPathChar c ∨ c = '/'
  := by
  induction h with
  | part hs =>
      intro c hc
      apply Or.inl (hs.2 c hc)
  | slash hs _ ih =>
      intro c hc
      rcases List.mem_append.mp hc with hc | hc
      · apply Or.inl (hs.2 c hc)
      · obtain rfl | hc := List.mem_cons.mp hc
        · apply Or.inr rfl
        · apply ih c hc

/-- A path is not empty. -/
theorem IsPath.ne_nil {s : List Char} (h : IsPath s) :
  s ≠ []
  := by
  cases h with
  | part hs => apply hs.1
  | slash => simp

/-- The characters of a package path with a name after it: none of them is blank or a bracket. -/
theorem IsPath.named_chars {path name : List Char} (hp : IsPath path) (hn : isIdentifier name) :
  ∀ c ∈ path ++ '.' :: name, isBlank c = false ∧ c ≠ '[' ∧ c ≠ ']' ∧ c ≠ '*'
  := by
  have key : ∀ c, isPathChar c ∨ c = '/' →
      isBlank c = false ∧ c ≠ '[' ∧ c ≠ ']' ∧ c ≠ '*' := by
    rintro c (hc | rfl)
    · use not_isBlank_of_isPathChar hc
      and_intros <;> · rintro rfl; contradiction
    · decide
  intro c hc
  apply key
  rcases List.mem_append.mp hc with hc | hc
  · apply hp.chars c hc
  · obtain rfl | hc := List.mem_cons.mp hc
    · apply Or.inl rfl
    · apply Or.inl (isPathChar_of_isIdentRest (all_isIdentRest_of_isIdentifier hn c hc))

/-! ### Brackets -/

/-- A text that leaves the number of open brackets as it was and closes none that was open. -/
def Balanced (s : List Char) : Prop :=
  ∀ depth rest,
    closeKey depth (s ++ rest) = (closeKey depth rest).map fun (key, after) => (s ++ key, after)

/-- The empty text is balanced. -/
theorem Balanced.nil :
  Balanced []
  := by
  intro depth rest
  cases h : closeKey depth rest <;> simp [h]

/-- Balanced texts that follow each other are balanced. -/
theorem Balanced.append {s s' : List Char} (h : Balanced s) (h' : Balanced s') :
  Balanced (s ++ s')
  := by
  intro depth rest
  rw [List.append_assoc, h, h']
  cases closeKey depth rest <;> simp

/-- A character that is no bracket keeps a text balanced. -/
theorem Balanced.cons {c : Char} (hopen : c ≠ '[') (hclose : c ≠ ']') {s : List Char}
    (h : Balanced s) :
  Balanced (c :: s)
  := by
  intro depth rest
  rw [List.cons_append, closeKey, if_neg (by simp [hclose])]
  simp only [hopen, hclose, if_false]
  rw [h]
  cases closeKey depth rest <;> simp

/-- A balanced text between brackets is balanced. -/
theorem Balanced.brackets {s s' : List Char} (h : Balanced s) (h' : Balanced s') :
  Balanced ('[' :: (s ++ ']' :: s'))
  := by
  intro depth rest
  rw [List.cons_append, closeKey, if_neg (by simp), List.append_assoc]
  simp only [Char.reduceEq, if_false, if_true]
  rw [h, List.cons_append, closeKey, if_neg (by simp)]
  simp only [if_true, Nat.add_sub_cancel]
  rw [h']
  cases closeKey depth rest <;> simp

/-- A text without brackets is balanced. -/
theorem balanced_of_no_bracket {s : List Char} (h : ∀ c ∈ s, c ≠ '[' ∧ c ≠ ']') :
  Balanced s
  := by
  induction s with
  | nil => apply Balanced.nil
  | cons c s ih =>
      have hc := h c (by simp)
      apply Balanced.cons hc.1 hc.2
      apply ih
      intro d hd
      apply h d (by simp [hd])

/-- Blanks are balanced. -/
theorem balanced_of_blank {s : List Char} (h : ∀ c ∈ s, isBlank c) :
  Balanced s
  := by
  apply balanced_of_no_bracket
  intro c hc
  have := h c hc
  constructor <;> · rintro rfl; contradiction

/-- The brackets of a spelling are balanced. -/
theorem SpellsPlain.balanced {s : List Char} {t : GoType} (h : SpellsPlain s t) :
  Balanced s
  := by
  induction h with
  | identifier hs =>
      apply balanced_of_no_bracket
      intro c hc
      have := all_isIdentRest_of_isIdentifier hs c hc
      constructor <;> · rintro rfl; contradiction
  | emptyInterface =>
      apply balanced_of_no_bracket
      simp
  | named hp hn _ =>
      apply balanced_of_no_bracket
      intro c hc
      obtain ⟨-, hopen, hclose, -⟩ := hp.named_chars hn c hc
      exact ⟨hopen, hclose⟩
  | pointer _ ih => apply Balanced.cons (by decide) (by decide) ih
  | slice _ ih => apply Balanced.brackets Balanced.nil ih
  | map _ _ ihs ihs' =>
      apply Balanced.append (s := ['m', 'a', 'p']) (balanced_of_no_bracket (by simp))
      apply Balanced.brackets ihs ihs'
  | blanks hb ha _ ih =>
      apply Balanced.append (Balanced.append (balanced_of_blank hb) ih) (balanced_of_blank ha)

/-- The bracket after the spelling of a key is the one that closes the key. -/
theorem SpellsPlain.closeKey_append {s : List Char} {t : GoType} (h : SpellsPlain s t)
    (rest : List Char) :
  closeKey 0 (s ++ ']' :: rest) = some (s, rest)
  := by
  rw [h.balanced, closeKey]
  simp

/-! ### The text of a type -/

/-- A type that has a spelling is spelled by its own text. -/
theorem SpellsPlain.spelling {s : List Char} {t : GoType} (h : SpellsPlain s t) :
  SpellsPlain t.spelling.toList t
  := by
  induction h with
  | identifier hs =>
      rw [GoType.spelling, String.toList_ofList]
      apply SpellsPlain.identifier hs
  | emptyInterface => apply SpellsPlain.emptyInterface
  | named hp hn hdots =>
      rw [GoType.spelling]
      simp only [String.toList_append, String.toList_ofList, List.append_assoc]
      apply SpellsPlain.named hp hn hdots
  | pointer _ ih =>
      rw [GoType.spelling, String.toList_append]
      apply SpellsPlain.pointer ih
  | slice _ ih =>
      rw [GoType.spelling, String.toList_append]
      apply SpellsPlain.slice ih
  | map _ _ ihs ihs' =>
      rw [GoType.spelling]
      simp only [String.toList_append, List.append_assoc]
      apply SpellsPlain.map ihs ihs'
  | blanks _ _ _ ih => apply ih

/-- The text of a type that some text spells spells the type itself. -/
theorem Spells.spelling {s : List Char} {t : GoType} (h : Spells s t) :
  Spells t.spelling.toList t
  := by
  cases h with
  | plain h => apply Spells.plain h.spelling
  | variadic _ h =>
      rw [GoType.spelling, String.toList_append]
      apply Spells.variadic (List.forall_mem_nil _) h.spelling

end ClientWrap.GoType
