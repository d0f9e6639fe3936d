import ClientWrap.Text.Identifier
import ClientWrap.Text.LowerCase
import Mathlib.Data.List.Basic

/-!
# Characters of identifiers

Identifiers are texts in ASCII and hold no other characters than letters, digits and underscores.
-/

namespace ClientWrap.Text

/-- The codes of the capital letters. -/
theorem toNat_of_isUpper {c : Char} (h : c.isUpper = true) :
  65 ≤ c.toNat ∧ c.toNat ≤ 90
  := by
  have hrange : c.val ≥ 'A'.val ∧ c.val ≤ 'Z'.val := of_decide_eq_true h
  rwa [ge_iff_le, UInt32.le_iff_toNat_le, UInt32.le_iff_toNat_le] at hrange

/-- The codes of the lower-case letters. -/
theorem toNat_of_isLower {c : Char} (h : c.isLower = true) :
  97 ≤ c.toNat ∧ c.toNat ≤ 122
  := by
  obtain ⟨hlow, hhigh⟩ := (Bool.and_eq_true _ _).mp h
  have hrange : c.val ≥ 'a'.val ∧ c.val ≤ 'z'.val :=
    ⟨of_decide_eq_true hlow, of_decide_eq_true hhigh⟩
  rwa [ge_iff_le, UInt32.le_iff_toNat_le, UInt32.le_iff_toNat_le] at hrange

/-- Letters and digits are visible characters of ASCII. -/
theorem toNat_of_isAlphanum {c : Char} (h : c.isAlphanum = true) :
  32 < c.toNat ∧ c.toNat < 128
  := by
  rcases (Bool.or_eq_true _ _).mp h with h | h
  · rcases (Bool.or_eq_true _ _).mp h with h | h
    · have := toNat_of_isUpper h
      omega
    · have := toNat_of_isLower h
      omega
  · obtain ⟨hlow, hhigh⟩ := Char.isDigit_iff_toNat.mp h
    change 48 ≤ c.toNat at hlow
    change c.toNat ≤ 57 at hhigh
    omega

/-- The characters of identifiers are visible ones of ASCII. -/
theorem toNat_of_isIdentRest {c : Char} (h : isIdentRest c = true) :
  32 < c.toNat ∧ c.toNat < 128
  := by
  rcases (Bool.or_eq_true _ _).mp h with h | h
  · apply toNat_of_isAlphanum h
  · obtain rfl := eq_of_beq h
    decide

/-- Every character of an identifier, the first one included, may stand inside an identifier. -/
theorem all_isIdentRest_of_isIdentifier {s : List Char} (h : isIdentifier s = true) :
  ∀ c ∈ s, isIdentRest c
  := by
  cases s with
  | nil => simp
  | cons c s =>
      simp only [isIdentifier, isIdentStart, Bool.and_eq_true, Bool.or_eq_true,
        List.all_eq_true] at h
      intro d hd
      obtain rfl | hd := List.mem_cons.mp hd
      · rw [isIdentRest, Char.isAlphanum, Bool.or_eq_true, Bool.or_eq_true]
        apply h.1.imp_left Or.inl
      · apply h.2 d hd

/-- An identifier is not empty. -/
theorem ne_nil_of_isIdentifier {s : List Char} (h : isIdentifier s = true) :
  s ≠ []
  := by
  rintro rfl
  contradiction

/-- A character that identifiers do not hold is not in an identifier. -/
theorem not_mem_of_isIdentifier {s : List Char} (h : isIdentifier s = true) {c : Char}
    (hc : isIdentRest c = false) :
  c ∉ s
  := by
  intro hs
  rw [all_isIdentRest_of_isIdentifier h c hs] at hc
  contradiction

/-- What follows an identifier may be any of its characters. -/
theorem isIdentifier_append {s t : List Char} (h : isIdentifier s = true)
    (ht : ∀ c ∈ t, isIdentRest c = true) :
  isIdentifier (s ++ t) = true
  := by
  cases s with
  | nil => contradiction
  | cons c s =>
      rw [isIdentifier, Bool.and_eq_true] at h
      rw [List.cons_append, isIdentifier, Bool.and_eq_true, List.all_append, Bool.and_eq_true]
      exact ⟨h.1, h.2, List.all_eq_true.mpr ht⟩

/-- Identifiers are ASCII texts. -/
theorem ascii_of_isIdentifier {s : List Char} (h : isIdentifier s = true) :
  ∀ c ∈ s, c.toNat < 128
  := by
  intro c hc
  apply (toNat_of_isIdentRest (all_isIdentRest_of_isIdentifier h c hc)).2

/-- A package name is an identifier. -/
theorem isIdentifier_of_isPackageName {s : List Char} (h : isPackageName s = true) :
  isIdentifier s = true
  := by
  cases s with
  | nil => contradiction
  | cons c s =>
      simp only [isPackageName, Bool.and_eq_true, Bool.or_eq_true, List.all_eq_true] at h
      have halpha : ∀ d : Char, d.isAlpha = (d.isUpper || d.isLower) := fun _ => rfl
      rw [isIdentifier, isIdentStart, halpha, Bool.and_eq_true, List.all_eq_true]
      constructor
      · grind
      · intro d hd
        have := h.2 d hd
        rw [isIdentRest, Char.isAlphanum, halpha]
        grind

/-- What holds of the first 128 characters holds of every character in ASCII. -/
theorem forall_ascii {P : Char → Prop} (h : ∀ n < 128, P (Char.ofNat n)) {c : Char}
    (hc : c.toNat < 128) :
  P c
  := by
  rw [← Char.ofNat_toNat c]
  apply h c.toNat hc

/-- The lower case of an identifier is an identifier. -/
theorem isIdentifier_lowerString {s : String} (h : isIdentifier s.toList = true) :
  isIdentifier (lowerString s).toList = true
  := by
  have hletter : ∀ c : Char, c.toNat < 128 →
      (isIdentStart c = true → isIdentStart c.toLower = true)
        ∧ (isIdentRest c = true → isIdentRest c.toLower = true) := by
    intro c
    apply forall_ascii
    decide
  have hascii := ascii_of_isIdentifier h
  rw [lowerString, String.toList_ofList, lowerCase_ascii hascii]
  cases hs : s.toList with
  | nil =>
      rw [hs] at h
      contradiction
  | cons c cs =>
      rw [hs, isIdentifier, Bool.and_eq_true, List.all_eq_true] at h
      rw [hs] at hascii
      obtain ⟨hc, hcs⟩ := List.forall_mem_cons.mp hascii
      rw [List.map_cons, isIdentifier, Bool.and_eq_true, List.all_map, List.all_eq_true]
      use (hletter c hc).1 h.1
      intro d hd
      apply (hletter d (hcs d hd)).2 (h.2 d hd)

end ClientWrap.Text
