import ClientWrap.Text.Blank
import Mathlib.Data.List.DropRight

/-!
# Trimming

Trimming takes away the blanks at both ends of a text and nothing else: a text is its trimmed form
between blanks, and blanks put around a text do not change its trimmed form.
-/

namespace ClientWrap.Text

/-! ### Blanks -/

/-- The first character of a text is lost at its end exactly if it is a blank and nothing but blanks
follows it. -/
theorem trimEnd_cons (c : Char) (s : List Char) :
  trimEnd (c :: s) = if trimEnd s = [] ∧ isBlank c then [] else c :: trimEnd s
  := by
  rw [trimEnd, trimEnd, List.reverse_cons, List.dropWhile_append]
  cases h : s.reverse.dropWhile isBlank with
  | nil => cases hc : isBlank c <;> simp [hc]
  | cons d rest => simp

/-- A first character that is no blank stays when the end of the text is trimmed. -/
theorem trimEnd_cons_of_not_blank {c : Char} (h : isBlank c = false) (s : List Char) :
  trimEnd (c :: s) = c :: trimEnd s
  := by
  rw [trimEnd_cons, if_neg (by simp [h])]

/-- The end of a text reaches at least back to a character that is not blank. -/
theorem trimEnd_append_cons {c : Char} (h : isBlank c = false) (s s' : List Char) :
  trimEnd (s ++ c :: s') = s ++ c :: trimEnd s'
  := by
  induction s with
  | nil => apply trimEnd_cons_of_not_blank h
  | cons d s ih => rw [List.cons_append, trimEnd_cons, ih, if_neg (by simp), List.cons_append]

/-- The blanks at the end may be taken away before those at the start. -/
theorem trim_eq_trimStart_trimEnd (s : List Char) :
  trim s = trimStart (trimEnd s)
  := by
  induction s with
  | nil => rfl
  | cons c s ih =>
      rw [trim, trimStart, List.dropWhile_cons, trimEnd_cons]
      cases hc : isBlank c with
      | false => simp [trimEnd_cons, trimStart, hc]
      | true =>
          rw [trim] at ih
          rw [if_pos rfl, ← trimStart, ih]
          by_cases hs : trimEnd s = []
          · simp [hs]
          · simp [hs, trimStart, hc]

/-- Blanks at the start do not matter once the start is trimmed. -/
theorem trimStart_append {before : List Char} (h : ∀ c ∈ before, isBlank c) (s : List Char) :
  trimStart (before ++ s) = trimStart s
  := List.dropWhile_append_of_pos h

/-- Blanks at the end do not matter once the end is trimmed. -/
theorem trimEnd_append {after : List Char} (h : ∀ c ∈ after, isBlank c) (s : List Char) :
  trimEnd (s ++ after) = trimEnd s
  := by
  rw [trimEnd, trimEnd, List.reverse_append, List.dropWhile_append_of_pos]
  intro c hc
  apply h c (List.mem_reverse.mp hc)

/-- Blanks around a text do not change its trimmed form. -/
theorem trim_append {before after : List Char} (hb : ∀ c ∈ before, isBlank c)
    (ha : ∀ c ∈ after, isBlank c) (s : List Char) :
  trim (before ++ s ++ after) = trim s
  := by
  rw [trim_eq_trimStart_trimEnd, trimEnd_append ha, ← trim_eq_trimStart_trimEnd, trim,
    trimStart_append hb, trim]

/-- Trimming the end again changes nothing. -/
theorem trimEnd_trimEnd (s : List Char) :
  trimEnd (trimEnd s) = trimEnd s
  := List.rdropWhile_idempotent isBlank s

/-- Trimming both ends forgets whether the end was trimmed before. -/
theorem trim_trimEnd (s : List Char) :
  trim (trimEnd s) = trim s
  := by
  rw [trim_eq_trimStart_trimEnd, trimEnd_trimEnd, ← trim_eq_trimStart_trimEnd]

/-- Trimming again changes nothing. -/
theorem trim_trim (s : List Char) :
  trim (trim s) = trim s
  := by
  rw [trim_eq_trimStart_trimEnd (trim s), trim, trimEnd_trimEnd, ← trim, trim_eq_trimStart_trimEnd]
  apply List.dropWhile_idempotent

/-- A text that does not begin with a blank is trimmed at its end only. -/
theorem trim_cons {c : Char} (h : isBlank c = false) (s : List Char) :
  trim (c :: s) = c :: trimEnd s
  := by
  rw [trim, trimStart, List.dropWhile_cons_of_neg (by simp [h]), trimEnd_cons_of_not_blank h]

/-- A text is its trimmed form between blanks. -/
theorem exists_trim (s : List Char) :
  ∃ before after, (∀ c ∈ before, isBlank c) ∧ (∀ c ∈ after, isBlank c)
    ∧ s = before ++ trim s ++ after
  := by
  use s.takeWhile isBlank, ((trimStart s).reverse.takeWhile isBlank).reverse
  and_intros
  · intro c hc
    apply List.mem_takeWhile_imp hc
  · intro c hc
    apply List.mem_takeWhile_imp (List.mem_reverse.mp hc)
  · have hend := List.takeWhile_append_dropWhile (p := isBlank) (l := (trimStart s).reverse)
    have hstart := List.takeWhile_append_dropWhile (p := isBlank) (l := s)
    rw [List.append_assoc, trim, trimEnd, ← List.reverse_append, hend, List.reverse_reverse,
      trimStart, hstart]

/-- A text without blanks is trimmed already. -/
theorem trim_eq_self_of_not_blank {s : List Char} (h : ∀ c ∈ s, isBlank c = false) :
  trim s = s
  := by
  obtain ⟨before, after, hb, ha, hs⟩ := exists_trim s
  cases before with
  | cons c before =>
      have := h c (by rw [hs]; simp)
      rw [hb c (by simp)] at this
      contradiction
  | nil =>
      cases after with
      | cons c after =>
          have := h c (by rw [hs]; simp)
          rw [ha c (by simp)] at this
          cases this
      | nil => simpa using hs.symm

/-- The blanks of ASCII are the space and control characters. -/
theorem isBlank_toNat {c : Char} (h : isBlank c = true) :
  c.toNat ≤ 32 ∨ 128 ≤ c.toNat
  := by
  simp only [isBlank, Bool.or_eq_true, Bool.and_eq_true, decide_eq_true_eq, beq_iff_eq,
    Char.le_def, UInt32.le_iff_toNat_le] at h
  simp at h
  rcases h with (((((((((rfl | h) | rfl) | rfl) | rfl) | h) | rfl) | rfl) | rfl) | rfl) | rfl
  all_goals first | decide | omega

end ClientWrap.Text
