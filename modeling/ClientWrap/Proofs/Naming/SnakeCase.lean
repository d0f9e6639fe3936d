import ClientWrap.Naming.SnakeCase
import ClientWrap.Proofs.Text.Identifiers
import Mathlib.Data.List.TakeWhile

/-!
# Words of a name

The two passes of the snake-case form come to one rule that looks at neighbouring characters only
(`snakeCase_eq_separated`). The first pass passes over a word together with the character before
it, so it misses the beginning of a word that follows another one directly; such a word begins
after a lower-case letter, where the second pass finds it.
-/

namespace ClientWrap.Naming

open ClientWrap.Text

/-- Whether a word begins with the character `b` between `a` and the text `after`: at a capital
letter that follows a lower-case letter or a digit, and at one with a lower-case letter behind it
unless it is the first character of a line. -/
def beginsWord (a b : Char) (after : List Char) : Bool :=
  b.isUpper && (a.isLower || a.isDigit || a != '\n' && after.head?.any Char.isLower)

/-- The text with an underscore before each word but the first. -/
def separated : List Char → List Char
  | a :: b :: after =>
    if beginsWord a b after then a :: '_' :: separated (b :: after)
    else a :: separated (b :: after)
  | s => s

/-! ### Kinds of characters -/

/-- A lower-case letter is no capital letter. -/
theorem isUpper_eq_false_of_isLower {c : Char} (h : c.isLower = true) :
  c.isUpper = false
  := by
  apply Bool.eq_false_iff.mpr
  intro hupper
  have := toNat_of_isUpper hupper
  have := toNat_of_isLower h
  omega

/-- A capital letter is no digit. -/
theorem isDigit_eq_false_of_isUpper {c : Char} (h : c.isUpper = true) :
  c.isDigit = false
  := by
  apply Bool.eq_false_iff.mpr
  intro hdigit
  have := toNat_of_isUpper h
  obtain ⟨-, hhigh⟩ := Char.isDigit_iff_toNat.mp hdigit
  change c.toNat ≤ 57 at hhigh
  omega

/-! ### The second pass -/

/-- Behind a pair that it separates the second pass goes on with the capital letter, as it does
behind every other pair: no pair begins with a capital letter. -/
theorem breakCapitals_cons_cons (a b : Char) (s : List Char) :
  breakCapitals (a :: b :: s)
    = if (a.isLower || a.isDigit) && b.isUpper then a :: '_' :: breakCapitals (b :: s)
      else a :: breakCapitals (b :: s)
  := by
  rw [breakCapitals]
  split
  · next h =>
      obtain ⟨-, hb⟩ := (Bool.and_eq_true _ _).mp h
      have hlower : b.isLower = false := by
        apply Bool.eq_false_iff.mpr
        intro hlower
        rw [isUpper_eq_false_of_isLower hlower] at hb
        contradiction
      cases s with
      | nil => rfl
      | cons c s => simp [breakCapitals, hlower, isDigit_eq_false_of_isUpper hb]
  · rfl

/-- A step of the second pass is one of the rule where the rule asks for no more than a capital
letter after a lower-case letter or a digit. -/
theorem breakCapitals_cons {a : Char} {s t : List Char} (hhead : t.head? = s.head?)
    (hrest : breakCapitals t = separated s)
    (hrule : ∀ b after, s = b :: after →
      beginsWord a b after = ((a.isLower || a.isDigit) && b.isUpper)) :
  breakCapitals (a :: t) = separated (a :: s)
  := by
  cases s with
  | nil =>
      obtain rfl := List.head?_eq_none_iff.mp hhead
      rfl
  | cons b after =>
      obtain ⟨rest, rfl⟩ := List.head?_eq_some_iff.mp hhead
      rw [breakCapitals_cons_cons, separated, hrule b after rfl, hrest]

/-! ### The first pass -/

/-- The first pass keeps the first character. -/
theorem head?_breakWords (s : List Char) :
  (breakWords s).head? = s.head?
  := by
  fun_cases breakWords s <;> simp

/-- After a lower-case letter the rule asks for no more than the second pass does. -/
theorem beginsWord_of_isLower {a : Char} (h : a.isLower = true) (b : Char) (after : List Char) :
  beginsWord a b after = ((a.isLower || a.isDigit) && b.isUpper)
  := by
  simp [beginsWord, h]

/-- The letters of a word behind its capital letter are kept by both passes. -/
theorem breakCapitals_append {l : List Char} (hl : ∀ c ∈ l, c.isLower = true) {s t : List Char}
    (hhead : t.head? = s.head?) (hrest : breakCapitals t = separated s) :
  breakCapitals (l ++ t) = separated (l ++ s)
  := by
  induction l with
  | nil => apply hrest
  | cons c l ih =>
      obtain ⟨hc, hl⟩ := List.forall_mem_cons.mp hl
      apply breakCapitals_cons _ (ih hl)
      · intro b after _
        apply beginsWord_of_isLower hc
      · cases l with
        | nil => apply hhead
        | cons d l => rfl

/-- The two passes together separate the words. The underscore that the first pass puts in front of
a word is no letter, so the second pass separates nothing from it. -/
theorem breakCapitals_breakWords (s : List Char) :
  breakCapitals (breakWords s) = separated s
  := by
  fun_induction breakWords s with
  | case1 c u l rest h ih =>
      obtain ⟨hc, hu, hl⟩ := h
      have hword : ∀ d ∈ l :: rest.takeWhile Char.isLower, d.isLower = true := by
        intro d hd
        rcases List.mem_cons.mp hd with rfl | hd
        · apply hl
        · apply List.mem_takeWhile_imp hd
      have htail := breakCapitals_append hword (head?_breakWords _) ih
      rw [List.cons_append, List.cons_append, List.takeWhile_append_dropWhile] at htail
      have hcapital : breakCapitals (u :: l :: (rest.takeWhile Char.isLower
          ++ breakWords (rest.dropWhile Char.isLower))) = separated (u :: l :: rest) := by
        apply breakCapitals_cons _ htail
        · rintro _ _ ⟨⟩
          simp [beginsWord, isUpper_eq_false_of_isLower hl]
        · rfl
      have hbegins : beginsWord c u (l :: rest) = true := by simp [beginsWord, hc, hu, hl]
      rw [separated, if_pos hbegins, ← hcapital]
      rw [breakCapitals_cons_cons, if_neg (by simp), breakCapitals_cons_cons, if_neg (by simp)]
  | case2 c u l rest h ih =>
      apply breakCapitals_cons (head?_breakWords _) ih
      rintro _ _ ⟨⟩
      rw [beginsWord]
      grind
  | case3 s h =>
      match s with
      | [] => rfl
      | [_] => rfl
      | [a, b] => simp [breakCapitals, separated, beginsWord, Bool.and_comm]
      | a :: b :: c :: s => apply (h a b c s rfl).elim

/-- The snake-case form of a name is the lower case of the name with an underscore before each
word but the first. -/
theorem snakeCase_eq_separated (s : String) :
  snakeCase s = lowerString (String.ofList (separated s.toList))
  := by
  rw [snakeCase, snakeCaseChars, breakCapitals_breakWords, lowerString, String.toList_ofList]

example : separated "OpenAPISchemaV3".toList = "Open_API_Schema_V3".toList := by decide

end ClientWrap.Naming
