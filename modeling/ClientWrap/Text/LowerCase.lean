import ClientWrap.Text.CaseTable

/-!
# Lower case

Lower-casing of a text by the full Unicode mapping. Every letter goes to its single-letter lower
case, with two exceptions: the capital dotted I goes to two code points, and a capital sigma at
the end of a word goes to the final form of the letter.

Main statements:

* `lowerChar_ascii`: the mapping of one ASCII character.
* `lowerCase_ascii`: on ASCII text, lower-casing acts letter by letter.
-/

namespace ClientWrap.Text

/-- Whether the run maps the code point. -/
def CaseRun.covers (r : CaseRun) (n : Nat) : Bool :=
  r.first ≤ n && n ≤ r.last && (n - r.first) % r.step == 0

/-- The single-letter lower case of a character, itself when it has none. -/
def lowerChar (c : Char) : Char :=
  if c.toNat < 128 then c.toLower
  else
    match lowerRuns.find? (·.covers c.toNat) with
    | some r => Char.ofNat (Int.toNat (c.toNat + r.shift))
    | none => c

/-- Whether the first character after the case-ignorable ones is cased. -/
def startsCased (s : List Char) : Bool :=
  match s.dropWhile (inRanges caseIgnorableRanges) with
  | [] => false
  | c :: _ => inRanges casedRanges c

/-- The form of a capital sigma between the reversed text `before` and the text `after` it: final
when a cased letter stands before it and none after it. -/
def lowerSigma (before after : List Char) : Char :=
  if startsCased before && !startsCased after then 'ς' else 'σ'

/-- Lower case of a text that follows the reversed text `before`. -/
def lowerAfter (before : List Char) : List Char → List Char
  | [] => []
  | c :: rest =>
    if c = 'Σ' then lowerSigma before rest :: lowerAfter (c :: before) rest
    else if c = 'İ' then 'i' :: '\u0307' :: lowerAfter (c :: before) rest
    else lowerChar c :: lowerAfter (c :: before) rest

/-- The lower case of a text. -/
def lowerCase (s : List Char) : List Char :=
  lowerAfter [] s

/-- The lower case of a string. -/
def lowerString (s : String) : String :=
  String.ofList (lowerCase s.toList)

/-- An ASCII character is mapped as the core library maps it. -/
theorem lowerChar_ascii {c : Char} (h : c.toNat < 128) :
  lowerChar c = c.toLower
  := by simp [lowerChar, h]

/-- On ASCII text lower-casing is the letter-wise mapping, whatever stands before the text. -/
theorem lowerAfter_ascii (before : List Char) {s : List Char}
    (h : ∀ c ∈ s, c.toNat < 128) :
  lowerAfter before s = s.map Char.toLower
  := by
  induction s generalizing before with
  | nil => rfl
  | cons c rest ih =>
    have hc : c.toNat < 128 := h c (by simp)
    have hs : c ≠ 'Σ' := by rintro rfl; exact absurd hc (by decide)
    have hi : c ≠ 'İ' := by rintro rfl; exact absurd hc (by decide)
    rw [lowerAfter, if_neg hs, if_neg hi, lowerChar_ascii hc,
      ih _ fun d hd => h d (by simp [hd]), List.map_cons]

/-- On ASCII text lower-casing is the letter-wise mapping. -/
theorem lowerCase_ascii {s : List Char} (h : ∀ c ∈ s, c.toNat < 128) :
  lowerCase s = s.map Char.toLower
  := lowerAfter_ascii [] h

end ClientWrap.Text
