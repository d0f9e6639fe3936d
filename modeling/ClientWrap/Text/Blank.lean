/-!
# Blanks

The white space of Unicode, and the trimming and splitting of text at it.

Main statements:

* `length_trim_le`: trimming never lengthens a text.
-/

namespace ClientWrap.Text

/-- The characters with the Unicode property White_Space. -/
def isBlank (c : Char) : Bool :=
  c == ' ' || ('\t' ≤ c && c ≤ '\r') || c == '\u0085' || c == '\u00A0' || c == '\u1680' ||
    ('\u2000' ≤ c && c ≤ '\u200A') || c == '\u2028' || c == '\u2029' || c == '\u202F' ||
    c == '\u205F' || c == '\u3000'

/-- The text without the blanks at its start. -/
def trimStart (s : List Char) : List Char :=
  s.dropWhile isBlank

/-- The text without the blanks at its end. -/
def trimEnd (s : List Char) : List Char :=
  (s.reverse.dropWhile isBlank).reverse

/-- The text without the blanks at either end. -/
def trim (s : List Char) : List Char :=
  trimEnd (trimStart s)

/-- The parts of a text between blanks, in order; none of them is empty. -/
def wordsFrom (word : List Char) : List Char → List (List Char)
  | [] => if word.isEmpty then [] else [word.reverse]
  | c :: rest =>
    if isBlank c then
      if word.isEmpty then wordsFrom [] rest else word.reverse :: wordsFrom [] rest
    else wordsFrom (c :: word) rest

/-- The words of a string. -/
def words (s : String) : List String :=
  (wordsFrom [] s.toList).map String.ofList

/-- A text does not grow when the blanks at its start are left out. -/
theorem length_trimStart_le (s : List Char) :
  (trimStart s).length ≤ s.length
  := by
  have h := congrArg List.length (List.takeWhile_append_dropWhile (p := isBlank) (l := s))
  rw [List.length_append] at h
  rw [trimStart]
  omega

/-- A text does not grow when the blanks at its end are left out. -/
theorem length_trimEnd_le (s : List Char) :
  (trimEnd s).length ≤ s.length
  := by
  have h := length_trimStart_le s.reverse
  simpa [trimEnd, trimStart] using h

/-- Trimming never lengthens a text. -/
theorem length_trim_le (s : List Char) :
  (trim s).length ≤ s.length
  := Nat.le_trans (length_trimEnd_le _) (length_trimStart_le s)

end ClientWrap.Text
