import ClientWrap.Text.LowerCase

/-!
# Snake case

Metric names are method names with their words separated by underscores, in lower case. Words are
found in two passes from left to right. The first separates a capital letter that lower-case
letters follow from the character before it, unless that is a line feed. The second separates a
capital letter from a lower-case letter or a digit before it.
-/

namespace ClientWrap.Naming

open ClientWrap.Text

/-- The first pass: an underscore before each capitalised word. A word is passed over as a whole,
so that its last letter is not looked at again. -/
def breakWords : List Char → List Char
  | c :: u :: l :: rest =>
    if c ≠ '\n' ∧ u.isUpper ∧ l.isLower then
      c :: '_' :: u :: l ::
        (rest.takeWhile Char.isLower ++ breakWords (rest.dropWhile Char.isLower))
    else c :: breakWords (u :: l :: rest)
  | s => s
termination_by s => s.length
decreasing_by
  · have h := congrArg List.length (List.takeWhile_append_dropWhile (p := Char.isLower) (l := rest))
    rw [List.length_append] at h
    simp only [List.length_cons]
    omega
  · simp

/-- The second pass: an underscore between a lower-case letter or digit and a capital letter. -/
def breakCapitals : List Char → List Char
  | a :: b :: rest =>
    if (a.isLower || a.isDigit) && b.isUpper then a :: '_' :: b :: breakCapitals rest
    else a :: breakCapitals (b :: rest)
  | s => s

/-- The snake-case form of a text. -/
def snakeCaseChars (s : List Char) : List Char :=
  lowerCase (breakCapitals (breakWords s))

/-- The snake-case form of a name. -/
def snakeCase (s : String) : String :=
  String.ofList (snakeCaseChars s.toList)

end ClientWrap.Naming
