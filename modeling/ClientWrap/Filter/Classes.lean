/-!
# Classes of characters

Sets of characters as ranges, and the classes that have a name. Named classes hold ASCII characters
only.
-/

namespace ClientWrap.Filter

/-- The first and the last character of a run of characters. -/
abbrev CharRange := Char × Char

/-- The range that holds one character. -/
def only (c : Char) : CharRange := (c, c)

/-- Whether a character lies in one of some ranges. -/
def isWithin (ranges : List CharRange) (c : Char) : Bool :=
  ranges.any fun r => r.1 ≤ c && c ≤ r.2

/-- The characters of a range, in order. -/
def charsOf (r : CharRange) : List Char :=
  (List.range (r.2.toNat + 1 - r.1.toNat)).map fun k => Char.ofNat (r.1.toNat + k)

/-- The characters of the class with a name. -/
def classRanges? : String → Option (List CharRange)
  | "lower" => some [('a', 'z')]
  | "upper" => some [('A', 'Z')]
  | "alpha" => some [('A', 'Z'), ('a', 'z')]
  | "digit" => some [('0', '9')]
  | "alnum" => some [('0', '9'), ('A', 'Z'), ('a', 'z')]
  | "xdigit" => some [('0', '9'), ('A', 'F'), ('a', 'f')]
  | "blank" => some [only '\t', only ' ']
  | "space" => some [('\t', '\r'), only ' ']
  | "cntrl" => some [(Char.ofNat 0, Char.ofNat 0x1F), only (Char.ofNat 0x7F)]
  | "punct" => some [('!', '/'), (':', '@'), ('[', Char.ofNat 0x60), ('\x7b', '~')]
  | "graph" => some [('!', '~')]
  | "print" => some [(' ', '~')]
  | _ => none

/-- The characters of words: letters, digits and the underscore. -/
def wordRanges : List CharRange :=
  [('0', '9'), ('A', 'Z'), only '_', ('a', 'z')]

/-- The name between `[:` and `:]`, with what follows, for a text that begins after `[:`. -/
def className? (s : List Char) : Option (String × List Char) :=
  let name := s.takeWhile (· != ':')
  match s.drop name.length with
  | ':' :: ']' :: rest => some (String.ofList name, rest)
  | _ => none

end ClientWrap.Filter
