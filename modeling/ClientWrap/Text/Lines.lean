/-!
# Lines

Texts as sequences of lines, and texts up to the way their lines end.

Main statements:

* `normalizeNewlines_eq`: the normal form leaves out each carriage return before a line feed.
-/

namespace ClientWrap.Text

/-- The lines of a text: the parts between its line feeds, so that a text that ends in one has an
empty last line. -/
def lines (s : String) : List String :=
  (s.toList.splitOn '\n').map String.ofList

/-- The text with each of its lines ended by a line feed. -/
def ofLines (ls : List String) : String :=
  String.join (ls.map (· ++ "\n"))

/-- The text with every carriage return before a line feed left out. -/
def unixLines : List Char → List Char
  | [] => []
  | [c] => [c]
  | c :: d :: rest =>
    if c = '\r' ∧ d = '\n' then '\n' :: unixLines rest else c :: unixLines (d :: rest)

/-- The reversed text `done` and then `unixLines` of what follows it, in constant stack space. -/
def unixLinesOnto (done : List Char) : List Char → List Char
  | [] => done.reverse
  | [c] => (c :: done).reverse
  | c :: d :: rest =>
    if c = '\r' ∧ d = '\n' then unixLinesOnto ('\n' :: done) rest
    else unixLinesOnto (c :: done) (d :: rest)

/-- The string with every carriage return before a line feed left out. -/
def normalizeNewlines (s : String) : String :=
  String.ofList (unixLinesOnto [] s.toList)

/-- Whether two texts agree up to the two ways of ending a line. -/
def sameLines (s t : String) : Bool :=
  normalizeNewlines s == normalizeNewlines t

/-- The text in reverse stands in front of the normal form of what follows it. -/
theorem unixLinesOnto_eq (done s : List Char) :
  unixLinesOnto done s = done.reverse ++ unixLines s
  := by
  fun_induction unixLinesOnto done s with
  | case1 => simp [unixLines]
  | case2 => simp [unixLines]
  | case3 done c d rest h ih => simp [unixLines, h, ih]
  | case4 done c d rest h ih => simp [unixLines, h, ih]

/-- The normal form of a string is that of its characters. -/
theorem normalizeNewlines_eq (s : String) :
  normalizeNewlines s = String.ofList (unixLines s.toList)
  := by simp [normalizeNewlines, unixLinesOnto_eq]

/-- A text agrees with itself. -/
theorem sameLines_refl (s : String) :
  sameLines s s = true
  := by simp [sameLines]

end ClientWrap.Text
