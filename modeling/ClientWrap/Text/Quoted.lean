/-!
# String literals

The interpreted string literal that stands for a text in an emitted file. A quote, a backslash and
the three control characters that end or move a line are escaped; all else stands for itself.

Main statements:

* `unescape_escape`: a reader of literals gets the text back and stops at the closing quote.
-/

namespace ClientWrap.Text

/-- The letter of the escape for a character, if it has one. -/
def escapeLetter? (c : Char) : Option Char :=
  if c = '"' then some '"'
  else if c = '\\' then some '\\'
  else if c = '\n' then some 'n'
  else if c = '\r' then some 'r'
  else if c = '\t' then some 't'
  else none

/-- The inside of the literal for a text. -/
def escape (s : List Char) : List Char :=
  s.flatMap fun c =>
    match escapeLetter? c with
    | some l => ['\\', l]
    | none => [c]

/-- The literal for a text. -/
def quotedChars (s : List Char) : List Char :=
  '"' :: (escape s ++ ['"'])

/-- The literal for a string. -/
def quoted (s : String) : String :=
  String.ofList (quotedChars s.toList)

/-- The character that an escape letter stands for. -/
def unescapeLetter? : Char → Option Char
  | '"' => some '"'
  | '\\' => some '\\'
  | 'n' => some '\n'
  | 'r' => some '\r'
  | 't' => some '\t'
  | _ => none

/-- Reads the inside of a literal up to its closing quote: the text that it stands for and what
follows the quote. A line feed ends no literal but makes it unreadable. -/
def unescape : List Char → Option (List Char × List Char)
  | [] => none
  | '"' :: rest => some ([], rest)
  | '\n' :: _ => none
  | '\\' :: l :: rest => do
    let c ← unescapeLetter? l
    let (s, after) ← unescape rest
    return (c :: s, after)
  | c :: rest => do
    let (s, after) ← unescape rest
    return (c :: s, after)

/-- The letter of an escape stands for the character that is escaped. -/
theorem unescapeLetter?_of_escapeLetter? {c l : Char} (h : escapeLetter? c = some l) :
  unescapeLetter? l = some c
  := by grind [escapeLetter?, unescapeLetter?]

/-- A character without an escape is read as itself. -/
theorem unescape_cons {c : Char} {s t after : List Char} (hc : escapeLetter? c = none)
    (h : unescape s = some (t, after)) :
  unescape (c :: s) = some (c :: t, after)
  := by
  have hplain : c ≠ '"' ∧ c ≠ '\\' ∧ c ≠ '\n' := by grind [escapeLetter?]
  rw [unescape.eq_def]
  split <;> simp_all

/-- A reader of literals gets the text back and stops at the closing quote. -/
theorem unescape_escape (s rest : List Char) :
  unescape (escape s ++ '"' :: rest) = some (s, rest)
  := by
  induction s with
  | nil => rfl
  | cons c s ih =>
      rw [escape, List.flatMap_cons, ← escape]
      cases h : escapeLetter? c with
      | none => apply unescape_cons h ih
      | some l => simp [unescape, unescapeLetter?_of_escapeLetter? h, ih]

end ClientWrap.Text
