import ClientWrap.Decimal.Shortest
import ClientWrap.Document.Yaml.Scalar

/-!
# Writing YAML

The scalars of YAML for texts. A text is written plainly where a reader takes it for a text again,
between single quotes where a reader would take it for a number, a truth value or nothing or where
indicators stand in it, and between double quotes where it has characters that must be escaped.
-/

namespace ClientWrap.Yaml

/-- Whether a text is made of digits with a needless zero in front. -/
def hasNeedlessZero (s : List Char) : Bool :=
  let s :=
    match s with
    | '-' :: rest => rest
    | '+' :: rest => rest
    | _ => s
  match s with
  | '0' :: rest => !rest.isEmpty && rest.all Char.isDigit
  | _ => false

/-- The number that digits in a base stand for, if there is at least one digit and no other
character. -/
def natOf? (base : Nat) (s : List Char) : Option Nat :=
  if s.isEmpty then none
  else s.foldlM (fun n c => do
    let d ← hexValue? c
    if d < base then some (n * base + d) else none) 0

/-- Whether digits after a sign stand for an integer of 128 bits. -/
def fitsInteger (negative : Bool) (base : Nat) (s : List Char) : Bool :=
  match natOf? base s with
  | none => false
  | some n => if negative then n ≤ Nat.pow 2 127 else n < Nat.pow 2 128

/-- Whether a reader takes a text for an integer. -/
def isInteger (s : List Char) : Bool :=
  let (negative, digits) :=
    match s with
    | '-' :: rest => (true, rest)
    | '+' :: rest => (false, rest)
    | _ => (false, s)
  match digits with
  | '0' :: 'x' :: rest => fitsInteger negative 16 rest
  | '0' :: 'o' :: rest => fitsInteger negative 8 rest
  | '0' :: 'b' :: rest => fitsInteger negative 2 rest
  | _ => !hasNeedlessZero s && fitsInteger negative 10 digits

/-- The exponent at the end of a number, if the text is one. -/
def exponentOf? : List Char → Option Int
  | [] => some 0
  | c :: rest =>
    if c = 'e' ∨ c = 'E' then
      match rest with
      | '-' :: ds => (natOf? 10 ds).map fun n => -(n : Int)
      | '+' :: ds => (natOf? 10 ds).map fun n => (n : Int)
      | ds => (natOf? 10 ds).map fun n => (n : Int)
    else none

/-- Whether a text without a sign is a decimal number that is not too large. -/
def isDecimal (s : List Char) : Bool :=
  let (whole, rest) := s.span Char.isDigit
  let (fraction, rest) :=
    match rest with
    | '.' :: rest => rest.span Char.isDigit
    | _ => ([], rest)
  match natOf? 10 (whole ++ fraction), exponentOf? rest with
  | some m, some e => (Decimal.floatText? false m (e - fraction.length)).isSome
  | _, _ => false

/-- Whether a reader takes a text for a floating-point number. -/
def isFloat (s : List Char) : Bool :=
  let special := ["inf", "Inf", "INF"].map String.toList
  let notNumber := ["nan", "NaN", "NAN"].map String.toList
  match s with
  | '.' :: rest => special.contains rest || notNumber.contains rest || isDecimal s
  | '+' :: '.' :: rest => special.contains rest || isDecimal ('.' :: rest)
  | '-' :: '.' :: rest => special.contains rest || isDecimal ('.' :: rest)
  | '+' :: rest => isDecimal rest
  | '-' :: rest => isDecimal rest
  | _ => isDecimal s

/-- Whether a reader takes a plain text for something else than a text. -/
def isTyped (s : String) : Bool :=
  ["", "~", "null", "Null", "NULL", "true", "True", "TRUE", "false", "False", "FALSE"].contains s ||
    hasNeedlessZero s.toList || isInteger s.toList || isFloat s.toList

/-- Whether a character is written as it is. -/
def isPrintable (c : Char) : Bool :=
  c == '\n' || (' ' ≤ c && c ≤ '~') ||
    ('\u00A0' ≤ c && c != '\uFEFF' && c != '\uFFFE' && c != '\uFFFF' && c != '\u2028' &&
      c != '\u2029')

/-- Whether a blank, a line break or the end of a text is next. -/
def blankNext : List Char → Bool
  | [] => true
  | c :: _ => isSpace c || isBreak c

/-- Whether an indicator in what is left of a text keeps it from being written plainly. -/
def indicatorFrom (first afterBlank : Bool) : List Char → Bool
  | [] => false
  | c :: rest =>
    let here :=
      if first then
        "#,[]\x7b\x7d&*!|>'\"%@".toList.contains c || c.toNat == 0x60 ||
          ((c == '?' || c == ':' || c == '-') && blankNext rest)
      else (c == ':' && blankNext rest) || (c == '#' && afterBlank)
    here || indicatorFrom false (isSpace c || isBreak c) rest

/-- Whether indicators keep a text from being written plainly. -/
def hasIndicator (s : List Char) : Bool :=
  "---".toList.isPrefixOf s || "...".toList.isPrefixOf s || indicatorFrom true true s

/-- A digit of base 16 in upper case. -/
def upperHexDigit (n : Nat) : Char :=
  if n < 10 then Char.ofNat ('0'.toNat + n) else Char.ofNat ('A'.toNat + (n - 10))

/-- A number with exactly `n` digits of base 16. -/
def upperHex (n value : Nat) : List Char :=
  (List.range n).map fun i => upperHexDigit (value / Nat.pow 16 (n - 1 - i) % 16)

/-- The letter of the escape for a character, if it has one. -/
def escapeLetter? (c : Char) : Option Char :=
  if c = '\x00' then some '0'
  else if c = '\x07' then some 'a'
  else if c = '\x08' then some 'b'
  else if c = '\t' then some 't'
  else if c = '\n' then some 'n'
  else if c = '\x0B' then some 'v'
  else if c = '\x0C' then some 'f'
  else if c = '\r' then some 'r'
  else if c = '\x1B' then some 'e'
  else if c = '"' then some '"'
  else if c = '\\' then some '\\'
  else if c = '\u0085' then some 'N'
  else if c = '\u2028' then some 'L'
  else if c = '\u2029' then some 'P'
  else none

/-- A character between double quotes. -/
def escapedChar (c : Char) : List Char :=
  match escapeLetter? c with
  | some l => ['\\', l]
  | none =>
    if isPrintable c then [c]
    else if c.toNat < 0x100 then '\\' :: 'x' :: upperHex 2 c.toNat
    else if c.toNat < 0x10000 then '\\' :: 'u' :: upperHex 4 c.toNat
    else '\\' :: 'U' :: upperHex 8 c.toNat

/-- A text between double quotes. -/
def inDoubleQuotes (s : List Char) : String :=
  String.ofList ('"' :: (s.flatMap escapedChar ++ ['"']))

/-- A text between single quotes. -/
def inSingleQuotes (s : List Char) : String :=
  String.ofList ('\'' :: (s.flatMap (fun c => if c = '\'' then ['\'', '\''] else [c]) ++ ['\'']))

/-- A text in one line. -/
def written (s : String) : String :=
  let cs := s.toList
  if !cs.all (fun c => isPrintable c && c != '\n') then inDoubleQuotes cs
  else if isTyped s || hasIndicator cs || cs.head? == some ' ' || cs.getLast? == some ' ' then
    inSingleQuotes cs
  else s

/-- Whether a blank in a text has a line break after it, or ends the text. -/
def blankBeforeBreak : List Char → Bool
  | [] => false
  | [c] => c == ' '
  | c :: d :: rest => (c == ' ' && d == '\n') || blankBeforeBreak (d :: rest)

/-- What the first line of a block tells about its text: where the text is indented itself, and
whether its last line breaks count. -/
def blockHints (s : List Char) : String :=
  let indented := s.head? == some ' ' || s.head? == some '\n'
  let tail :=
    match s.reverse with
    | '\n' :: '\n' :: _ => "+"
    | ['\n'] => "+"
    | '\n' :: _ => ""
    | _ => "-"
  (if indented then "2" else "") ++ tail

/-- A text of several lines as a block of its own, indented by two. -/
def block (s : List Char) : String :=
  let indentedLine (l : List Char) : List Char := if l.isEmpty then [] else ' ' :: ' ' :: l
  let step (st : List (List Char) × List Char) (c : Char) : List (List Char) × List Char :=
    if c = '\n' then (st.2.reverse :: st.1, []) else (st.1, c :: st.2)
  let (before, last) := s.foldl step ([], [])
  let ls := (last.reverse :: before).reverse.map indentedLine
  let ls := if last.isEmpty then ls.dropLast else ls
  "|" ++ blockHints s ++ "\n" ++ "\n".intercalate (ls.map String.ofList)

/-- Whether a text is written in one line before a colon. -/
def isSimpleKey (s : String) : Bool :=
  !s.toList.contains '\n' && s.utf8ByteSize ≤ 128

/-- A text after a question mark. -/
def writtenKey (s : String) : String :=
  let cs := s.toList
  if cs.contains '\n' && cs.all isPrintable && !blankBeforeBreak cs then block cs
  else written s

end ClientWrap.Yaml
