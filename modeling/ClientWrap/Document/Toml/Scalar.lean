import ClientWrap.Decimal.Shortest
import ClientWrap.Document.Basic

/-!
# Scalars of TOML

Reads the strings, numbers, dates and truth values of a text in TOML.
-/

namespace ClientWrap.Toml

/-- A value with the text after it. -/
abbrev Read (α : Type) := List Char → Option (α × List Char)

/-- Whether a character is a blank within a line. -/
def isSpace (c : Char) : Bool := c == ' ' || c == '\t'

/-- The text after blanks. -/
def skipSpace (s : List Char) : List Char := s.dropWhile isSpace

/-- Whether a character may stand in a comment or string. -/
def isPrintable (c : Char) : Bool :=
  c == '\t' || (' ' ≤ c && c != '\x7F')

/-- The text after a line break, if one stands here. -/
def newline? : List Char → Option (List Char)
  | '\n' :: rest => some rest
  | '\r' :: '\n' :: rest => some rest
  | _ => none

/-- The value of a digit in base 16. -/
def hexValue? (c : Char) : Option Nat :=
  if c.isDigit then some (c.toNat - '0'.toNat)
  else if 'a' ≤ c && c ≤ 'f' then some (c.toNat - 'a'.toNat + 10)
  else if 'A' ≤ c && c ≤ 'F' then some (c.toNat - 'A'.toNat + 10)
  else none

/-- The character with the code point that the first `n` digits stand for. -/
def codePoint? (n : Nat) (s : List Char) : Option Char := do
  if s.length < n then none
  let value ← (s.take n).foldlM (fun v c => (hexValue? c).map (v * 16 + ·)) 0
  if value.isValidChar then some (Char.ofNat value) else none

/-- The character that a short escape stands for. -/
def shortEscape? : Char → Option Char
  | 'b' => some '\x08'
  | 't' => some '\t'
  | 'n' => some '\n'
  | 'f' => some '\x0C'
  | 'r' => some '\r'
  | '"' => some '"'
  | '\\' => some '\\'
  | _ => none

/-- The number of digits in an escape by code point. -/
def escapeWidth? : Char → Option Nat
  | 'u' => some 4
  | 'U' => some 8
  | _ => none

/-- The character that an escape stands for, from after the backslash on, and the text after
it. -/
def escape? : Read Char
  | [] => none
  | c :: rest =>
    match shortEscape? c with
    | some d => some (d, rest)
    | none => do
      let n ← escapeWidth? c
      return (← codePoint? n rest, rest.drop n)

/-- A string in double quotes from after the opening quote on, onto the reversed text `done`. At
most `n` characters are read. -/
def basicString (done : List Char) : Nat → Read String
  | 0, _ => none
  | n + 1, s =>
    match s with
    | [] => none
    | '"' :: rest => some (String.ofList done.reverse, rest)
    | '\\' :: rest => do
      let (c, rest) ← escape? rest
      basicString (c :: done) n rest
    | c :: rest => if isPrintable c then basicString (c :: done) n rest else none

/-- A string in single quotes from after the opening quote on, onto the reversed text `done`. -/
def literalString (done : List Char) : Read String
  | [] => none
  | '\'' :: rest => some (String.ofList done.reverse, rest)
  | c :: rest => if isPrintable c then literalString (c :: done) rest else none

/-- What a run of `n` quotes means inside a string between triple quotes: the number of quotes that
belong to the string, and whether the string ends. -/
def closing? (n : Nat) : Option (Nat × Bool) :=
  if n < 3 then some (n, false) else if n < 6 then some (n - 3, true) else none

/-- The number of times that a character stands here, and the text after it. -/
def countRun (c : Char) (s : List Char) : Nat × List Char :=
  ((s.takeWhile (· == c)).length, s.dropWhile (· == c))

/-- The text after blanks and line breaks. -/
def skipLines : List Char → List Char
  | ' ' :: rest => skipLines rest
  | '\t' :: rest => skipLines rest
  | '\n' :: rest => skipLines rest
  | '\r' :: '\n' :: rest => skipLines rest
  | s => s

/-- A string between triple quotes from after its first line break on, onto the reversed text
`done`. At most `n` characters are read. -/
def longString (quote : Char) (done : List Char) : Nat → Read String
  | 0, _ => none
  | n + 1, s =>
    match s with
    | [] => none
    | '\r' :: '\n' :: rest => longString quote ('\n' :: done) n rest
    | '\n' :: rest => longString quote ('\n' :: done) n rest
    | c :: rest =>
      if c == quote then do
        let (run, rest) := countRun c s
        let (inside, ends) ← closing? run
        let done := List.replicate inside c ++ done
        if ends then some (String.ofList done.reverse, rest) else longString quote done n rest
      else if c == '\\' && quote == '"' then
        match newline? (skipSpace rest) with
        | some rest => longString quote done n (skipLines rest)
        | none => do
          let (d, rest) ← escape? rest
          longString quote (d :: done) n rest
      else if isPrintable c then longString quote (c :: done) n rest
      else none

/-- A string between triple quotes from after the opening quotes on. A line break right after them
does not count. -/
def longStringBody (quote : Char) (s : List Char) : Option (String × List Char) :=
  longString quote [] (s.length + 1) ((newline? s).getD s)

/-- A string. -/
def string? : Read String
  | '"' :: '"' :: '"' :: rest => longStringBody '"' rest
  | '\'' :: '\'' :: '\'' :: rest => longStringBody '\'' rest
  | '"' :: rest => basicString [] (rest.length + 1) rest
  | '\'' :: rest => literalString [] rest
  | _ => none

/-- The digits here and the text after them. Single underscores may stand between digits. -/
def digitsFrom (isDigit : Char → Bool) (done : List Char) : List Char → List Char × List Char
  | '_' :: c :: rest =>
    if isDigit c then digitsFrom isDigit (c :: done) rest else (done.reverse, '_' :: c :: rest)
  | c :: rest =>
    if isDigit c then digitsFrom isDigit (c :: done) rest else (done.reverse, c :: rest)
  | [] => (done.reverse, [])

/-- One digit or more, with single underscores between them. -/
def digits? (isDigit : Char → Bool) : Read (List Char)
  | c :: rest => if isDigit c then some (digitsFrom isDigit [c] rest) else none
  | [] => none

/-- The digits of a whole number in base 10, which has no needless zeros. -/
def wholeDigits? : Read (List Char)
  | '0' :: rest => some (['0'], rest)
  | s => digits? Char.isDigit s

/-- The sign here, and whether it is a minus. -/
def sign : List Char → Bool × List Char
  | '-' :: rest => (true, rest)
  | '+' :: rest => (false, rest)
  | s => (false, s)

/-- The number that digits in a base stand for. -/
def valueOf (base : Nat) (digits : List Char) : Nat :=
  digits.foldl (fun n c => n * base + (hexValue? c).getD 0) 0

/-- An integer, which must fit 64 bits. -/
def integerOf? (negative : Bool) (n : Nat) : Option Document :=
  if negative then if n ≤ 0x8000000000000000 then some (.integer (-n)) else none
  else if n < 0x8000000000000000 then some (.integer n) else none

/-- An integer in base 16, 8 or 2, from after its mark on. -/
def basedInteger? (base : Nat) (isDigit : Char → Bool) (s : List Char) :
    Option (Document × List Char) := do
  let (ds, rest) ← digits? isDigit s
  return (← integerOf? false (valueOf base ds), rest)

/-- An integer. -/
def integer? (s : List Char) : Option (Document × List Char) :=
  match s with
  | '0' :: 'x' :: rest => basedInteger? 16 (fun c => (hexValue? c).isSome) rest
  | '0' :: 'o' :: rest => basedInteger? 8 (fun c => '0' ≤ c && c ≤ '7') rest
  | '0' :: 'b' :: rest => basedInteger? 2 (fun c => c == '0' || c == '1') rest
  | _ => do
    let (negative, rest) := sign s
    let (ds, rest) ← wholeDigits? rest
    return (← integerOf? negative (valueOf 10 ds), rest)

/-- The exponent here, if there is one. -/
def exponent? : Read Int
  | c :: rest =>
    if c == 'e' || c == 'E' then do
      let (negative, rest) := sign rest
      let (ds, rest) ← digits? Char.isDigit rest
      let n : Int := valueOf 10 ds
      return (if negative then -n else n, rest)
    else none
  | [] => none

/-- A number with a fraction or an exponent. It must not be beyond the largest one. -/
def decimal? (s : List Char) : Option (Document × List Char) := do
  let (negative, rest) := sign s
  let (whole, rest) ← wholeDigits? rest
  let (fraction, exponent, rest) ←
    match rest with
    | '.' :: rest => do
      let (fraction, rest) ← digits? Char.isDigit rest
      match exponent? rest with
      | some (e, rest) => some (fraction, e, rest)
      | none => some (fraction, 0, rest)
    | _ => do
      let (e, rest) ← exponent? rest
      some ([], e, rest)
  match Decimal.floatText? negative (valueOf 10 (whole ++ fraction))
      (exponent - fraction.length) with
  | some t => some (.float t, rest)
  | none => if negative then some (.other, rest) else none

/-- An infinity, or what is no number. -/
def special? (s : List Char) : Option (Document × List Char) :=
  match (sign s).2 with
  | 'i' :: 'n' :: 'f' :: rest => some (.other, rest)
  | 'n' :: 'a' :: 'n' :: rest => some (.other, rest)
  | _ => none

/-- A number of exactly two digits within bounds. -/
def twoDigits? (low high : Nat) : Read Nat
  | a :: b :: rest =>
    let n := valueOf 10 [a, b]
    if a.isDigit && b.isDigit && low ≤ n && n ≤ high then some (n, rest) else none
  | _ => none

/-- The text after a character, if it stands here. -/
def expect? (c : Char) : List Char → Option (List Char)
  | d :: rest => if d = c then some rest else none
  | [] => none

/-- The number of days in a month. -/
def daysIn (year month : Nat) : Nat :=
  if month == 2 then
    if year % 4 == 0 && (year % 100 != 0 || year % 400 == 0) then 29 else 28
  else if month == 4 || month == 6 || month == 9 || month == 11 then 30
  else 31

/-- The text after a date. -/
def date? : List Char → Option (List Char)
  | a :: b :: c :: d :: rest => do
    if !(a.isDigit && b.isDigit && c.isDigit && d.isDigit) then none
    let (month, rest) ← twoDigits? 1 12 (← expect? '-' rest)
    let (_, rest) ← twoDigits? 1 (daysIn (valueOf 10 [a, b, c, d]) month) (← expect? '-' rest)
    return rest
  | _ => none

/-- The text after a time of day. -/
def time? (s : List Char) : Option (List Char) := do
  let (_, rest) ← twoDigits? 0 23 s
  let (_, rest) ← twoDigits? 0 59 (← expect? ':' rest)
  let (_, rest) ← twoDigits? 0 60 (← expect? ':' rest)
  match rest with
  | '.' :: c :: after => if c.isDigit then some (after.dropWhile Char.isDigit) else some rest
  | _ => some rest

/-- The text after the offset of a time zone. -/
def offset? : List Char → Option (List Char)
  | c :: rest =>
    if c == 'Z' || c == 'z' then some rest
    else if c == '+' || c == '-' then do
      let (_, rest) ← twoDigits? 0 23 rest
      let (_, rest) ← twoDigits? 0 59 (← expect? ':' rest)
      return rest
    else none
  | [] => none

/-- The time of day after a date, if there is one, with the offset of its time zone. -/
def timeAfterDate? : List Char → Option (List Char)
  | c :: rest =>
    if c == 'T' || c == 't' || c == ' ' then do
      let rest ← time? rest
      return (offset? rest).getD rest
    else none
  | [] => none

/-- A date, a time of day, or both. -/
def moment? (s : List Char) : Option (Document × List Char) :=
  match date? s with
  | some rest => some (.other, (timeAfterDate? rest).getD rest)
  | none => (time? s).map fun rest => (.other, rest)

/-- A number or date. -/
def number? (s : List Char) : Option (Document × List Char) :=
  moment? s <|> decimal? s <|> special? s <|> integer? s

/-- A truth value. -/
def bool? : Read Document
  | 't' :: 'r' :: 'u' :: 'e' :: rest => some (.bool true, rest)
  | 'f' :: 'a' :: 'l' :: 's' :: 'e' :: rest => some (.bool false, rest)
  | _ => none

end ClientWrap.Toml
