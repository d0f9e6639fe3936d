import ClientWrap.Decimal.Shortest
import ClientWrap.Document.Basic

/-!
# JSON

Reads a text in JSON up to the first place where it stops being one. The value that a reader gets
holds everything before that place.

Numbers that fit 64 bits and have neither a fraction nor an exponent are integers. A number beyond
the range of floating-point numbers and a string with half a surrogate pair are written rightly but
have no value.
-/

namespace ClientWrap.Json

/-- What was read, and the text after it unless the reading broke off. -/
abbrev Result := Document × Option (List Char)

/-- A place where the text stops making sense. -/
def stop : Result := (.broken, none)

/-- Whether a character may stand between tokens. -/
def isSpace (c : Char) : Bool :=
  c == ' ' || c == '\n' || c == '\t' || c == '\r'

/-- The text from the next token on. -/
def skipSpace (s : List Char) : List Char := s.dropWhile isSpace

/-- The value of a digit in base 16. -/
def hexValue? (c : Char) : Option Nat :=
  if c.isDigit then some (c.toNat - '0'.toNat)
  else if 'a' ≤ c && c ≤ 'f' then some (c.toNat - 'a'.toNat + 10)
  else if 'A' ≤ c && c ≤ 'F' then some (c.toNat - 'A'.toNat + 10)
  else none

/-- The number that four digits stand for, and the text after them. -/
def hex4? : List Char → Option (Nat × List Char)
  | a :: b :: c :: d :: rest => do
    let a ← hexValue? a
    let b ← hexValue? b
    let c ← hexValue? c
    let d ← hexValue? d
    return (((a * 16 + b) * 16 + c) * 16 + d, rest)
  | _ => none

/-- The unit of text that an escape stands for. -/
def simpleEscape? : Char → Option Nat
  | '"' => some 0x22
  | '\\' => some 0x5C
  | '/' => some 0x2F
  | 'b' => some 0x08
  | 'f' => some 0x0C
  | 'n' => some 0x0A
  | 'r' => some 0x0D
  | 't' => some 0x09
  | _ => none

/-- The units of a string from after its opening quote, onto the reversed units before, and the
text after its closing quote. Escaped surrogates are units; every other unit is a code point. -/
def stringUnits (units : List Nat) : Nat → List Char → Option (List Nat × List Char)
  | 0, _ => none
  | fuel + 1, s =>
    match s with
    | [] => none
    | '"' :: rest => some (units.reverse, rest)
    | '\\' :: 'u' :: rest => do
      let (n, rest) ← hex4? rest
      stringUnits (n :: units) fuel rest
    | '\\' :: c :: rest => do
      let n ← simpleEscape? c
      stringUnits (n :: units) fuel rest
    | c :: rest => if c.toNat < 0x20 then none else stringUnits (c.toNat :: units) fuel rest

/-- The text of units, unless a surrogate among them lacks its other half. -/
def decodeUnits (done : List Char) : List Nat → Option (List Char)
  | [] => some done.reverse
  | n :: rest =>
    if 0xDC00 ≤ n ∧ n < 0xE000 then none
    else if 0xD800 ≤ n ∧ n < 0xDC00 then
      match rest with
      | low :: rest =>
        if 0xDC00 ≤ low ∧ low < 0xE000 then
          decodeUnits (Char.ofNat (0x10000 + (n - 0xD800) * 0x400 + (low - 0xDC00)) :: done) rest
        else none
      | [] => none
    else decodeUnits (Char.ofNat n :: done) rest

/-- A string from after its opening quote on: the string, unless it has no value, and the text
after it. -/
def string? (s : List Char) : Option (Option String × List Char) :=
  (stringUnits [] (s.length + 1) s).map fun (units, rest) =>
    ((decodeUnits [] units).map String.ofList, rest)

/-- The number that decimal digits stand for. -/
def digitsValue (s : List Char) : Nat :=
  s.foldl (fun n c => n * 10 + (c.toNat - '0'.toNat)) 0

/-- The digits at the start of a text and what follows them, if there is at least one. -/
def digits? (s : List Char) : Option (List Char × List Char) :=
  match s.span Char.isDigit with
  | ([], _) => none
  | (ds, rest) => some (ds, rest)

/-- The digits after the point, if there is one. -/
def fraction? : List Char → Option (List Char × List Char)
  | '.' :: rest => digits? rest
  | s => some ([], s)

/-- The exponent, if there is one. -/
def exponent? (s : List Char) : Option (Option Int × List Char) :=
  match s with
  | c :: rest =>
    if c = 'e' ∨ c = 'E' then
      let (negative, rest) :=
        match rest with
        | '-' :: rest => (true, rest)
        | '+' :: rest => (false, rest)
        | rest => (false, rest)
      (digits? rest).map fun (ds, rest) =>
        let n : Int := digitsValue ds
        (some (if negative then -n else n), rest)
    else some (none, s)
  | [] => some (none, [])

/-- The value of a number. -/
def numberValue (negative : Bool) (whole fraction : List Char) (exponent : Option Int) :
    Document :=
  let asFloat :=
    let m := digitsValue (whole ++ fraction)
    match Decimal.floatText? negative m (exponent.getD 0 - fraction.length) with
    | some t => Document.float t
    | none => .valueless
  if fraction.isEmpty && exponent.isNone then
    let n := digitsValue whole
    if negative then
      if n = 0 ∨ 0x8000000000000000 < n then asFloat else .integer (-n)
    else if 0x10000000000000000 ≤ n then asFloat else .integer n
  else asFloat

/-- A number after its sign. -/
def number (negative : Bool) (s : List Char) : Result :=
  match digits? s with
  | none => stop
  | some (whole, rest) =>
    if whole.head? = some '0' ∧ 1 < whole.length then stop
    else
      match fraction? rest with
      | none => stop
      | some (fraction, rest) =>
        match exponent? rest with
        | none => stop
        | some (exponent, rest) => (numberValue negative whole fraction exponent, some rest)

mutual

/-- A value. -/
def value : Nat → List Char → Result
  | 0, _ => stop
  | fuel + 1, s =>
    match skipSpace s with
    | 'n' :: 'u' :: 'l' :: 'l' :: rest => (.null, some rest)
    | 't' :: 'r' :: 'u' :: 'e' :: rest => (.bool true, some rest)
    | 'f' :: 'a' :: 'l' :: 's' :: 'e' :: rest => (.bool false, some rest)
    | '-' :: rest => number true rest
    | '"' :: rest =>
      match string? rest with
      | some (some s, rest) => (.text s, some rest)
      | some (none, rest) => (.valueless, some rest)
      | none => stop
    | '[' :: rest =>
      match skipSpace rest with
      | ']' :: rest => (.list [], some rest)
      | rest =>
        let (items, rest) := items fuel rest
        (.list items, rest)
    | '\x7b' :: rest =>
      match skipSpace rest with
      | '\x7d' :: rest => (.record [], some rest)
      | rest =>
        let (fields, rest) := fields fuel rest
        (.record fields, rest)
    | c :: rest => if c.isDigit then number false (c :: rest) else stop
    | [] => stop

/-- The items of a list up to its end. -/
def items : Nat → List Char → List Document × Option (List Char)
  | 0, _ => ([.broken], none)
  | fuel + 1, s =>
    match value fuel s with
    | (d, none) => ([d], none)
    | (d, some rest) =>
      match skipSpace rest with
      | ']' :: rest => ([d], some rest)
      | ',' :: rest =>
        let (ds, rest) := items fuel rest
        (d :: ds, rest)
      | _ => ([d, .broken], none)

/-- The fields of a record up to its end. -/
def fields : Nat → List Char → List (String × Document) × Option (List Char)
  | 0, _ => ([("", .broken)], none)
  | fuel + 1, s =>
    match skipSpace s with
    | '"' :: rest =>
      match string? rest with
      | some (some key, rest) =>
        match skipSpace rest with
        | ':' :: rest =>
          match value fuel rest with
          | (d, none) => ([(key, d)], none)
          | (d, some rest) =>
            match skipSpace rest with
            | '\x7d' :: rest => ([(key, d)], some rest)
            | ',' :: rest =>
              let (fs, rest) := fields fuel rest
              ((key, d) :: fs, rest)
            | _ => ([(key, d), ("", .broken)], none)
        | _ => ([(key, .broken)], none)
      | _ => ([("", .broken)], none)
    | _ => ([("", .broken)], none)

end

/-- The document that a text holds, and whether nothing stands after it. -/
def parse (text : String) : Document × Bool :=
  let s := text.toList
  match value (3 * s.length + 3) s with
  | (d, none) => (d, false)
  | (d, some rest) => (d, (skipSpace rest).isEmpty)

/-- What a reader makes of a text. A fault of the value is met before text that should not be
there. -/
def readWith {α : Type} (read : Document → Except DataFault α) (text : String) :
    Except DataFault α :=
  let (d, clean) := parse text
  match read d with
  | .error e => .error e
  | .ok a => if clean then .ok a else .error .malformed

end ClientWrap.Json
