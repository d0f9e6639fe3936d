import ClientWrap.Filter.Edit
import ClientWrap.Filter.Pattern.Read

/-!
# Written scripts

How the commands of the line editor are written: addresses, an exclamation mark for all other lines,
a letter, and what the command needs. Commands stand on lines of their own or between semicolons.
-/

namespace ClientWrap.Filter

/-- A text up to a delimiter, and what follows the delimiter. A delimiter after a backslash is part
of the text; other backslashes stay. -/
def upTo? (delimiter : Char) (done : List Char) : List Char → Option (List Char × List Char)
  | [] => none
  | '\\' :: c :: rest =>
    if c = delimiter then upTo? delimiter (c :: done) rest
    else upTo? delimiter (c :: '\\' :: done) rest
  | c :: rest => if c = delimiter then some (done.reverse, rest) else upTo? delimiter (c :: done) rest

/-- A written replacement up to a delimiter, and what follows the delimiter. A delimiter after a
backslash stands for itself, an ampersand included. -/
def replacementUpTo? (delimiter : Char) (done : List Part) :
    List Char → Option (List Part × List Char)
  | [] => none
  | '\\' :: c :: rest =>
    let part :=
      if c = delimiter then if c = '&' then .char '&' else Part.char c
      else
        match c with
        | 'U' => .change .upper
        | 'L' => .change .lower
        | 'u' => .change .upperNext
        | 'l' => .change .lowerNext
        | 'E' => .change .keep
        | _ =>
          if c.isDigit then .group (c.toNat - '0'.toNat) else .char ((Mark.control? c).getD c)
    replacementUpTo? delimiter (part :: done) rest
  | c :: rest =>
    if c = delimiter then some (done.reverse, rest)
    else replacementUpTo? delimiter ((if c = '&' then .group 0 else .char c) :: done) rest

/-- Whether a replacement mentions only groups that a pattern has. -/
def fitsGroups (p : Pattern) (parts : List Part) : Bool :=
  parts.all fun
    | .group n => n ≤ p.groupCount
    | _ => true

/-- A text without the blanks at its start. -/
def skipBlanks (s : List Char) : List Char :=
  s.dropWhile fun c => c == ' ' || c == '\t'

/-- The flags of a substitution. -/
structure Flags where
  nth : Option Nat
  every : Bool
  prints : Bool
  anyCase : Bool
  deriving DecidableEq, Repr

/-- The flags at the start of a text, and what follows them. No flag may stand twice. -/
def flags? (f : Flags) : Nat → List Char → Option (Flags × List Char)
  | 0, s => some (f, s)
  | fuel + 1, s =>
    match s with
    | 'g' :: rest => if f.every then none else flags? { f with every := true } fuel rest
    | 'p' :: rest => if f.prints then none else flags? { f with prints := true } fuel rest
    | 'i' :: rest => flags? { f with anyCase := true } fuel rest
    | 'I' :: rest => flags? { f with anyCase := true } fuel rest
    | c :: _ =>
      if c.isDigit then
        match f.nth, Mark.number? s with
        | none, (some n, rest) =>
          if n = 0 then none else flags? { f with nth := some n } fuel rest
        | _, _ => none
      else some (f, s)
    | [] => some (f, s)

/-- The substitution behind its letter, and what follows it. -/
def substitution? (extended : Bool) (s : List Char) : Option (Action × List Char) := do
  let delimiter ← s.head?
  if delimiter = '\n' ∨ delimiter = '\\' then none
  let (p, rest) ← upTo? delimiter [] s.tail
  let (parts, rest) ← replacementUpTo? delimiter [] rest
  let (f, rest) ← flags? ⟨none, false, false, false⟩ (rest.length + 1) rest
  let p ← Pattern.parse? ⟨extended, f.anyCase⟩ p
  if !fitsGroups p parts then none
  return (.substitute p parts (f.nth.getD 1) f.every f.prints, rest)

/-- The characters of a list for an exchange. -/
def exchangeChars? : List Char → Option (List Char)
  | [] => some []
  | '\\' :: '\\' :: rest => do return '\\' :: (← exchangeChars? rest)
  | '\\' :: c :: rest => do return (← Mark.control? c) :: (← exchangeChars? rest)
  | ['\\'] => none
  | c :: rest => do return c :: (← exchangeChars? rest)

/-- The exchange of characters behind its letter, and what follows it. -/
def exchange? (s : List Char) : Option (Action × List Char) := do
  let delimiter ← s.head?
  if delimiter = '\n' ∨ delimiter = '\\' then none
  let (a, rest) ← upTo? delimiter [] s.tail
  let (b, rest) ← upTo? delimiter [] rest
  let a ← exchangeChars? a
  let b ← exchangeChars? b
  if a.length ≠ b.length then none
  return (.exchange (a.zip b), rest)

/-- A text up to a line feed that no backslash is before, with its escapes resolved. -/
def textLine (done : List Char) : List Char → List Char × List Char
  | [] => (done.reverse, [])
  | '\n' :: rest => (done.reverse, rest)
  | '\\' :: c :: rest => textLine ((Mark.control? c).getD c :: done) rest
  | c :: rest => textLine (c :: done) rest

/-- The text behind the letter of a command, on the same line or on the next after a backslash, and
what follows it. -/
def text? (s : List Char) : Option (List Char × List Char) :=
  match skipBlanks s with
  | [] => none
  | '\\' :: rest =>
    match skipBlanks rest with
    | '\n' :: rest => some (textLine [] rest)
    | _ => some (textLine [] rest)
  | s => some (textLine [] s)

/-- The address at the start of a text, and what follows it. -/
def address? (extended : Bool) (s : List Char) : Option (Option Address × List Char) :=
  let like (delimiter : Char) (rest : List Char) : Option (Option Address × List Char) := do
    let (p, rest) ← upTo? delimiter [] rest
    let (anyCase, rest) :=
      match rest with
      | 'I' :: rest => (true, rest)
      | _ => (false, rest)
    return (some (.like (← Pattern.parse? ⟨extended, anyCase⟩ p)), rest)
  match s with
  | '$' :: rest => some (some .last, rest)
  | '/' :: rest => like '/' rest
  | '\\' :: d :: rest => like d rest
  | _ =>
    match Mark.number? s with
    | (some n, '~' :: rest) =>
      let (step, rest) := Mark.number? rest
      some (some (.every n (step.getD 0)), rest)
    | (some n, rest) => some (some (.number n), rest)
    | (none, _) => some (none, s)

/-- The lines at the start of a command, and what follows them. -/
def lines? (extended : Bool) (s : List Char) : Option (Lines × List Char) := do
  let (first, rest) ← address? extended s
  match first, skipBlanks rest with
  | none, _ => return (.all, s)
  | some a, ',' :: rest =>
    match skipBlanks rest with
    | '+' :: rest =>
      let (n, rest) := Mark.number? rest
      if a = .number 0 then none
      return (.range a (.after (← n)), rest)
    | rest =>
      let (stop, rest) ← address? extended rest
      let stop ← stop
      if a = .number 0 ∧ !stop.isPattern then none
      return (.range a (.address stop), rest)
  | some a, rest => if a = .number 0 then none else return (.one a, rest)

/-- The action at the start of a text, and what follows it. -/
def action? (extended : Bool) (ls : Lines) : List Char → Option (Action × List Char)
  | 's' :: rest => substitution? extended rest
  | 'y' :: rest => exchange? rest
  | 'd' :: rest => some (.delete, rest)
  | 'p' :: rest => some (.print, rest)
  | '=' :: rest => some (.printNumber, rest)
  | 'a' :: rest => do
    let (text, rest) ← text? rest
    return (.append text, '\n' :: rest)
  | 'i' :: rest => do
    let (text, rest) ← text? rest
    return (.insert text, '\n' :: rest)
  | 'c' :: rest => do
    let (text, rest) ← text? rest
    return (.change text, '\n' :: rest)
  | c :: rest =>
    if c = 'q' ∨ c = 'Q' then
      let (code, rest) := Mark.number? (skipBlanks rest)
      match ls with
      | .range _ _ => none
      | _ => some (.quit (c = 'q') (code.getD 0 % 256), rest)
    else none
  | [] => none

/-- The rest of a script behind a remark. -/
def skipRemark (s : List Char) : List Char :=
  match s with
  | '#' :: rest => rest.dropWhile (· != '\n')
  | _ => s

/-- The commands of a script, of which there are at most `n`. -/
def script? (extended : Bool) : Nat → List Char → Option (List Command)
  | 0, _ => none
  | n + 1, s =>
    match s.dropWhile fun c => c == ' ' || c == '\t' || c == ';' || c == '\n' with
    | [] => some []
    | '#' :: rest => script? extended n (rest.dropWhile (· != '\n'))
    | s => do
      let (ls, rest) ← lines? extended s
      let (negated, rest) :=
        match skipBlanks rest with
        | '!' :: rest => (true, skipBlanks (rest.dropWhile (· == '!')))
        | rest => (false, rest)
      let (action, rest) ← action? extended ls rest
      match skipRemark (skipBlanks rest) with
      | [] => return [⟨ls, negated, action⟩]
      | c :: rest =>
        if c = ';' ∨ c = '\n' then return ⟨ls, negated, action⟩ :: (← script? extended n rest)
        else none

end ClientWrap.Filter
