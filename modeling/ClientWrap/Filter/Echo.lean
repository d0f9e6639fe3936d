import ClientWrap.Filter.Letters

/-!
# Printing arguments

Putting out arguments, as they are or by a pattern. Letters after a backslash stand for control
characters.
-/

namespace ClientWrap.Filter

/-- A text with its escapes resolved, and whether no escape has ended the output. An octal code
begins with a zero if `zero` is set. -/
def unescaped (zero : Bool) : Nat → List Char → List Char × Bool
  | 0, s => (s, true)
  | fuel + 1, s =>
    let onto (c : Char) (rest : List Char) : List Char × Bool :=
      let (text, goesOn) := unescaped zero fuel rest
      (c :: text, goesOn)
    match s with
    | [] => ([], true)
    | '\\' :: c :: rest =>
      let code := if zero then if c = '0' then rest else [] else c :: rest
      match octalChar? code with
      | some (d, rest) => onto d rest
      | none =>
        if c = 'c' then ([], false)
        else if zero ∧ c = '0' then onto (Char.ofNat 0) rest
        else if c = '\\' ∨ letterEscape c ≠ c then onto (letterEscape c) rest
        else onto '\\' (c :: rest)
    | c :: rest => onto c rest

/-- Arguments on one line, the escapes in them resolved. -/
def echoed (args : List String) : List Char :=
  let (closed, words) :=
    match args with
    | "-n" :: rest => (false, rest)
    | _ => (true, args)
  let joined := (" ".intercalate words).toList
  let (text, goesOn) := unescaped true (joined.length + 1) joined
  if closed && goesOn then text ++ ['\n'] else text

/-- A text put out once by a pattern: the text, the arguments that are left, and whether the output
goes on. There is none if the pattern asks for something else than texts. -/
def printedOnce? : Nat → List String → List Char → Option (List Char × List String × Bool)
  | 0, _, _ => none
  | fuel + 1, args, s =>
    let onto (text : List Char) (args : List String) (rest : List Char) :
        Option (List Char × List String × Bool) := do
      let (more, args, goesOn) ← printedOnce? fuel args rest
      return (text ++ more, args, goesOn)
    match s with
    | [] => some ([], args, true)
    | '%' :: '%' :: rest => onto ['%'] args rest
    | '%' :: 's' :: rest => onto (args.headD "").toList args.tail rest
    | '%' :: 'b' :: rest =>
      let arg := (args.headD "").toList
      let (text, goesOn) := unescaped true (arg.length + 1) arg
      if goesOn then onto text args.tail rest else some (text, [], false)
    | '%' :: _ => none
    | '\\' :: c :: rest =>
      match octalChar? (c :: rest) with
      | some (d, rest) => onto [d] args rest
      | none =>
        if c = '\\' ∨ letterEscape c ≠ c then onto [letterEscape c] args rest
        else onto ['\\', c] args rest
    | c :: rest => onto [c] args rest

/-- Arguments put out by a pattern, which is used again as long as it takes arguments and some are
left. -/
def printedFrom? (pattern : List Char) : Nat → List String → Option (List Char)
  | 0, _ => none
  | fuel + 1, args => do
    let (text, left, goesOn) ← printedOnce? (pattern.length + 1) args pattern
    if goesOn && !left.isEmpty && left.length < args.length then
      return text ++ (← printedFrom? pattern fuel left)
    else return text

/-- Arguments put out by the pattern that is the first of them. -/
def printed? : List String → Option (List Char)
  | [] => none
  | pattern :: args => printedFrom? pattern.toList (args.length + 1) args

end ClientWrap.Filter
