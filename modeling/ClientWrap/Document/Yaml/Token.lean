import ClientWrap.Document.Yaml.Scalar

/-!
# Tokens of YAML

Cuts a text in YAML into tokens. Indentation is made explicit: a block collection begins and ends
with a token of its own. That a scalar or a bracket is a key shows only at the colon after it; the
tokens for the key are then inserted where it began. Anchors, aliases, tags, directives and block
scalars are not part of the language read here.
-/

namespace ClientWrap.Yaml

/-- A token. A scalar is marked as plain unless it is quoted. -/
inductive Token where
  | documentStart
  | documentEnd
  | blockSequence
  | blockMapping
  | blockEnd
  | openSequence
  | closeSequence
  | openMapping
  | closeMapping
  | blockEntry
  | flowEntry
  | key
  | value
  | scalar (plain : Bool) (text : String)
  deriving DecidableEq, Repr

/-- A place where a key may have begun: the number of its first token, and whether there must be a
key for the indentation to make sense. -/
structure PossibleKey where
  required : Bool
  number : Nat
  place : Place

/-- A text that has been cut into tokens up to a place. -/
structure Scanner where
  rest : List Char
  place : Place
  /-- The tokens so far, last first, and their number. -/
  tokens : List Token
  count : Nat
  /-- The columns of the block collections around the place, innermost first. -/
  indents : List Nat
  /-- Whether a key may begin here. -/
  keyAllowed : Bool
  /-- The key that may have begun outside all brackets. -/
  blockKey : Option PossibleKey
  /-- The keys that may have begun inside brackets, innermost first. -/
  flowKeys : List (Option PossibleKey)

namespace Scanner

/-- A text that nothing has been read of. -/
def start (text : List Char) : Scanner where
  rest := text
  place := ⟨0, 0, 0⟩
  tokens := []
  count := 0
  indents := []
  keyAllowed := true
  blockKey := none
  flowKeys := []

/-- Whether the place is inside brackets. -/
def inFlow (s : Scanner) : Bool := !s.flowKeys.isEmpty

/-- The key that may have begun at the level of the place. -/
def currentKey (s : Scanner) : Option PossibleKey :=
  s.flowKeys.head?.getD s.blockKey

/-- The scanner with another key at the level of the place. -/
def setKey (s : Scanner) (k : Option PossibleKey) : Scanner :=
  match s.flowKeys with
  | [] => { s with blockKey := k }
  | _ :: outer => { s with flowKeys := k :: outer }

/-- The scanner with one more token. -/
def emit (s : Scanner) (t : Token) : Scanner :=
  { s with tokens := t :: s.tokens, count := s.count + 1 }

/-- The scanner with one more token at a position among those it has. -/
def insertToken (s : Scanner) (number : Nat) (t : Token) : Scanner :=
  let later := s.count - number
  { s with
    tokens := s.tokens.take later ++ t :: s.tokens.drop later
    count := s.count + 1 }

/-- The scanner after one more character. -/
def skip (s : Scanner) : Scanner :=
  { s with rest := s.rest.tail, place := s.place.next }

/-- Whether a block collection at a column would be inside all others. -/
def isDeeper (s : Scanner) (column : Nat) : Bool :=
  match s.indents with
  | [] => true
  | indent :: _ => indent < column

/-- The scanner with a block collection open at a column, whose first token has a number. -/
def openBlock (s : Scanner) (column number : Nat) (t : Token) : Scanner :=
  if s.inFlow || !s.isDeeper column then s
  else { s.insertToken number t with indents := column :: s.indents }

/-- The block collections that end before a column, closed; all of them if there is no column. -/
def closeBlocks (s : Scanner) (column : Option Nat) : Scanner :=
  if s.inFlow then s
  else
    let ends (indent : Nat) : Bool :=
      match column with
      | some c => c < indent
      | none => true
    (s.indents.takeWhile ends).foldl (fun s _ => s.emit .blockEnd)
      { s with indents := s.indents.dropWhile ends }

/-- Whether a possible key is too far behind to be one. -/
def isStale (s : Scanner) (k : PossibleKey) : Bool :=
  k.place.line < s.place.line || k.place.index + 1024 < s.place.index

/-- The scanner without keys that can no longer be one, unless one of them is required. -/
def dropStale (s : Scanner) : Option Scanner := do
  let fresh (k : Option PossibleKey) : Option (Option PossibleKey) :=
    match k with
    | none => some none
    | some k => if s.isStale k then if k.required then none else some none else some (some k)
  return { s with blockKey := ← fresh s.blockKey, flowKeys := ← s.flowKeys.mapM fresh }

/-- The scanner after it is known that no key began at the level of the place. -/
def dropKey (s : Scanner) : Option Scanner :=
  match s.currentKey with
  | some k => if k.required then none else some (s.setKey none)
  | none => some s

/-- The scanner with a note that a key may begin here. -/
def noteKey (s : Scanner) : Option Scanner :=
  if s.keyAllowed then do
    let required := !s.inFlow && s.indents.head? == some s.place.column
    return (← s.dropKey).setKey (some ⟨required, s.count, s.place⟩)
  else some s

/-- The text from the next token on, with its place, and whether a key may begin there. Blanks,
comments and line breaks are passed over, tabs only where no indentation is measured. -/
def gapFrom (flow keyAllowed inComment : Bool) (p : Place) : List Char → Bool × Place × List Char
  | [] => (keyAllowed, p, [])
  | '\r' :: '\n' :: rest => gapFrom flow (keyAllowed || !flow) false (p.nextLine 2) rest
  | c :: rest =>
    if isBreak c then gapFrom flow (keyAllowed || !flow) false (p.nextLine 1) rest
    else if inComment then gapFrom flow keyAllowed true p.next rest
    else if c == ' ' || (c == '\t' && (flow || !keyAllowed)) then
      gapFrom flow keyAllowed false p.next rest
    else if c == '#' then gapFrom flow keyAllowed true p.next rest
    else (keyAllowed, p, c :: rest)

/-- The scanner at the next token. -/
def skipGap (s : Scanner) : Scanner :=
  let (keyAllowed, place, rest) := gapFrom s.inFlow s.keyAllowed false s.place s.rest
  { s with keyAllowed := keyAllowed, place := place, rest := rest }

/-- The scanner after the mark of a document. -/
def documentMark (s : Scanner) (t : Token) : Option Scanner := do
  let s ← (s.closeBlocks none).dropKey
  return { s.skip.skip.skip with keyAllowed := false }.emit t

/-- The scanner after an opening bracket. -/
def openFlow (s : Scanner) (t : Token) : Option Scanner := do
  let s ← s.noteKey
  return { s.skip with flowKeys := none :: s.flowKeys, keyAllowed := true }.emit t

/-- The scanner after a closing bracket. -/
def closeFlow (s : Scanner) (t : Token) : Option Scanner := do
  let s ← s.dropKey
  return { s.skip with flowKeys := s.flowKeys.tail, keyAllowed := false }.emit t

/-- The scanner after a comma. -/
def flowEntry (s : Scanner) : Option Scanner := do
  let s ← s.dropKey
  return { s.skip with keyAllowed := true }.emit .flowEntry

/-- The scanner after a hyphen. -/
def blockEntry (s : Scanner) : Option Scanner := do
  if !s.inFlow && !s.keyAllowed then none
  let s ← (s.openBlock s.place.column s.count .blockSequence).dropKey
  return { s.skip with keyAllowed := true }.emit .blockEntry

/-- The scanner after a question mark. -/
def explicitKey (s : Scanner) : Option Scanner := do
  if !s.inFlow && !s.keyAllowed then none
  let s ← (s.openBlock s.place.column s.count .blockMapping).dropKey
  return { s.skip with keyAllowed := !s.inFlow }.emit .key

/-- The scanner after a colon. -/
def value (s : Scanner) : Option Scanner := do
  match s.currentKey with
  | some k =>
    let s := (s.insertToken k.number .key).openBlock k.place.column k.number .blockMapping
    return { (s.setKey none).skip with keyAllowed := false }.emit .value
  | none =>
    if !s.inFlow && !s.keyAllowed then none
    let s := s.openBlock s.place.column s.count .blockMapping
    return { s.skip with keyAllowed := !s.inFlow }.emit .value

/-- The scanner after a scalar. -/
def scalar (s : Scanner) (isPlain : Bool) (scan : Scanner → Option Scanned) :
    Option Scanner := do
  let s ← s.noteKey
  let r ← scan s
  return { s with rest := r.rest, place := r.place, keyAllowed := r.afterBreak }.emit
    (.scalar isPlain (String.ofList r.done.reverse))

/-- The plain scalar at the place. -/
def scanPlain (s : Scanner) : Option Scanned :=
  let indent :=
    match s.indents with
    | [] => 0
    | indent :: _ => indent + 1
  plain s.inFlow indent [] .empty s.place s.rest

/-- Whether a plain scalar begins here. -/
def beginsPlain (flow : Bool) : List Char → Bool
  | [] => false
  | c :: rest =>
    let indicators := "-?:,[]\x7b\x7d#&*!|>'\"%@".toList ++ [Char.ofNat 0x60]
    if c == '-' then !(rest.head?.any isSpace)
    else if c == '?' || c == ':' then !flow && !endsWord rest
    else !indicators.contains c && !isSpace c && !isBreak c

/-- The scanner after the token at the place. -/
def fetch (s : Scanner) : Option Scanner :=
  let mark := if s.place.column = 0 then documentMark? s.rest else none
  match mark with
  | some '-' => s.documentMark .documentStart
  | some _ => s.documentMark .documentEnd
  | none =>
    match s.rest with
    | [] => none
    | c :: rest =>
      if c == '%' && s.place.column = 0 then none
      else if c == '[' then s.openFlow .openSequence
      else if c == '\x7b' then s.openFlow .openMapping
      else if c == ']' then s.closeFlow .closeSequence
      else if c == '\x7d' then s.closeFlow .closeMapping
      else if c == ',' then s.flowEntry
      else if c == '-' && endsWord rest then s.blockEntry
      else if c == '?' && (s.inFlow || endsWord rest) then s.explicitKey
      else if c == ':' && (s.inFlow || endsWord rest) then s.value
      else if c == '\'' then
        s.scalar false fun s => singleQuoted [] .empty s.place.next s.rest.tail
      else if c == '"' then
        s.scalar false fun s => doubleQuoted 0 [] .empty s.place.next s.rest.tail
      else if beginsPlain s.inFlow s.rest then s.scalar true scanPlain
      else none

/-- The tokens of a text, at most `n` more of which are read one by one. -/
def run : Nat → Scanner → Option (List Token)
  | 0, _ => none
  | n + 1, s => do
    let s ← s.skipGap.dropStale
    if s.rest.isEmpty then
      return (← (s.closeBlocks none).dropKey).tokens.reverse
    else run n (← (s.closeBlocks (some s.place.column)).fetch)

end Scanner

/-- The tokens of a text. -/
def tokens? (text : String) : Option (List Token) :=
  let cs := text.toList
  let cs := if cs.head? = some '\uFEFF' then cs.tail else cs
  if cs.all isAllowed then (Scanner.start cs).run (cs.length + 1) else none

end ClientWrap.Yaml
