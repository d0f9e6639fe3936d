/-!
# Scalars of YAML

Reads the scalars of a text in YAML: plain ones, and ones in single or double quotes. A scalar may
go over several lines; its lines are folded, so that one line break reads as a blank and further
ones as themselves.
-/

namespace ClientWrap.Yaml

/-- A place in a text. -/
structure Place where
  index : Nat
  line : Nat
  column : Nat
  deriving DecidableEq, Repr

namespace Place

/-- The place after one more character. -/
def next (p : Place) : Place := { p with index := p.index + 1, column := p.column + 1 }

/-- The place after a line break of `n` characters. -/
def nextLine (p : Place) (n : Nat) : Place := ⟨p.index + n, p.line + 1, 0⟩

end Place

/-- Whether a character ends a line. -/
def isBreak (c : Char) : Bool :=
  c == '\n' || c == '\r' || c == '\u0085' || c == '\u2028' || c == '\u2029'

/-- Whether a character is a blank within a line. -/
def isSpace (c : Char) : Bool :=
  c == ' ' || c == '\t'

/-- Whether a character may stand in a text. -/
def isAllowed (c : Char) : Bool :=
  c == '\t' || c == '\n' || c == '\r' || (' ' ≤ c && c ≤ '~') || c == '\u0085' ||
    ('\u00A0' ≤ c && c ≤ '\uFFFD') || 0x10000 ≤ c.toNat

/-- Whether a word ends here: at a blank, at a line break, or with the text. -/
def endsWord : List Char → Bool
  | [] => true
  | c :: _ => isSpace c || isBreak c

/-- The mark of a document that begins or ends here, three hyphens or three dots. -/
def documentMark? : List Char → Option Char
  | '-' :: '-' :: '-' :: rest => if endsWord rest then some '-' else none
  | '.' :: '.' :: '.' :: rest => if endsWord rest then some '.' else none
  | _ => none

/-- The character as which a line break is read. -/
def breakText (c : Char) : Char :=
  if c == '\u2028' || c == '\u2029' then c else '\n'

/-- Blanks and line breaks between two words of a scalar: the blanks before the first break, that
break, if any, and the breaks after it. Both lists are reversed. -/
structure Gap where
  blanks : List Char
  first : Option (List Char)
  more : List Char

namespace Gap

/-- No gap. -/
def empty : Gap := ⟨[], none, []⟩

/-- The gap after a line break that does not count. -/
def joined : Gap := ⟨[], some [], []⟩

/-- Whether nothing is between the words. -/
def isEmpty (g : Gap) : Bool :=
  g.blanks.isEmpty && g.first.isNone

/-- The gap with one more blank. Blanks at the start of a line do not count. -/
def blank (g : Gap) (c : Char) : Gap :=
  if g.first.isNone then { g with blanks := c :: g.blanks } else g

/-- The gap with one more line break. -/
def lineBreak (g : Gap) (c : Char) : Gap :=
  match g.first with
  | none => ⟨[], some [breakText c], []⟩
  | some _ => { g with more := breakText c :: g.more }

/-- The reversed text that the gap stands for. -/
def folded (g : Gap) : List Char :=
  match g.first with
  | none => g.blanks
  | some ['\n'] => if g.more.isEmpty then [' '] else g.more
  | some b => g.more ++ b

end Gap

/-- What is left after a scalar: its reversed text, whether it ends after a line break, and the
rest of the text with its place. -/
structure Scanned where
  done : List Char
  afterBreak : Bool
  place : Place
  rest : List Char

/-- Whether a plain scalar inside brackets ends at a character. -/
def isFlowMark (c : Char) : Bool :=
  c == ',' || c == '[' || c == ']' || c == '\x7b' || c == '\x7d'

/-- Whether a colon here is misplaced inside brackets. -/
def badColon : List Char → Bool
  | ':' :: c :: _ => isFlowMark c || c == '?'
  | _ => false

/-- Whether a plain scalar ends here although no blank does. -/
def endsPlain (flow : Bool) : List Char → Bool
  | ':' :: rest => endsWord rest
  | c :: _ => flow && isFlowMark c
  | [] => true

/-- A plain scalar onto the reversed text `done`, with its lines indented by at least `indent`
unless it stands inside brackets. -/
def plain (flow : Bool) (indent : Nat) (done : List Char) (g : Gap) (p : Place) :
    List Char → Option Scanned
  | [] => some ⟨done, g.first.isSome, p, []⟩
  | '\r' :: '\n' :: rest => plain flow indent done (g.lineBreak '\n') (p.nextLine 2) rest
  | c :: rest =>
    if isBreak c then plain flow indent done (g.lineBreak c) (p.nextLine 1) rest
    else if isSpace c then
      if g.first.isSome && p.column < indent && c == '\t' then none
      else plain flow indent done (g.blank c) p.next rest
    else
      let stop : Option Scanned := some ⟨done, g.first.isSome, p, c :: rest⟩
      if !g.isEmpty && !flow && p.column < indent then stop
      else if p.column == 0 && (documentMark? (c :: rest)).isSome then stop
      else if !g.isEmpty && c == '#' then stop
      else if flow && badColon (c :: rest) then none
      else if endsPlain flow (c :: rest) then stop
      else plain flow indent (c :: (g.folded ++ done)) .empty p.next rest

/-- A scalar in single quotes from after the opening quote on, onto the reversed text `done`. -/
def singleQuoted (done : List Char) (g : Gap) (p : Place) : List Char → Option Scanned
  | [] => none
  | '\r' :: '\n' :: rest => singleQuoted done (g.lineBreak '\n') (p.nextLine 2) rest
  | '\'' :: '\'' :: rest => singleQuoted ('\'' :: (g.folded ++ done)) .empty p.next.next rest
  | c :: rest =>
    if isBreak c then singleQuoted done (g.lineBreak c) (p.nextLine 1) rest
    else if isSpace c then singleQuoted done (g.blank c) p.next rest
    else if p.column == 0 && (documentMark? (c :: rest)).isSome then none
    else if c == '\'' then some ⟨g.folded ++ done, false, p.next, rest⟩
    else singleQuoted (c :: (g.folded ++ done)) .empty p.next rest

/-- The character that a short escape stands for. -/
def shortEscape? : Char → Option Char
  | '0' => some '\x00'
  | 'a' => some '\x07'
  | 'b' => some '\x08'
  | 't' => some '\t'
  | '\t' => some '\t'
  | 'n' => some '\n'
  | 'v' => some '\x0B'
  | 'f' => some '\x0C'
  | 'r' => some '\r'
  | 'e' => some '\x1B'
  | ' ' => some ' '
  | '"' => some '"'
  | '/' => some '/'
  | '\\' => some '\\'
  | 'N' => some '\u0085'
  | '_' => some '\u00A0'
  | 'L' => some '\u2028'
  | 'P' => some '\u2029'
  | _ => none

/-- The number of digits in an escape by code point. -/
def escapeWidth? : Char → Option Nat
  | 'x' => some 2
  | 'u' => some 4
  | 'U' => some 8
  | _ => none

/-- The value of a digit in base 16. -/
def hexValue? (c : Char) : Option Nat :=
  if c.isDigit then some (c.toNat - '0'.toNat)
  else if 'a' ≤ c && c ≤ 'f' then some (c.toNat - 'a'.toNat + 10)
  else if 'A' ≤ c && c ≤ 'F' then some (c.toNat - 'A'.toNat + 10)
  else none

/-- The number that digits in base 16 stand for. -/
def hexNumber? (digits : List Char) : Option Nat :=
  digits.foldlM (fun n c => (hexValue? c).map (n * 16 + ·)) 0

/-- The character with the code point that the first `n` digits stand for. -/
def codePoint? (n : Nat) (s : List Char) : Option Char := do
  if s.length < n then none
  let value ← hexNumber? (s.take n)
  if value.isValidChar then some (Char.ofNat value) else none

/-- A scalar in double quotes from after the opening quote on, onto the reversed text `done`. The
first number counts characters that an escape has read ahead. -/
def doubleQuoted (ahead : Nat) (done : List Char) (g : Gap) (p : Place) :
    List Char → Option Scanned
  | [] => none
  | '\r' :: '\n' :: rest => doubleQuoted 0 done (g.lineBreak '\n') (p.nextLine 2) rest
  | '\\' :: '\r' :: '\n' :: rest => doubleQuoted 0 (g.folded ++ done) .joined (p.nextLine 3) rest
  | '\\' :: c :: rest =>
    if isBreak c then doubleQuoted 0 (g.folded ++ done) .joined (p.nextLine 2) rest
    else
      match shortEscape? c with
      | some d => doubleQuoted 0 (d :: (g.folded ++ done)) .empty p.next.next rest
      | none =>
        match escapeWidth? c with
        | none => none
        | some n =>
          match codePoint? n rest with
          | none => none
          | some d => doubleQuoted n (d :: (g.folded ++ done)) .empty p.next.next rest
  | c :: rest =>
    if 0 < ahead then doubleQuoted (ahead - 1) done g p.next rest
    else if isBreak c then doubleQuoted 0 done (g.lineBreak c) (p.nextLine 1) rest
    else if isSpace c then doubleQuoted 0 done (g.blank c) p.next rest
    else if p.column == 0 && (documentMark? (c :: rest)).isSome then none
    else if c == '"' then some ⟨g.folded ++ done, false, p.next, rest⟩
    else doubleQuoted 0 (c :: (g.folded ++ done)) .empty p.next rest

end ClientWrap.Yaml
