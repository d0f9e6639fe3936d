import ClientWrap.Filter.Pattern

/-!
# Written patterns

Patterns are written in the basic syntax, where groups, alternatives and most repetitions have a
backslash, or in the extended one, where they have none. `Mark.read?` splits a written pattern into
marks, in which the difference is gone; `Pattern.parse?` builds the pattern from them.
-/

namespace ClientWrap.Filter

/-- How a pattern is written. -/
structure Writing where
  extended : Bool
  /-- Whether the case of letters is disregarded. -/
  anyCase : Bool
  deriving DecidableEq, Repr

/-- A part of a written pattern. -/
inductive Mark where
  | one (set : CharSet)
  | place (a : Anchor)
  | again (n : Nat)
  | opening
  | closing
  | bar
  /-- A repetition. Some of those that have nothing to repeat stand for a character. -/
  | times (plain : Option Char) (least : Nat) (most : Option Nat)
  deriving DecidableEq, Repr

namespace Mark

/-- The mark for a character. -/
def char (w : Writing) (c : Char) : Mark :=
  one ⟨[only c], false, w.anyCase⟩

/-- The character that a letter after a backslash stands for. -/
def control? : Char → Option Char
  | 'a' => some '\x07'
  | 'f' => some '\x0C'
  | 'n' => some '\n'
  | 'r' => some '\r'
  | 't' => some '\t'
  | 'v' => some '\x0B'
  | _ => none

/-- The mark that a letter, a digit or a sign after a backslash stands for in both syntaxes. -/
def escaped (w : Writing) (c : Char) : Mark :=
  match c with
  | 'w' => one ⟨wordRanges, false, false⟩
  | 'W' => one ⟨wordRanges, true, false⟩
  | 's' => one ⟨[('\t', '\r'), only ' '], false, false⟩
  | 'S' => one ⟨[('\t', '\r'), only ' '], true, false⟩
  | 'b' => place .wordEdge
  | 'B' => place .noWordEdge
  | '<' => place .wordStart
  | '>' => place .wordEnd
  | '\'' => place .lineEnd
  | _ =>
    if c = Char.ofNat 0x60 then place .lineStart
    else if '1' ≤ c ∧ c ≤ '9' then again (c.toNat - '0'.toNat)
    else char w ((control? c).getD c)

/-- A character inside brackets, and what follows it. -/
def bracketChar? : List Char → Option (Char × List Char)
  | '\\' :: c :: rest =>
    match control? c with
    | some d => some (d, rest)
    | none => some ('\\', c :: rest)
  | c :: rest => some (c, rest)
  | [] => none

/-- The ranges inside brackets up to the closing one, which is a character if it comes first. -/
def bracket? (first : Bool) : Nat → List Char → Option (List CharRange × List Char)
  | 0, _ => none
  | fuel + 1, s =>
    match s with
    | '[' :: ':' :: rest => do
      let (name, rest) ← className? rest
      let here ← classRanges? name
      let (more, rest) ← bracket? false fuel rest
      return (here ++ more, rest)
    | _ =>
      if s.head? = some ']' ∧ !first then some ([], s.tail)
      else do
        let (a, rest) ← bracketChar? s
        match rest with
        | '-' :: next :: _ =>
          if next = ']' then
            let (more, rest) ← bracket? false fuel rest
            return (only a :: more, rest)
          else
            let (b, rest) ← bracketChar? rest.tail
            if b < a then none
            let (more, rest) ← bracket? false fuel rest
            return ((a, b) :: more, rest)
        | _ =>
          let (more, rest) ← bracket? false fuel rest
          return (only a :: more, rest)

/-- A number, if there is one here, and what follows it. -/
def number? (s : List Char) : Option Nat × List Char :=
  let digits := s.takeWhile Char.isDigit
  ((String.ofList digits).toNat?, s.drop digits.length)

/-- The most often that a repetition may ask for. -/
def maxTimes : Nat := 32767

/-- The numbers of a repetition in braces, up to the closing brace, and what follows it. -/
def bounds? (w : Writing) (s : List Char) : Option (Mark × List Char) := do
  let (low, rest) := number? s
  let (least, most, rest) ←
    match low, rest with
    | _, ',' :: rest =>
      let (high, rest) := number? rest
      some (low.getD 0, high, rest)
    | some n, _ => some (n, some n, rest)
    | none, _ => none
  if maxTimes < most.getD least ∨ most.getD least < least then none
  match w.extended, rest with
  | true, '\x7d' :: rest => some (times none least most, rest)
  | false, '\\' :: '\x7d' :: rest => some (times none least most, rest)
  | _, _ => none

/-- Whether a dollar sign before this text ends a pattern, a group or an alternative. -/
def isClosed : List Char → Bool
  | [] => true
  | '\\' :: ')' :: _ => true
  | '\\' :: '|' :: _ => true
  | _ => false

/-- The mark at the start of a pattern in the basic syntax. `first` tells whether it is the first of
the pattern, of a group or of an alternative. -/
def basic? (w : Writing) (first : Bool) : List Char → Option (Mark × List Char)
  | [] => none
  | '\\' :: c :: rest =>
    match c with
    | '(' => some (opening, rest)
    | ')' => some (closing, rest)
    | '|' => some (bar, rest)
    | '+' => some (times (some '+') 1 none, rest)
    | '?' => some (times (some '?') 0 (some 1), rest)
    | '\x7b' => bounds? w rest
    | _ => some (escaped w c, rest)
  | ['\\'] => none
  | '*' :: rest => some (times (some '*') 0 none, rest)
  | '^' :: rest => some (if first then place .lineStart else char w '^', rest)
  | '$' :: rest => some (if isClosed rest then place .lineEnd else char w '$', rest)
  | c :: rest => some (char w c, rest)

/-- The mark at the start of a pattern in the extended syntax. -/
def extended? (w : Writing) : List Char → Option (Mark × List Char)
  | [] => none
  | '\\' :: c :: rest => some (escaped w c, rest)
  | ['\\'] => none
  | '(' :: rest => some (opening, rest)
  | ')' :: rest => some (closing, rest)
  | '|' :: rest => some (bar, rest)
  | '*' :: rest => some (times none 0 none, rest)
  | '+' :: rest => some (times none 1 none, rest)
  | '?' :: rest => some (times none 0 (some 1), rest)
  | '\x7b' :: rest => bounds? w rest
  | '^' :: rest => some (place .lineStart, rest)
  | '$' :: rest => some (place .lineEnd, rest)
  | c :: rest => some (char w c, rest)

/-- The mark at the start of a written pattern, and what follows it. -/
def next? (w : Writing) (first : Bool) (s : List Char) : Option (Mark × List Char) :=
  match s with
  | '.' :: rest => some (one ⟨[], true, false⟩, rest)
  | '[' :: '^' :: rest => do
    let (ranges, rest) ← bracket? true (rest.length + 1) rest
    return (one ⟨ranges, true, w.anyCase⟩, rest)
  | '[' :: rest => do
    let (ranges, rest) ← bracket? true (rest.length + 1) rest
    return (one ⟨ranges, false, w.anyCase⟩, rest)
  | _ => if w.extended then extended? w s else basic? w first s

/-- The marks of a written pattern, of which there are at most `n`. -/
def read? (w : Writing) (first : Bool) : Nat → List Char → Option (List Mark)
  | _, [] => some []
  | 0, _ => none
  | n + 1, s => do
    let (m, rest) ← next? w first s
    return m :: (← read? w (m = opening ∨ m = bar) n rest)

end Mark

/-- A group that is being read: its number, the alternatives before the current one, and the parts
of the current one, the last first. -/
structure Draft where
  number : Nat
  before : Option Pattern
  parts : List Pattern
  /-- Whether the last part may be repeated. -/
  isOpen : Bool
  /-- Whether the last part is a repetition. -/
  isRepeated : Bool
  deriving DecidableEq, Repr

namespace Draft

/-- A group of which nothing is read. -/
def empty (number : Nat) : Draft := ⟨number, none, [], false, false⟩

/-- The group with one more part. -/
def push (d : Draft) (p : Pattern) (isOpen : Bool) : Draft :=
  { d with parts := p :: d.parts, isOpen := isOpen, isRepeated := false }

/-- The alternatives of the group. -/
def whole (d : Draft) : Pattern :=
  let current :=
    match d.parts with
    | [] => .nothing
    | p :: rest => rest.foldl (fun q p => Pattern.seq p q) p
  match d.before with
  | some p => .either p current
  | none => current

/-- The group with its last part repeated. -/
def repeatLast? (d : Draft) (least : Nat) (most : Option Nat) : Option Draft :=
  match d.isOpen, d.parts with
  | true, p :: rest => some { d with parts := .many least most p :: rest, isRepeated := true }
  | _, _ => none

end Draft

/-- Whether a repetition must not follow another in the basic syntax: an asterisk or braces. -/
def mayNotFollow (plain : Option Char) : Bool :=
  plain == some '*' || plain.isNone

namespace Pattern

/-- The pattern that marks stand for, where `count` groups were opened before them and those with
the numbers `closed` are complete. -/
def ofMarksIn? (w : Writing) (count : Nat) (closed : List Nat) (d : Draft) (outer : List Draft) :
    List Mark → Option Pattern
  | [] => if outer.isEmpty then some d.whole else none
  | .one set :: ms => ofMarksIn? w count closed (d.push (.one set) true) outer ms
  | .place a :: ms => ofMarksIn? w count closed (d.push (.anchor a) false) outer ms
  | .again n :: ms =>
    if closed.contains n then ofMarksIn? w count closed (d.push (.again n) true) outer ms else none
  | .opening :: ms => ofMarksIn? w (count + 1) closed (.empty (count + 1)) (d :: outer) ms
  | .closing :: ms =>
    match outer with
    | e :: outer =>
      ofMarksIn? w count (d.number :: closed) (e.push (.group d.number d.whole) true) outer ms
    | [] => none
  | .bar :: ms => ofMarksIn? w count closed ⟨d.number, some d.whole, [], false, false⟩ outer ms
  | .times plain least most :: ms =>
    if d.isRepeated && !w.extended && mayNotFollow plain then none
    else
    match d.repeatLast? least most, plain with
    | some d, _ => ofMarksIn? w count closed d outer ms
    | none, some c =>
      ofMarksIn? w count closed (d.push (.one ⟨[only c], false, w.anyCase⟩) true) outer ms
    | none, none => none

/-- The pattern that a text writes. An empty text writes none. -/
def parse? (w : Writing) (s : List Char) : Option Pattern := do
  if s.isEmpty then none
  ofMarksIn? w 0 [] (.empty 0) [] (← Mark.read? w true s.length s)

/-- The number of the groups of a pattern. -/
def groupCount : Pattern → Nat
  | seq p q | either p q => p.groupCount + q.groupCount
  | group _ p => p.groupCount + 1
  | many _ _ p => p.groupCount
  | _ => 0

end Pattern

end ClientWrap.Filter
