import ClientWrap.Filter.Classes

/-!
# Patterns

Regular expressions on one line of text, and where they match. A match begins at the first place
where there is any, and is the longest one there.

`Pattern.ends` lists the ends of all matches at a place, those first for which each repetition takes
as much as it can; the groups are those of the first match among the longest.
-/

namespace ClientWrap.Filter

/-- What one character of a line is matched against: the characters in some ranges, or those in none
of them. -/
structure CharSet where
  ranges : List CharRange
  negated : Bool
  /-- Whether the case of letters is disregarded. -/
  anyCase : Bool
  deriving DecidableEq, Repr

/-- Whether a set has a character. -/
def CharSet.accepts (s : CharSet) (c : Char) : Bool :=
  (isWithin s.ranges c ||
    s.anyCase && (isWithin s.ranges c.toLower || isWithin s.ranges c.toUpper)) != s.negated

/-- A condition on the place between two characters of a line. -/
inductive Anchor where
  | lineStart
  | lineEnd
  | wordStart
  | wordEnd
  | wordEdge
  | noWordEdge
  deriving DecidableEq, Repr

/-- A pattern. -/
inductive Pattern where
  | nothing
  | one (set : CharSet)
  | anchor (place : Anchor)
  | seq (p q : Pattern)
  | either (p q : Pattern)
  /-- The part of the match that has the number `n`. -/
  | group (n : Nat) (p : Pattern)
  /-- What the group with the number `n` has matched. -/
  | again (n : Nat)
  | many (least : Nat) (most : Option Nat) (p : Pattern)
  deriving DecidableEq, Repr

/-- A place in a line: the character before it, the rest of the line, and what the groups of a
pattern have matched so far. -/
structure Spot where
  before : Option Char
  rest : List Char
  groups : List (Nat × List Char)
  deriving DecidableEq, Repr

namespace Spot

/-- The start of a line. -/
def start (line : List Char) : Spot := ⟨none, line, []⟩

/-- The part of the line from one place to a later one. -/
def upTo (s t : Spot) : List Char :=
  s.rest.take (s.rest.length - t.rest.length)

/-- What a group has matched. -/
def group (s : Spot) (n : Nat) : List Char :=
  match s.groups.find? (·.1 == n) with
  | some (_, text) => text
  | none => []

/-- Whether a character is one of a word. -/
def isWordChar : Option Char → Bool
  | some c => isWithin wordRanges c
  | none => false

/-- Whether a condition holds at a place. -/
def satisfies (s : Spot) : Anchor → Bool
  | .lineStart => s.before.isNone
  | .lineEnd => s.rest.isEmpty
  | .wordStart => !isWordChar s.before && isWordChar s.rest.head?
  | .wordEnd => isWordChar s.before && !isWordChar s.rest.head?
  | .wordEdge => isWordChar s.before != isWordChar s.rest.head?
  | .noWordEdge => isWordChar s.before == isWordChar s.rest.head?

/-- The place behind a given text, if that text is next. -/
def pass? (s : Spot) (text : List Char) : Option Spot :=
  if text.isPrefixOf s.rest then
    some { s with before := text.getLast?.or s.before, rest := s.rest.drop text.length }
  else none

end Spot

/-- The ends of a repetition of a step, which is taken at least `least` and at most `most` times.
A step beyond the least number has to lead on. -/
def repetitions (step : Spot → List Spot) : Nat → Nat → Option Nat → Spot → List Spot
  | 0, _, _, s => [s]
  | fuel + 1, least, most, s =>
    let longer :=
      if most = some 0 then []
      else (step s).flatMap fun t =>
        if 0 < least || t.rest.length < s.rest.length then
          repetitions step fuel (least - 1) (most.map (· - 1)) t
        else []
    if least = 0 then longer ++ [s] else longer

namespace Pattern

/-- The ends of the matches that begin at a place. -/
def ends : Pattern → Spot → List Spot
  | nothing, s => [s]
  | one set, s =>
    match s.rest with
    | c :: rest => if set.accepts c then [{ s with before := some c, rest := rest }] else []
    | [] => []
  | anchor place, s => if s.satisfies place then [s] else []
  | seq p q, s => (p.ends s).flatMap q.ends
  | either p q, s => p.ends s ++ q.ends s
  | group n p, s => (p.ends s).map fun t => { t with groups := (n, s.upTo t) :: t.groups }
  | again n, s => (s.pass? (s.group n)).toList
  | many least most p, s =>
    repetitions p.ends (s.rest.length + least + 1) least most s

/-- The end of the match at a place. -/
def match? (p : Pattern) (s : Spot) : Option Spot :=
  (p.ends { s with groups := [] }).foldl (fun best t =>
    match best with
    | none => some t
    | some b => if t.rest.length < b.rest.length then some t else some b) none

/-- Whether the pattern matches somewhere after a character. -/
def occursAfter (p : Pattern) (before : Option Char) : List Char → Bool
  | [] => (p.match? ⟨before, [], []⟩).isSome
  | c :: rest => (p.match? ⟨before, c :: rest, []⟩).isSome || p.occursAfter (some c) rest

/-- Whether the pattern matches somewhere in a line. -/
def occurs (p : Pattern) (line : List Char) : Bool :=
  p.occursAfter none line

end Pattern

end ClientWrap.Filter
