import ClientWrap.Filter.Pattern
import ClientWrap.Text.Lines

/-!
# Editing lines

Scripts of a line editor. The commands of a script are run for each line of a text in turn, each for
the lines that its addresses tell. What is left of the line is put out at the end, unless lines are
put out only on demand. The last line keeps its way of ending, with a line feed or without.
-/

namespace ClientWrap.Filter

open ClientWrap.Text

/-- A change of the case of letters, for the next character or for all that follow. -/
inductive CaseChange where
  | upper
  | lower
  | upperNext
  | lowerNext
  | keep
  deriving DecidableEq, Repr

/-- A part of what is put in place of a match: a character, what a group has matched, or a change of
case. The group 0 is the whole match. -/
inductive Part where
  | char (c : Char)
  | group (n : Nat)
  | change (c : CaseChange)
  deriving DecidableEq, Repr

/-- A line that a command is for. -/
inductive Address where
  | number (n : Nat)
  | last
  | like (p : Pattern)
  /-- The line `first` and every `step`-th after it. -/
  | every (first step : Nat)
  deriving DecidableEq, Repr

/-- Whether an address is a pattern. -/
def Address.isPattern : Address → Bool
  | like _ => true
  | _ => false

/-- Where a range of lines ends. -/
inductive RangeEnd where
  | address (a : Address)
  /-- After this many further lines. -/
  | after (n : Nat)
  deriving DecidableEq, Repr

/-- The lines that a command is for. -/
inductive Lines where
  | all
  | one (a : Address)
  | range (first : Address) (last : RangeEnd)
  deriving DecidableEq, Repr

/-- What a command does to a line. -/
inductive Action where
  /-- Replaces the match with the number `nth`; if `every` is set, all later ones, too. If `prints` is
  set, the line is put out after a replacement. -/
  | substitute (p : Pattern) (parts : List Part) (nth : Nat) (every prints : Bool)
  | exchange (pairs : List (Char × Char))
  | delete
  | print
  | printNumber
  | quit (prints : Bool) (code : Nat)
  | append (text : List Char)
  | insert (text : List Char)
  | change (text : List Char)
  deriving DecidableEq, Repr

/-- A command for some lines, or for all but those. -/
structure Command where
  lines : Lines
  negated : Bool
  action : Action
  deriving DecidableEq, Repr

/-- A character in another case. -/
def CaseChange.apply : CaseChange → Char → Char
  | upper, c | upperNext, c => c.toUpper
  | lower, c | lowerNext, c => c.toLower
  | keep, c => c

/-- The text of some characters, of which the first is changed by `next` if there is such a change,
and the others by `all`. -/
def changed (all : CaseChange) (next : Option CaseChange) : List Char → List Char
  | [] => []
  | c :: rest => (next.getD all).apply c :: rest.map all.apply

/-- The text that is put in place of a match. -/
def expand (found : List Char) (groups : Nat → List Char) (all : CaseChange)
    (next : Option CaseChange) : List Part → List Char
  | [] => []
  | .char c :: rest => changed all next [c] ++ expand found groups all none rest
  | .group n :: rest =>
    let text := if n = 0 then found else groups n
    changed all next text ++ expand found groups all (if text.isEmpty then next else none) rest
  | .change c :: rest =>
    match c with
    | .upperNext | .lowerNext => expand found groups all (some c) rest
    | _ => expand found groups c none rest

/-- What replaces the match between two places. -/
def replacementAt (parts : List Part) (s t : Spot) : List Char :=
  expand (s.upTo t) t.group .keep none parts

/-- Replaces matches in what is left of a line, where `left` further matches are passed over before
the first replacement. An empty match right after a match does not count. The second part of the
result tells whether something was replaced. -/
def substituteFrom (p : Pattern) (parts : List Part) (every : Bool) (done : List Char) :
    Nat → Bool → Bool → Nat → Spot → List Char × Bool
  | 0, hit, _, _, s => (done.reverse ++ s.rest, hit)
  | fuel + 1, hit, afterMatch, left, s =>
    let step (hit : Bool) (done : List Char) (left : Nat) : List Char × Bool :=
      match s.rest with
      | [] => (done.reverse, hit)
      | c :: rest =>
        substituteFrom p parts every (c :: done) fuel hit false left ⟨some c, rest, []⟩
    match p.match? s with
    | none => step hit done left
    | some t =>
      let isEmpty := t.rest.length == s.rest.length
      if isEmpty && afterMatch then step hit done left
      else
        let replaces := left = 0
        let new := if replaces then replacementAt parts s t else s.upTo t
        let done := new.reverse ++ done
        if replaces && !every then (done.reverse ++ t.rest, true)
        else if isEmpty then step (hit || replaces) done (left - 1)
        else substituteFrom p parts every done fuel (hit || replaces) true (left - 1) t

/-- The line with matches replaced, and whether there was one to replace. -/
def substitute (p : Pattern) (parts : List Part) (nth : Nat) (every : Bool) (line : List Char) :
    List Char × Bool :=
  substituteFrom p parts every [] (2 * line.length + 2) false false (nth - 1) (.start line)

/-- A line with its number. -/
structure NumberedLine where
  number : Nat
  isLast : Bool
  text : List Char
  deriving DecidableEq, Repr

/-- Whether an address tells a line. -/
def Address.tells (a : Address) (l : NumberedLine) : Bool :=
  match a with
  | number n => l.number == n
  | last => l.isLast
  | like p => p.occurs l.text
  | every first step =>
    if step = 0 then l.number == first
    else first ≤ l.number && (l.number - first) % step == 0

/-- How far a range of lines has come. One that begins at a number begins only once. One that begins
at 0 can end on the first line, as can one that ends at the last line. -/
inductive RangeState where
  | waiting
  /-- Begun, with the number of the last line where that is known. -/
  | begun (last : Option Nat)
  | spent
  deriving DecidableEq, Repr

/-- Whether a range has begun and not ended. -/
def RangeState.isBegun : RangeState → Bool
  | begun _ => true
  | _ => false

/-- What becomes of a range after its end. -/
def RangeState.afterEnd : Address → RangeState
  | .number _ => spent
  | _ => waiting

/-- Whether a range begins at a line. The line with its number may have been deleted before the
command was reached. -/
def Address.begins (a : Address) (l : NumberedLine) : Bool :=
  match a with
  | number n => n ≤ l.number
  | _ => a.tells l

/-- Whether lines are those of a command at a line, and what the range is like after it. -/
def Lines.tell (ls : Lines) (state : RangeState) (l : NumberedLine) : Bool × RangeState :=
  match ls with
  | all => (true, .waiting)
  | one a => (a.tells l, .waiting)
  | range first stop =>
    let next (atEnd : Bool) (last : Option Nat) : RangeState :=
      if atEnd then .afterEnd first else .begun last
    match state with
    | .spent => (false, .spent)
    | .waiting =>
      if first.begins l then
        match stop with
        | .address (.number n) => (l.number ≤ n || first.tells l, next (n ≤ l.number) (some n))
        | .after n => (true, next (n = 0) (some (l.number + n)))
        | .address a => (true, next ((first == .number 0 || a == .last) && a.tells l) none)
      else (false, .waiting)
    | .begun last =>
      match stop with
      | .address (.number n) => (l.number ≤ n, next (n ≤ l.number) last)
      | .after _ => (true, next (last.getD 0 ≤ l.number) last)
      | .address a => (true, next (a.tells l) last)

/-- A piece of output, and whether a line feed ends it. -/
structure Written where
  text : List Char
  closed : Bool
  deriving DecidableEq, Repr

/-- The text of pieces of output. A piece without a line feed gets one if another follows. -/
def writtenText : List Written → List Char
  | [] => []
  | [w] => if w.closed then w.text ++ ['\n'] else w.text
  | w :: rest => w.text ++ '\n' :: writtenText rest

/-- What the commands make of a line: the output before the end of the line and after it, what the
line has become unless it is deleted, the states of the ranges, and the exit code if it is the last
line to be edited. -/
structure Cycle where
  out : List Written
  queued : List Written
  line : Option (List Char)
  states : List RangeState
  exit : Option Nat
  deriving DecidableEq, Repr

/-- Runs commands, each with the state of its range, for a line. `closed` tells whether a line feed
ends the line. -/
def runCommands (l : NumberedLine) (closed : Bool) (out queued : List Written) :
    List (Command × RangeState) → Cycle
  | [] => ⟨out, queued, some l.text, [], none⟩
  | (c, state) :: rest =>
    let (inside, state) := c.lines.tell state l
    let untouched := rest.map (·.2)
    let after (c : Cycle) : Cycle := { c with states := state :: c.states }
    if inside == c.negated then after (runCommands l closed out queued rest)
    else
      match c.action with
      | .delete => ⟨out, queued, none, state :: untouched, none⟩
      | .print => after (runCommands l closed (out ++ [⟨l.text, closed⟩]) queued rest)
      | .printNumber =>
        after (runCommands l closed (out ++ [⟨(toString l.number).toList, true⟩]) queued rest)
      | .quit prints code =>
        if prints then ⟨out, queued, some l.text, state :: untouched, some code⟩
        else ⟨out, [], none, state :: untouched, some code⟩
      | .append text => after (runCommands l closed out (queued ++ [⟨text, true⟩]) rest)
      | .insert text => after (runCommands l closed (out ++ [⟨text, true⟩]) queued rest)
      | .change text =>
        let shown := if !state.isBegun || c.negated then out ++ [⟨text, true⟩] else out
        ⟨shown, queued, none, state :: untouched, none⟩
      | .exchange pairs =>
        let text := l.text.map fun x => ((pairs.find? (·.1 == x)).map (·.2)).getD x
        after (runCommands { l with text := text } closed out queued rest)
      | .substitute p parts nth every prints =>
        let (text, hit) := substitute p parts nth every l.text
        let out := if hit && prints then out ++ [⟨text, closed⟩] else out
        after (runCommands { l with text := text } closed out queued rest)

/-- What a script puts out for lines from number `n` on, and its exit code. `closed` tells whether a
line feed ends the last line. -/
def editLines (quiet closed : Bool) (script : List Command) (n : Nat) (states : List RangeState) :
    List (List Char) → List Written × Nat
  | [] => ([], 0)
  | line :: rest =>
    let isClosed := closed || !rest.isEmpty
    let c := runCommands ⟨n, rest.isEmpty, line⟩ isClosed [] [] (script.zip states)
    let own :=
      match c.line with
      | some text => if quiet then [] else [⟨text, isClosed⟩]
      | none => []
    let out := c.out ++ own ++ c.queued
    match c.exit with
    | some code => (out, code)
    | none =>
      let (more, code) := editLines quiet closed script (n + 1) c.states rest
      (out ++ more, code)

/-- The text that a script makes of a text, and its exit code. -/
def edit (quiet : Bool) (script : List Command) (s : List Char) : List Char × Nat :=
  let parts := s.splitOn '\n'
  let closed := s.getLast? == some '\n'
  let ls := if s.isEmpty || closed then parts.dropLast else parts
  let (out, code) := editLines quiet closed script 1 (script.map fun _ => .waiting) ls
  (writtenText out, code)

end ClientWrap.Filter
