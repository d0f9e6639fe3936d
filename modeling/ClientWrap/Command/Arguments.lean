import ClientWrap.Path
import ClientWrap.Text.Lines

/-!
# Arguments

The words of a command line: which command they ask for, and with which options. Words are read
from left to right, and the first that makes no sense ends the reading. An option whose value is the
next word is settled when the word after it is read, so that a fault of its value may come after a
fault of a later word.
-/

namespace ClientWrap.Command

open ClientWrap.Text

/-- Why no command is run: the user asked for a text about the program, or the words make no
sense. -/
inductive UsageFault where
  | help
  | version
  | nothingGiven
  | commandMissing
  | unknownCommand
  | unknownArgument
  | badValue
  | givenTwice
  | needlessValue
  deriving DecidableEq, Repr

/-- The exit code for a usage fault. -/
def UsageFault.exitCode : UsageFault → Nat
  | help | version => 0
  | _ => 2

/-- The forms in which resources are listed. -/
inductive OutputForm where
  | table
  | yaml
  | json
  deriving DecidableEq, Repr

/-- The form with the given name. -/
def OutputForm.ofName? : String → Option OutputForm
  | "table" => some table
  | "yaml" => some yaml
  | "json" => some json
  | _ => none

/-- The commands. -/
inductive Verb where
  | generate
  | check
  | inspect
  deriving DecidableEq, Repr

/-- The command with the given name. -/
def Verb.ofName? : String → Option Verb
  | "generate" => some generate
  | "check" => some check
  | "inspect" => some inspect
  | _ => none

/-- What a command line asks for. -/
structure Invocation where
  verb : Verb
  /-- The number of steps that the user wants to see beyond warnings. -/
  verbosity : Nat
  settings : Path
  target : Option String
  noFormat : Bool
  properties : List String
  /-- The schema to be inspected in place of those of the targets. -/
  schema : Option Path
  form : OutputForm
  deriving DecidableEq, Repr

/-- The options that have a value. -/
inductive ValueOption where
  | settings
  | target
  | property
  | schema
  | form
  deriving DecidableEq, Repr

/-- The options that have none. -/
inductive Flag where
  | help
  | verbose
  | noFormat
  deriving DecidableEq, Repr

/-- An option of a command. -/
inductive KnownOption where
  | value (o : ValueOption)
  | flag (f : Flag)
  deriving DecidableEq, Repr

/-- The option with a long name. -/
def longOption? (verb : Verb) (name : String) : Option KnownOption :=
  match name with
  | "config" => some (.value .settings)
  | "target" => some (.value .target)
  | "no-format" => some (.flag .noFormat)
  | "verbose" => some (.flag .verbose)
  | "help" => some (.flag .help)
  | "schema" => if verb = .inspect then some (.value .schema) else none
  | "format" => if verb = .inspect then some (.value .form) else none
  | _ => none

/-- The option with a short name. -/
def shortOption? (verb : Verb) (name : Char) : Option KnownOption :=
  match name with
  | 'c' => some (.value .settings)
  | 't' => some (.value .target)
  | 'D' => some (.value .property)
  | 'v' => some (.flag .verbose)
  | 'h' => some (.flag .help)
  | 'o' => if verb = .inspect then some (.value .form) else none
  | _ => none

/-- The options read so far. -/
structure Draft where
  settings : Option Path
  target : Option String
  noFormat : Bool
  properties : List String
  schema : Option Path
  form : Option OutputForm
  verbosity : Option Nat
  /-- The option that the last words have given, with its value once that has been read. -/
  pending : Option (ValueOption × Option String)
  deriving DecidableEq, Repr

namespace Draft

/-- No options. -/
def empty : Draft := ⟨none, none, false, [], none, none, none, none⟩

/-- A path given as a value. -/
def pathValue (s : String) : Except UsageFault Path :=
  if s = "" then .error .badValue else .ok ⟨s⟩

/-- Refuses an option that has a value already. -/
def once {α : Type} (old : Option α) : Except UsageFault Unit :=
  if old.isSome then .error .givenTwice else .ok ()

/-- The draft with the value of an option. -/
def setValue (d : Draft) (o : ValueOption) (s : String) : Except UsageFault Draft := do
  match o with
  | .settings =>
    once d.settings
    return { d with settings := some (← pathValue s) }
  | .target =>
    once d.target
    return { d with target := some s }
  | .property => return { d with properties := d.properties ++ [s] }
  | .schema =>
    once d.schema
    return { d with schema := some (← pathValue s) }
  | .form =>
    once d.form
    match OutputForm.ofName? s with
    | some f => return { d with form := some f }
    | none => throw .badValue

/-- The draft with the last option settled. -/
def settle (d : Draft) : Except UsageFault Draft :=
  match d.pending with
  | none => .ok d
  | some (_, none) => .error .badValue
  | some (o, some s) => setValue { d with pending := none } o s

/-- The draft after a flag. -/
def setFlag (d : Draft) (f : Flag) : Except UsageFault Draft := do
  let d ← d.settle
  match f with
  | .help => throw .help
  | .verbose => return { d with verbosity := some (min 255 (d.verbosity.getD 0 + 1)) }
  | .noFormat => if d.noFormat then throw .givenTwice else return { d with noFormat := true }

/-- The draft after an option with a value, which may be attached to it. -/
def giveOption (d : Draft) (o : ValueOption) (attached : Option String) :
    Except UsageFault Draft := do
  let d ← d.settle
  match attached with
  | some s => d.setValue o s
  | none => return { d with pending := some (o, none) }

/-- Whether the next word is the value of the last option. -/
def wantsValue (d : Draft) : Bool :=
  match d.pending with
  | some (_, none) => true
  | _ => false

/-- The draft with a word as the value of the last option. -/
def takeValue (d : Draft) (s : String) : Draft :=
  { d with pending := d.pending.map fun p => (p.1, some s) }

end Draft

/-- The name and the attached value of a long option, from after its hyphens on. -/
def splitLong (s : List Char) : String × Option String :=
  match s.span (· != '=') with
  | (name, []) => (String.ofList name, none)
  | (name, _ :: value) => (String.ofList name, some (String.ofList value))

/-- The draft after a long option. -/
def readLong (verb : Verb) (d : Draft) (s : List Char) : Except UsageFault Draft :=
  let (name, attached) := splitLong s
  match longOption? verb name with
  | none => .error .unknownArgument
  | some (.value o) => d.giveOption o attached
  | some (.flag f) => if attached.isSome then .error .needlessValue else d.setFlag f

/-- The value attached to a short option, if there is one. An equals sign may stand before it. -/
def attachedValue : List Char → Option String
  | [] => none
  | '=' :: rest => some (String.ofList rest)
  | s => some (String.ofList s)

/-- The draft after short options in one word. -/
def readShort (verb : Verb) (d : Draft) : List Char → Except UsageFault Draft
  | [] => .ok d
  | c :: rest =>
    match shortOption? verb c with
    | none => .error .unknownArgument
    | some (.value o) => d.giveOption o (attachedValue rest)
    | some (.flag f) => do readShort verb (← d.setFlag f) rest

/-- The draft after the words that follow the name of a command. -/
def readOptions (verb : Verb) (d : Draft) : List String → Except UsageFault Draft
  | [] => d.settle
  | word :: rest =>
    match word.toList with
    | ['-', '-'] => if rest.isEmpty then d.settle else .error .unknownArgument
    | '-' :: '-' :: s => do readOptions verb (← readLong verb d s) rest
    | '-' :: c :: s => do readOptions verb (← readShort verb d (c :: s)) rest
    | _ =>
      if d.wantsValue then readOptions verb (d.takeValue word) rest else .error .unknownArgument

/-- The invocation of a command with options, where `outer` steps of verbosity were asked for before
its name. -/
def Draft.invocation (d : Draft) (verb : Verb) (outer : Nat) : Invocation where
  verb := verb
  verbosity := d.verbosity.getD outer
  settings := d.settings.getD ⟨"wrapgen.toml"⟩
  target := d.target
  noFormat := d.noFormat
  properties := d.properties
  schema := d.schema
  form := d.form.getD .table

/-- What words after `help` come to. -/
def readHelp : List String → UsageFault
  | [] => .help
  | [word] => if (Verb.ofName? word).isSome || word = "help" then .help else .unknownCommand
  | _ => .unknownCommand

/-- The verbosity after short options in one word before the name of a command. -/
def readOuterShort (verbosity : Nat) : List Char → Except UsageFault Nat
  | [] => .ok verbosity
  | 'v' :: rest => readOuterShort (min 255 (verbosity + 1)) rest
  | 'h' :: _ => .error .help
  | 'V' :: _ => .error .version
  | _ => .error .unknownArgument

/-- The verbosity after a long option before the name of a command. -/
def readOuterLong (verbosity : Nat) (s : List Char) : Except UsageFault Nat :=
  match splitLong s with
  | ("verbose", none) => .ok (min 255 (verbosity + 1))
  | ("help", none) => .error .help
  | ("version", none) => .error .version
  | (name, some _) =>
    if name = "verbose" ∨ name = "help" ∨ name = "version" then .error .needlessValue
    else .error .unknownArgument
  | _ => .error .unknownArgument

/-- What a command line without a command comes to. -/
def withoutCommand (verbosity : Nat) : UsageFault :=
  if verbosity = 0 then .nothingGiven else .commandMissing

/-- What words come to after `verbosity` steps of verbosity have been asked for. -/
def readFrom (verbosity : Nat) : List String → Except UsageFault Invocation
  | [] => .error (withoutCommand verbosity)
  | word :: rest =>
    if word = "help" then .error (readHelp rest)
    else
      match Verb.ofName? word with
      | some verb => do return (← readOptions verb .empty rest).invocation verb verbosity
      | none =>
        match word.toList with
        | ['-', '-'] =>
          match rest with
          | [] => .error (withoutCommand verbosity)
          | next :: _ =>
            if (Verb.ofName? next).isSome || next = "help" then .error .unknownArgument
            else .error .unknownCommand
        | '-' :: '-' :: s => do readFrom (← readOuterLong verbosity s) rest
        | '-' :: c :: s => do readFrom (← readOuterShort verbosity (c :: s)) rest
        | _ => .error .unknownCommand

/-- What a command line asks for. -/
def read (words : List String) : Except UsageFault Invocation :=
  readFrom 0 words

end ClientWrap.Command
