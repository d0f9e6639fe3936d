import ClientWrap.Command.Run
import ClientWrap.Filter.Shell
import ClientWrap.Schema.Read
import ClientWrap.Settings.Read

/-!
# The environment of the program

Schemas and settings are read as the documents of their formats. Formatters are run as far as their
programs are known; any other program counts as one that is not installed.
-/

namespace ClientWrap.Filter

/-- A character of an argument inside quotes. -/
def escapedChar (c : Char) : List Char :=
  if c = '\t' then ['\\', 't']
  else if c = '\n' then ['\\', 'n']
  else if c = '\r' then ['\\', 'r']
  else if c = '"' ∨ c = '\'' ∨ c = '\\' then ['\\', c]
  else if ' ' ≤ c ∧ c ≤ '~' then [c]
  else ['\\', 'u', '\x7b'] ++ Nat.toDigits 16 c.toNat ++ ['\x7d']

/-- An argument as a message shows it: between quotes if a blank is in it. -/
def shownArgument (s : String) : String :=
  let isSpace (c : Char) : Bool :=
    c == ' ' || c == '\t' || c == '\n' || c == '\x0C' || c == '\r'
  if s.toList.any isSpace then
    String.ofList ('"' :: (s.toList.flatMap escapedChar ++ ['"']))
  else s

/-- A command as a message shows it. -/
def shownCommand (command : List String) : String :=
  " ".intercalate (command.map shownArgument)

/-- The text without one line break at its end. -/
def opened (text : String) : String :=
  let dropLast (c : Char) (s : List Char) : List Char := if s.head? = some c then s.tail else s
  String.ofList (dropLast '\r' (dropLast '\n' text.toList.reverse)).reverse

/-- What a program puts out for an input, if there is such a program. -/
def output? (program : String) (args : List String) (input : List Char) : Option Output :=
  match program, args with
  | "sh", "-c" :: script :: _ => some (Shell.run script input)
  | _, _ => run? program args input

/-- Runs a program on a text. -/
def execute : Execution := fun program args text =>
  let command := shownCommand (program :: args)
  match output? program args (bytesOf text) with
  | none => .error s!"command not found: `{program}`"
  | some o =>
    if o.code = 0 then
      match ofBytes? o.text with
      | some text => .ok (opened text)
      | none => .error s!"failed to decode output of command `{command}`"
    else .error s!"command exited with non-zero code `{command}`: {o.code}"

end ClientWrap.Filter

namespace ClientWrap.Command

/-- The environment that the program runs in. -/
def Environment.standard : Environment where
  schemas := .standard
  settings := Settings.ofToml
  execute := Filter.execute

end ClientWrap.Command
