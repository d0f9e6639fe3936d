import ClientWrap.Error
import ClientWrap.Report

/-!
# Formatters

An emitted file can be sent through a formatter before it is compared or written. A formatter is any
function of the text that notes events on its way and may fail; it has no access to the file tree.
The formatter that settings name is a command whose program gets the text on its input.
-/

namespace ClientWrap

/-- What a formatter makes of the text of an emitted file. -/
abbrev Formatter := String → Report Error String

/-- A way of running programs: what a program given by its name and its arguments puts out for a
text on its input, without a line break at the end, or else what went wrong in words. -/
abbrev Execution := String → List String → String → Except String String

namespace Formatter

/-- The text that a command makes of a text. -/
def reformat (execute : Execution) (command : List String) (text : String) :
    Except Error String :=
  match command with
  | [] => .error (.formatter "empty formatter command")
  | program :: args => ((execute program args text).map (· ++ "\n")).mapError .formatter

/-- The formatter that sends texts through a command and notes the command. -/
def ofCommand (execute : Execution) (command : List String) : Formatter := fun text => do
  Report.note (.formatting command)
  Report.ofExcept (reformat execute command text)

end Formatter

end ClientWrap
