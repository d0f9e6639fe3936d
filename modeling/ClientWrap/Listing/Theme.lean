import ClientWrap.Clientset.Basic
import ClientWrap.Project.Emit

/-!
# The theme of listings

The colours and icons that stand for the status of a file, the scope of a resource and the share of
its operations that is traced.
-/

namespace ClientWrap.Listing

/-- A colour of a terminal. -/
inductive Colour where
  | green
  | yellow
  | red
  | cyan
  | darkGrey
  deriving DecidableEq, Repr

namespace Colour

/-- The name of a colour. -/
def name : Colour → String
  | green => "Green"
  | yellow => "Yellow"
  | red => "Red"
  | cyan => "Cyan"
  | darkGrey => "DarkGrey"

/-- The code of a colour. -/
def code : Colour → Nat
  | green => 32
  | yellow => 33
  | red => 31
  | cyan => 36
  | darkGrey => 90

/-- A text in a colour, if colours are wanted. -/
def paint (c : Colour) (wanted : Bool) (text : String) : String :=
  if wanted then s!"\x1b[{c.code}m" ++ text ++ "\x1b[0m" else text

end Colour

end Listing

open Listing

namespace FileStatus

/-- The colour of a status. -/
def colour : FileStatus → Colour
  | upToDate => .green
  | stale => .yellow
  | missing => .red

/-- The icon of a status. -/
def icon : FileStatus → String
  | upToDate => "✓"
  | stale => "⚠"
  | missing => "✗"

/-- The words for a status. -/
def label : FileStatus → String
  | upToDate => "Up to date"
  | stale => "Stale"
  | missing => "Missing"

/-- A status as a listing shows it. -/
def shown (s : FileStatus) : String :=
  s.icon ++ " " ++ s.label

end FileStatus

namespace Scope

/-- The colour of a scope. -/
def colour : Scope → Colour
  | namespaced => .cyan
  | cluster => .darkGrey

/-- The name of a scope in a table. -/
def title : Scope → String
  | namespaced => "Namespaced"
  | cluster => "Cluster"

/-- The name of a scope in data. -/
def name : Scope → String
  | namespaced => "namespaced"
  | cluster => "cluster"

/-- The scope with the given name in data. -/
def ofName? (s : String) : Option Scope :=
  [namespaced, cluster].find? (·.name == s)

end Scope

namespace Listing

/-- The icon of a file that has just been written. -/
def writtenIcon : String := "✎"

/-- The colour for a number of traced operations out of all. -/
def coverageColour (traced total : Nat) : Colour :=
  if total = 0 then .darkGrey
  else if traced = total then .green
  else if 0 < traced then .yellow
  else .red

end Listing

end ClientWrap
