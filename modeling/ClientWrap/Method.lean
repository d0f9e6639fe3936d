import ClientWrap.Naming.Alias
import ClientWrap.Naming.SnakeCase

/-!
# Methods

A method of a described interface: its name and the types of its parameters and results.
-/

namespace ClientWrap

/-- A method of an interface. -/
structure Method where
  name : String
  params : List GoType
  results : List GoType
  deriving DecidableEq, Repr, Inhabited

namespace Method

/-- Whether the last parameter stands for the remaining arguments. -/
def isVariadic (m : Method) : Bool :=
  match m.params.getLast? with
  | some t => t.isVariadic
  | none => false

/-- The name under which calls of the method are counted. -/
def metricName (m : Method) : String :=
  Naming.snakeCase m.name

/-- Whether the first parameter is the context of a call. -/
def hasContext (m : Method) : Bool :=
  match m.params.head? with
  | some t => t.text == "context.Context"
  | none => false

/-- The index of the last result that is an error, where the first of the results has the
index `n`. -/
def lastErrorFrom (n : Nat) : List GoType → Option Nat
  | [] => none
  | t :: rest =>
    match lastErrorFrom (n + 1) rest with
    | some i => some i
    | none => if t.text == "error" then some n else none

/-- The index of the last result that is an error. -/
def errorIndex? (m : Method) : Option Nat :=
  lastErrorFrom 0 m.results

/-- Whether some result is an error. -/
def hasError (m : Method) : Bool :=
  m.errorIndex?.isSome

/-- The packages of the signature in the order in which it mentions them. -/
def mentioned (m : Method) : List String :=
  (m.params ++ m.results).flatMap GoType.mentioned

end Method

end ClientWrap
