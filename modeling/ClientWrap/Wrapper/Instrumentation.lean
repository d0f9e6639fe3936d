import ClientWrap.Clientset.Basic
import ClientWrap.Wrapper.Signature

/-!
# Instrumentation

What a kind of wrapper adds. It decides which values the wrappers carry, how the wrapper of a
resource is made from that of its client, and what the wrapper of an operation does besides passing
the call on.
-/

namespace ClientWrap

open ClientWrap.Code

/-- A value that a wrapper carries: its field, and the parameter of the constructor it comes
from. -/
structure Carried where
  field : String
  param : String
  type : GoType

/-- The decisions of a kind of wrapper. -/
structure Instrumentation where
  /-- The packages that the instrumentation uses for a clientset. -/
  packages : Clientset → List String
  /-- The further parameters of `Wrap` and `NewForConfig`. They are passed to the constructor of
  every client, in their order. -/
  clientsetParams : List (String × GoType)
  /-- The values that the wrapper of a client carries. -/
  clientState : List Carried
  /-- The values that the wrapper of a resource carries. -/
  resourceState : List Carried
  /-- The body of the accessor of a resource. -/
  accessorBody : Client → Resource → List Stmt
  /-- The body of an operation of a resource. -/
  operationBody : Client → Resource → Method → List Stmt

namespace Resource

/-- The parameter of the accessor of a resource: its namespace, if it has one. -/
def namespaceParam (r : Resource) : List (String × GoType) :=
  (r.accessor.params.take 1).map fun t => ("namespace", t)

/-- The argument that passes the namespace on. -/
def namespaceArg (r : Resource) : List Expr :=
  r.namespaceParam.map fun p => .name p.1

/-- The call of the wrapped accessor. -/
def innerAccess (r : Resource) : Expr :=
  r.accessor.innerCall r.namespaceArg

end Resource

end ClientWrap
