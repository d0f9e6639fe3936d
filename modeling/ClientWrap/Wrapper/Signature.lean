import ClientWrap.Code.File
import ClientWrap.Method

/-!
# Passing calls on

The method of a wrapper has the signature of the method that it stands for. Its parameters are
`arg0`, `arg1` and so on, its receiver is `c`, and what it wraps is the field `inner` of the
receiver.
-/

namespace ClientWrap

open ClientWrap.Code

namespace Method

/-- The name of a parameter. -/
def argName (i : Nat) : String := s!"arg{i}"

/-- The name of a result. -/
def retName (i : Nat) : String := s!"ret{i}"

/-- The parameters with their names. -/
def namedParams (m : Method) : List (String × GoType) :=
  m.params.zipIdx.map fun (t, i) => (argName i, t)

/-- The arguments that pass the parameters on. -/
def args (m : Method) : List Expr :=
  m.params.zipIdx.map fun (t, i) =>
    if t.isVariadic then .spread (.name (argName i)) else .name (argName i)

/-- The names of the results. -/
def rets (m : Method) : List String :=
  (List.range m.results.length).map retName

/-- The call of the wrapped method with the given arguments. -/
def innerCall (m : Method) (args : List Expr) : Expr :=
  .call (.select (.select (.name "c") "inner") m.name) args

/-- The statement that calls the wrapped method and gives back what it gives. -/
def passOn (m : Method) : Step :=
  if m.results.isEmpty then .run (m.innerCall m.args) else .give [m.innerCall m.args]

/-- A method of a wrapper with the signature of this one. -/
def wrapperFunc (m : Method) (receiver : String) (body : List Stmt) : Func where
  receiver := some receiver
  name := m.name
  params := m.namedParams
  results := m.results
  body := body

/-- The method of a wrapper that passes all calls on. -/
def passThrough (m : Method) (receiver : String) : Func :=
  m.wrapperFunc receiver [.step m.passOn]

end Method

end ClientWrap
