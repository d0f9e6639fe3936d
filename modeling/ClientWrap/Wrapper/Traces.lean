import ClientWrap.Settings.Basic
import ClientWrap.Wrapper.Instrumentation

/-!
# Traces

Wrappers that put a span around every call with a context. An error that the call gives back is
recorded in the span. Operations without a context are passed through.
-/

namespace ClientWrap.Traces

open ClientWrap.Code

/-- The name of the span of an operation. -/
def spanName (t : TracingSettings) (c : Client) (r : Resource) (m : Method) : String :=
  let path := c.name ++ "/" ++ r.kind ++ "/" ++ m.name
  if t.spanLead = "" then path else t.spanLead ++ " " ++ path

/-- An attribute of a span. -/
def label (t : TracingSettings) (key value : String) : Expr :=
  .call (.qualified t.attributePackage "String") [.string key, .string value]

/-- The statement that starts the span of an operation. -/
def startSpan (t : TracingSettings) (component : String) (c : Client) (r : Resource)
    (m : Method) : Stmt :=
  .defineCall ["ctx", "span"] (.qualified t.package "StartSpan")
    [.name "arg0", .string component, .string (spanName t c r m),
      label t "client" c.name, label t "resource" r.name,
      label t "kind" r.kind, label t "operation" m.name]

/-- A call of a method of the span. -/
def onSpan (method : String) (args : List Expr) : Expr :=
  .call (.select (.name "span") method) args

/-- The statements that call the wrapped operation and record the error that it gives back, if it
can give one back. -/
def observedCall (t : TracingSettings) (m : Method) : List Stmt :=
  match m.errorIndex? with
  | none => [.step m.passOn]
  | some i =>
    let err := Method.retName i
    [.step (.define m.rets (m.innerCall m.args)),
      .ifPresent err
        [.run (onSpan "RecordError" [.name err]),
          .run (onSpan "SetStatus"
            [.qualified t.codesPackage "Error", .call (.select (.name err) "Error") []])],
      .step (.give (m.rets.map .name))]

/-- The body of an operation. -/
def operationBody (t : TracingSettings) (component : String) (c : Client) (r : Resource)
    (m : Method) : List Stmt :=
  if m.hasContext then
    [startSpan t component c r m,
      .step (.atReturn (onSpan "End" [])),
      .step (.assign "arg0" (.name "ctx"))] ++ observedCall t m
  else [.step m.passOn]

/-- The body of an accessor hands what it gives to the wrapper of the resource. -/
def accessorBody (c : Client) (r : Resource) : List Stmt :=
  [.step (.give [.call (.name (r.constructor c)) [r.innerAccess]])]

/-- The traced operations of a clientset. -/
def tracedOperations (cs : Clientset) : List Method :=
  cs.clients.flatMap fun c => c.resources.flatMap Resource.traced

/-- The packages that the spans of a clientset use. -/
def packages (t : TracingSettings) (cs : Clientset) : List String :=
  let traced := tracedOperations cs
  (if traced.isEmpty then [] else [t.package, t.attributePackage]) ++
    if traced.any Method.hasError then [t.codesPackage] else []

/-- The instrumentation that reports spans for a component. -/
def instrumentation (t : TracingSettings) (component : String) : Instrumentation where
  packages := packages t
  clientsetParams := []
  clientState := []
  resourceState := []
  accessorBody := accessorBody
  operationBody := operationBody t component

end ClientWrap.Traces
