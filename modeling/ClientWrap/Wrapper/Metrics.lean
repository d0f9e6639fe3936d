import ClientWrap.Wrapper.Instrumentation

/-!
# Metrics

Wrappers that count calls. The accessor of a resource makes a recorder for the kind of the
resource, and every operation of the resource reports its own name to that recorder.
-/

namespace ClientWrap.Metrics

open ClientWrap.Code

/-- The manager that recorders are made from and the type of the client that they count for. -/
def clientsetParams (package : String) : List (String × GoType) :=
  [("m", .named package "MetricsConfigManager"), ("t", .named package "ClientType")]

/-- The manager and the type of the client, as the wrapper of a client carries them. -/
def clientState (package : String) : List Carried :=
  [⟨"metrics", "metrics", .named package "MetricsConfigManager"⟩,
    ⟨"clientType", "t", .named package "ClientType"⟩]

/-- The recorder of a resource. -/
def resourceState (package : String) : List Carried :=
  [⟨"recorder", "recorder", .named package "Recorder"⟩]

/-- The call that makes the recorder of a resource, with the namespace if it has one. -/
def makeRecorder (package : String) (r : Resource) : Expr :=
  let maker :=
    if r.namespaceArg.isEmpty then "ClusteredClientQueryRecorder"
    else "NamespacedClientQueryRecorder"
  .call (.qualified package maker) <|
    [.select (.name "c") "metrics"] ++ r.namespaceArg ++
      [.string r.kind, .select (.name "c") "clientType"]

/-- The body of an accessor makes a recorder and hands it to the wrapper of the resource. -/
def accessorBody (package : String) (c : Client) (r : Resource) : List Stmt :=
  [.step (.define ["recorder"] (makeRecorder package r)),
    .step (.give [.call (.name (r.constructor c)) [r.innerAccess, .name "recorder"]])]

/-- The body of an operation reports the operation when it returns. -/
def operationBody (m : Method) : List Stmt :=
  let record := Expr.select (.select (.name "c") "recorder") "Record"
  [.step (.atReturn (.call record [.string m.metricName])), .step m.passOn]

/-- The instrumentation that counts calls with the recorders of a package. -/
def instrumentation (package : String) : Instrumentation where
  packages _ := [package]
  clientsetParams := clientsetParams package
  clientState := clientState package
  resourceState := resourceState package
  accessorBody := accessorBody package
  operationBody _ _ m := operationBody m

end ClientWrap.Metrics
