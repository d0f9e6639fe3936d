import ClientWrap.Clientset.Basic
import ClientWrap.Report
import ClientWrap.Schema.Resolve

/-!
# Walking a schema

A method whose only result is an interface is an accessor. The accessors of the root interface give
clients, those of a client give resources. A name can be excluded at either level; its method is
passed through. Walking fails when an accessor takes parameters that a wrapper cannot pass on, when
the methods of its interface are not described, or when two wrappers would share a name.
-/

namespace ClientWrap

/-- The names of methods that are passed through although they are accessors. -/
structure Exclusions where
  clientset : List String
  client : List String
  deriving DecidableEq, Repr

/-- The exclusions where none are given. -/
def Exclusions.default : Exclusions :=
  ⟨["Discovery"], ["RESTClient"]⟩

namespace Schema

/-- The interface that a method gives access to, unless its name is excluded. -/
def accessed? (s : Schema) (excluded : List String) (m : Method) : Option GoType :=
  if excluded.contains m.name then none
  else
    match m.results with
    | [t] => if s.isInterface t then some t else none
    | _ => none

/-- The methods of the interface that an accessor of `owner` gives access to. -/
def accessedMethods (s : Schema) (owner : GoType) (m : Method) (t : GoType) :
    Except Error (List Method) :=
  match s.methods? t with
  | some methods => .ok methods
  | none => .error (.unsupportedAccessor owner.shortName m.name (.undescribed t))

/-- The scope of the resource that an accessor of `owner` gives. -/
def scopeOf (owner : GoType) (m : Method) : Except Error Scope :=
  match m.params with
  | [] => .ok .cluster
  | [t] =>
    if t.isVariadic then
      .error (.unsupportedAccessor owner.shortName m.name .variadicNamespace)
    else .ok .namespaced
  | params =>
    .error (.unsupportedAccessor owner.shortName m.name (.resourceParameters params.length))

/-- The resource that an accessor of `owner` gives. -/
def resource (s : Schema) (owner : GoType) (m : Method) (t : GoType) : Except Error Resource := do
  let scope ← scopeOf owner m
  let operations ← s.accessedMethods owner m t
  return ⟨m, t, scope, operations⟩

/-- A method of a client as a member of its wrapper. -/
def clientMember (s : Schema) (ex : Exclusions) (owner : GoType) (m : Method) :
    Except Error (Member Resource) :=
  match s.accessed? ex.client m with
  | some t => (s.resource owner m t).map .wrapped
  | none => .ok (.direct m)

/-- The client that an accessor of `owner` gives. -/
def client (s : Schema) (ex : Exclusions) (owner : GoType) (m : Method) (t : GoType) :
    Except Error Client := do
  if !m.params.isEmpty then
    throw (.unsupportedAccessor owner.shortName m.name .clientParameters)
  let methods ← s.accessedMethods owner m t
  return ⟨m, t, ← methods.mapM (s.clientMember ex t)⟩

/-- A method of the root interface as a member of its wrapper. -/
def clientsetMember (s : Schema) (ex : Exclusions) (m : Method) :
    Report Error (Member Client) :=
  match s.accessed? ex.clientset m with
  | some t => do
    let c ← s.client ex s.root m t
    Report.note (.clientFound c.name c.typeName c.resources.length)
    return .wrapped c
  | none => return .direct m

end Schema

namespace Clientset

/-- The names that must differ, in the order in which they are checked: the fields of the
clientset wrapper and the types of all wrappers. -/
def names (cs : Clientset) : List SharedName :=
  .field "inner" :: cs.clients.flatMap fun c =>
    .field c.field :: .wrapper c.wrapper :: c.resources.map fun r => .wrapper (r.wrapper c)

/-- The first element of a list that an earlier one equals. -/
def firstRepeat? {α : Type} [DecidableEq α] (seen : List α) : List α → Option α
  | [] => none
  | a :: rest => if a ∈ seen then some a else firstRepeat? (a :: seen) rest

/-- The clientset, if no two wrappers share a name. -/
def checkNames (cs : Clientset) : Except Error Clientset :=
  match firstRepeat? [] cs.names with
  | some name => .error (.duplicateWrapper name)
  | none => .ok cs

end Clientset

/-- The clientset that a schema describes. -/
def Schema.walk (s : Schema) (ex : Exclusions) : Report Error Clientset := do
  match s.methods? s.root with
  | none => throw (.unknownInterface (.walked s.root.spelling))
  | some methods => do
    let members ← methods.mapM (s.clientsetMember ex)
    (Clientset.mk s.root members).checkNames

namespace Clientset

/-- The methods of all wrapped interfaces, those of a client or resource after its accessor. -/
def allMethods (cs : Clientset) : List Method :=
  cs.members.flatMap fun
    | .direct m => [m]
    | .wrapped c => c.accessor :: c.members.flatMap fun
      | .direct m => [m]
      | .wrapped r => r.accessor :: r.operations

/-- The set of packages that a file for the clientset imports when its instrumentation uses the
packages `extra`. -/
def imports (cs : Clientset) (extra : List String) : List String :=
  (Text.ascending
    (extra ++ cs.type.mentioned ++ cs.allMethods.flatMap Method.mentioned)).filter (· != "")

/-- The imports, if each has an alias of its own. -/
def checkAliases (imports : List String) : Except Error Unit :=
  match Naming.clash? imports with
  | some (name, first, second) => .error (.aliasClash name first second)
  | none => .ok ()

end Clientset

/-- A resource as a listing shows it. -/
structure ResourceRow where
  client : String
  resource : String
  kind : String
  scope : Scope
  operations : Nat
  traced : Nat
  deriving DecidableEq, Repr

/-- The resources of a clientset, client by client. -/
def Clientset.rows (cs : Clientset) : List ResourceRow :=
  cs.clients.flatMap fun c => c.resources.map fun r =>
    ⟨c.name, r.name, r.kind, r.scope, r.operations.length, r.traced.length⟩

end ClientWrap
