import ClientWrap.Wrapper.Metrics
import ClientWrap.Wrapper.Traces

/-!
# The file of a clientset

The emitted file declares a wrapper for the clientset, one for every client and one for every
resource, each with the methods of what it wraps, and the functions `Wrap` and, if asked for,
`NewForConfig` that make the wrapper of a clientset.
-/

namespace ClientWrap

open ClientWrap.Code

/-- What is decided for an emitted file besides its instrumentation. -/
structure RenderOptions where
  package : String
  restPackage : String
  newForConfig : Bool

namespace Instrumentation

/-- The parameters for carried values. -/
def stateParams (state : List Carried) : List (String × GoType) :=
  state.map fun v => (v.param, v.type)

/-- The arguments that pass carried values on. -/
def stateArgs (state : List Carried) : List Expr :=
  state.map fun v => .name v.param

/-- The arguments that pass the further parameters of `Wrap` and `NewForConfig` on. -/
def clientsetArgs (ins : Instrumentation) : List Expr :=
  ins.clientsetParams.map fun p => .name p.1

/-- The fields of a wrapper: what it wraps and the values that it carries. -/
def wrapperFields (type : GoType) (state : List Carried) : List (String × GoType) :=
  ("inner", type) :: state.map fun v => (v.field, v.type)

/-- The function that wraps a clientset. -/
def wrapFunc (ins : Instrumentation) (cs : Clientset) : Func where
  receiver := none
  name := "Wrap"
  params := ("inner", cs.type) :: ins.clientsetParams
  results := [cs.type]
  body :=
    [.giveFresh "clientset" <| ("inner", .name "inner") :: cs.clients.map fun c =>
      let access := Expr.call (.select (.name "inner") c.name) []
      (c.field, .call (.name c.constructor) (access :: ins.clientsetArgs))]

/-- The function that makes a clientset for a configuration and wraps it. -/
def newForConfigFunc (ins : Instrumentation) (restPackage : String) (cs : Clientset) : Func where
  receiver := none
  name := "NewForConfig"
  params := ("c", .pointer (.named restPackage "Config")) :: ins.clientsetParams
  results := [cs.type, .builtin "error"]
  body :=
    [.step (.define ["inner", "err"]
        (.call (.qualified cs.package "NewForConfig") [.name "c"])),
      .ifPresent "err" [.give [.name "nil", .name "err"]],
      .step (.give
        [.call (.name "Wrap") (.name "inner" :: ins.clientsetArgs), .name "nil"])]

/-- A passed-through method of a wrapper. -/
def directItems (receiver : String) (m : Method) : List Item :=
  [.comment (m.name ++ " is NOT instrumented"), .func (m.passThrough receiver)]

/-- The type that wraps the clientset. -/
def clientsetStruct (cs : Clientset) : Struct :=
  ⟨"clientset", ("inner", cs.type) :: cs.clients.map fun c => (c.field, c.type)⟩

/-- The accessor of a wrapped client. -/
def clientAccessor (c : Client) : Func where
  receiver := some "clientset"
  name := c.name
  params := []
  results := c.accessor.results
  body := [.step (.give [.select (.name "c") c.field])]

/-- A member of the wrapper of the clientset. -/
def clientsetMemberItems : Member Client → List Item
  | .direct m => directItems "clientset" m
  | .wrapped c => [.func (clientAccessor c)]

/-- The wrapper of the clientset. -/
def clientsetItems (cs : Clientset) : List Item :=
  [.gap, .comment "clientset wrapper", .struct (clientsetStruct cs), .gap] ++
    cs.members.flatMap clientsetMemberItems

/-- The function that makes a wrapper. -/
def constructorFunc (name wrapper : String) (type : GoType) (state : List Carried) : Func where
  receiver := none
  name := name
  params := ("inner", type) :: stateParams state
  results := [type]
  body := [.step (.give [.fresh wrapper (.name "inner" :: stateArgs state)])]

/-- The type of a wrapper and the function that makes it. -/
def wrapperItems (constructor wrapper : String) (type : GoType) (state : List Carried) :
    List Item :=
  [.gap, .comment (wrapper ++ " wrapper"), .struct ⟨wrapper, wrapperFields type state⟩, .gap,
    .func (constructorFunc constructor wrapper type state)]

/-- The accessor of a wrapped resource. -/
def resourceAccessor (ins : Instrumentation) (c : Client) (r : Resource) : Func where
  receiver := some c.wrapper
  name := r.name
  params := r.namespaceParam
  results := r.accessor.results
  body := ins.accessorBody c r

/-- A member of the wrapper of a client. -/
def clientMemberItems (ins : Instrumentation) (c : Client) : Member Resource → List Item
  | .direct m => directItems c.wrapper m
  | .wrapped r => [.func (ins.resourceAccessor c r)]

/-- The wrapper of a client. -/
def clientItems (ins : Instrumentation) (c : Client) : List Item :=
  wrapperItems c.constructor c.wrapper c.type ins.clientState ++
    c.members.flatMap (ins.clientMemberItems c)

/-- An operation of the wrapper of a resource. -/
def operationFunc (ins : Instrumentation) (c : Client) (r : Resource) (m : Method) : Func :=
  m.wrapperFunc (r.wrapper c) (ins.operationBody c r m)

/-- The wrapper of a resource. -/
def resourceItems (ins : Instrumentation) (c : Client) (r : Resource) : List Item :=
  wrapperItems (r.constructor c) (r.wrapper c) r.type ins.resourceState ++
    r.operations.map fun m => .func (ins.operationFunc c r m)

/-- The declarations for a clientset. -/
def items (ins : Instrumentation) (o : RenderOptions) (cs : Clientset) : List Item :=
  [.gap, .comment "Wrap", .func (ins.wrapFunc cs)] ++
    (if o.newForConfig then
      [.gap, .comment "NewForConfig", .func (ins.newForConfigFunc o.restPackage cs)]
    else []) ++
    clientsetItems cs ++
    cs.clients.flatMap ins.clientItems ++
    cs.clients.flatMap fun c => c.resources.flatMap (ins.resourceItems c)

/-- The packages that a file needs besides those of the signatures. -/
def extraPackages (ins : Instrumentation) (o : RenderOptions) (cs : Clientset) : List String :=
  ins.packages cs ++ if o.newForConfig then [o.restPackage] else []

/-- The file for a clientset. There is none when two imported packages have one alias. -/
def render (ins : Instrumentation) (o : RenderOptions) (cs : Clientset) :
    Except Error File := do
  let imports := cs.imports (ins.extraPackages o cs)
  Clientset.checkAliases imports
  return ⟨o.package, imports, ins.items o cs⟩

end Instrumentation

end ClientWrap
