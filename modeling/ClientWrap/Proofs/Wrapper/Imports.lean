import ClientWrap.Proofs.Clientset.Walkable
import ClientWrap.Proofs.Code.Pieces
import ClientWrap.Proofs.Method.Detection
import ClientWrap.Proofs.Wrapper.Methods

/-!
# Imports

The declarations for the clientset of a walk refer to the packages that its types mention, to those
that the instrumentation adds, and to the one of the configuration (`Instrumentation.mem_packages`).
An instrumentation states what it adds (`IsTemplate.mem_added`), so the imported packages are those
that the text after the import block refers to (`imports_of_render`).
-/

namespace ClientWrap

open ClientWrap.Code ClientWrap.Text

variable {p : String}

/-! ### What a walk gives -/

/-- What the members of a wrapper contribute, given what each of them does. -/
theorem Member.mem_flatMap {α β : Type} {members : List (Member α)} {f : Member α → List β}
    {b : β} {P : Method → Prop} {Q : α → Prop} (hdirect : ∀ m, b ∈ f (.direct m) ↔ P m)
    (hwrapped : ∀ item ∈ members.filterMap item?, b ∈ f (.wrapped item) ↔ Q item) :
  b ∈ members.flatMap f
    ↔ (∃ m, .direct m ∈ members ∧ P m) ∨ ∃ item ∈ members.filterMap item?, Q item
  := by
  have hitem : ∀ item, .wrapped item ∈ members ↔ item ∈ members.filterMap item? := by
    intro item
    rw [List.mem_filterMap]
    constructor
    · intro h
      exact ⟨_, h, rfl⟩
    · rintro ⟨member, hmember, h⟩
      cases member with
      | direct _ => contradiction
      | wrapped _ =>
          obtain rfl := Option.some.inj h
          apply hmember
  rw [List.mem_flatMap]
  constructor
  · rintro ⟨member, hmember, hb⟩
    cases member with
    | direct m => exact Or.inl ⟨m, hmember, (hdirect m).mp hb⟩
    | wrapped item =>
        have hmem := (hitem item).mp hmember
        exact Or.inr ⟨item, hmem, (hwrapped item hmem).mp hb⟩
  · rintro (⟨m, hm, hP⟩ | ⟨item, hmem, hQ⟩)
    · exact ⟨_, hm, (hdirect m).mpr hP⟩
    · exact ⟨_, (hitem item).mpr hmem, (hwrapped item hmem).mpr hQ⟩

/-- The only result of the accessor is the interface of the resource, and it has at most one
parameter. -/
structure Resource.Accessed (r : Resource) : Prop where
  results : r.accessor.results = [r.type]
  params : r.accessor.params.take 1 = r.accessor.params

/-- The only result of the accessor is the interface of the client, and it has no parameters. -/
structure Client.Accessed (c : Client) : Prop where
  results : c.accessor.results = [c.type]
  params : c.accessor.params = []
  resources : ∀ r ∈ c.resources, r.Accessed

/-- The root interface has a name, and accessors give the clients. -/
structure Clientset.Accessed (cs : Clientset) : Prop where
  named : ∃ name, cs.type = .named cs.package name
  clients : ∀ c ∈ cs.clients, c.Accessed

/-- In the clientset of a walk accessors give the clients and resources. -/
theorem Schema.IsClientset.accessed {s : Schema} {ex : Exclusions} {cs : Clientset}
    (h : s.IsClientset ex cs) :
  cs.Accessed
  := by
  constructor
  · obtain ⟨htype, ms, hms, -⟩ := h
    obtain ⟨package, name, hroot⟩ := isQualified_of_methods? hms
    use name
    rw [Clientset.package, htype, hroot]
  · intro c hc
    obtain ⟨m, t, hclient⟩ := h.exists_isClient hc
    obtain ⟨_, -, hclients⟩ := h.represents
    obtain ⟨_, -, hresources⟩ := hclient.represents
    constructor
    · apply hclients.results c hc
    · rw [hclient.accessor, hclient.params]
    · intro r hr
      obtain ⟨n, u, hresource⟩ := hclient.exists_isResource hr
      use hresources.results r hr
      apply List.take_of_length_le hresource.takesNamespace.length

/-- The accessor of a client mentions what its type mentions. -/
theorem Client.Accessed.mem_mentioned {c : Client} (h : c.Accessed) :
  p ∈ c.accessor.mentioned ↔ p ∈ c.type.mentioned
  := by
  simp [Method.mentioned, h.params, h.results]

/-- Some type in a method of the clientset, its clients or resources mentions the package, or the
name of the root interface does. -/
def Clientset.Mentions (cs : Clientset) (p : String) : Prop :=
  p ∈ cs.type.mentioned ∨ ∃ m ∈ cs.allMethods, p ∈ m.mentioned

/-- Some type in a method of the client or its resources mentions the package. -/
def Client.Mentions (c : Client) (p : String) : Prop :=
  p ∈ c.accessor.mentioned ∨ (∃ m, .direct m ∈ c.members ∧ p ∈ m.mentioned)
    ∨ ∃ r ∈ c.resources, p ∈ r.accessor.mentioned ∨ ∃ m ∈ r.operations, p ∈ m.mentioned

/-- The packages of all methods are those of the methods that are passed through and of the
clients. -/
theorem Clientset.exists_mem_allMethods {cs : Clientset} :
  (∃ m ∈ cs.allMethods, p ∈ m.mentioned)
    ↔ (∃ m, .direct m ∈ cs.members ∧ p ∈ m.mentioned) ∨ ∃ c ∈ cs.clients, c.Mentions p
  := by
  rw [allMethods, ← List.mem_flatMap, List.flatMap_assoc]
  apply Member.mem_flatMap
  · simp
  · intro c _
    rw [List.flatMap_cons, List.mem_append, List.flatMap_assoc]
    apply or_congr_right
    apply Member.mem_flatMap
    · simp
    · intro r _
      rw [List.flatMap_cons, List.mem_append, List.mem_flatMap]

/-! ### What the declarations refer to -/

/-- Names use no packages. -/
theorem Code.Expr.packagesAll_names {α : Type} (l : List α) (name : α → String) :
  packagesAll (l.map fun a => .name (name a)) = []
  := by
  rw [packagesAll_eq_flatMap, List.flatMap_map]
  simp [packages]

namespace Method

/-- The arguments of a call that is passed on use no packages. -/
theorem packagesAll_args (m : Method) :
  Expr.packagesAll m.args = []
  := by
  rw [Expr.packagesAll_eq_flatMap, List.flatMap_eq_nil_iff]
  intro e he
  obtain ⟨⟨t, i⟩, -, rfl⟩ := List.mem_map.mp he
  simp only
  split <;> rfl

/-- The call of the wrapped method uses the packages of its arguments. -/
theorem packages_innerCall (m : Method) (args : List Expr) :
  (m.innerCall args).packages = Expr.packagesAll args
  := rfl

/-- Passing a call on uses no packages. -/
@[simp]
theorem packages_passOn (m : Method) :
  m.passOn.packages = []
  := by
  rw [passOn]
  split <;> simp [Step.packages, packages_innerCall, packagesAll_args, Expr.packagesAll]

/-- A method of a wrapper refers to the packages of its signature and of its body. -/
theorem packages_wrapperFunc (m : Method) (receiver : String) (body : List Stmt) :
  (m.wrapperFunc receiver body).packages = m.mentioned ++ body.flatMap Stmt.packages
  := by
  have hparams : m.namedParams.flatMap (fun q => q.2.mentioned)
      = m.params.flatMap GoType.mentioned := by
    rw [← m.map_snd_namedParams, List.flatMap_map]
  rw [wrapperFunc, Func.packages, hparams, mentioned, List.flatMap_append]

/-- A method that is passed through uses the packages of its signature. -/
theorem packages_passThrough (m : Method) (receiver : String) :
  (m.passThrough receiver).packages = m.mentioned
  := by
  rw [passThrough, packages_wrapperFunc]
  simp [Stmt.packages]

end Method

namespace Instrumentation

variable {ins : Instrumentation} {o : RenderOptions} {cs : Clientset}

/-- The packages that the types of parameters mention. -/
def paramPackages (params : List (String × GoType)) : List String :=
  params.flatMap fun p => p.2.mentioned

/-- The packages that the types of carried values mention. -/
def statePackages (state : List Carried) : List String :=
  state.flatMap fun v => v.type.mentioned

/-- The packages that the instrumentation of a resource refers to. -/
def resourcePackages (ins : Instrumentation) (c : Client) (r : Resource) : List String :=
  statePackages ins.resourceState ++ (ins.accessorBody c r).flatMap Stmt.packages
    ++ r.operations.flatMap fun m => (ins.operationBody c r m).flatMap Stmt.packages

/-- The packages that the instrumentation of a client and of its resources refers to. -/
def clientPackages (ins : Instrumentation) (c : Client) : List String :=
  statePackages ins.clientState ++ c.resources.flatMap (ins.resourcePackages c)

/-- The packages that the instrumentation of a clientset refers to. -/
def added (ins : Instrumentation) (cs : Clientset) : List String :=
  paramPackages ins.clientsetParams ++ cs.clients.flatMap ins.clientPackages

/-- What a wrapper carries is passed on by name. -/
@[simp]
theorem packagesAll_stateArgs (state : List Carried) :
  Expr.packagesAll (stateArgs state) = []
  := Expr.packagesAll_names state Carried.param

/-- The further arguments of `Wrap` are names. -/
@[simp]
theorem packagesAll_clientsetArgs (ins : Instrumentation) :
  Expr.packagesAll ins.clientsetArgs = []
  := Expr.packagesAll_names ins.clientsetParams Prod.fst

/-- The parts of a method that is passed through use the packages of its signature. -/
theorem packages_directItems (receiver : String) (m : Method) :
  (directItems receiver m).flatMap Item.packages = m.mentioned
  := by
  simp [directItems, Item.packages, m.packages_passThrough]

/-- The struct of a wrapper uses the packages of what it wraps and of what it carries. -/
theorem packages_wrapperStruct (wrapper : String) (type : GoType) (state : List Carried) :
  Struct.packages ⟨wrapper, wrapperFields type state⟩ = type.mentioned ++ statePackages state
  := by
  simp [Struct.packages, wrapperFields, statePackages, List.flatMap_map]

/-- The constructor of a wrapper uses the packages of what it wraps and of what it carries. -/
theorem packages_constructorFunc (name wrapper : String) (type : GoType) (state : List Carried) :
  (constructorFunc name wrapper type state).packages
    = type.mentioned ++ statePackages state ++ type.mentioned
  := by
  simp [constructorFunc, Func.packages, stateParams, statePackages, Stmt.packages, Step.packages,
    Expr.packages, Expr.packagesAll, List.flatMap_map]

/-- A title over a function uses no packages. -/
theorem packages_titled (title : String) (f : Func) :
  [Item.gap, .comment title, .func f].flatMap Item.packages = f.packages
  := by
  simp [Item.packages]

/-- `Wrap` uses the packages of the root interface and of its further parameters. -/
theorem packages_wrapFunc (ins : Instrumentation) (cs : Clientset) :
  (ins.wrapFunc cs).packages
    = cs.type.mentioned ++ paramPackages ins.clientsetParams ++ cs.type.mentioned
  := by
  simp [wrapFunc, Func.packages, paramPackages, Stmt.packages, Expr.packages, Expr.packagesAll,
    List.flatMap_map]

/-- `NewForConfig` uses the packages of the configuration, the root interface and its further
parameters. -/
theorem packages_newForConfigFunc (ins : Instrumentation) (restPackage : String)
    (cs : Clientset) :
  (ins.newForConfigFunc restPackage cs).packages
    = restPackage :: (paramPackages ins.clientsetParams ++ cs.type.mentioned ++ [cs.package])
  := by
  simp [newForConfigFunc, Func.packages, paramPackages, GoType.mentioned, Stmt.packages,
    Step.packages, Expr.packages, Expr.packagesAll]

/-- The struct of the clientset uses the packages of the root interface and the clients. -/
theorem packages_clientsetStruct (cs : Clientset) :
  (clientsetStruct cs).packages
    = cs.type.mentioned ++ cs.clients.flatMap fun c => c.type.mentioned
  := by
  simp [clientsetStruct, Struct.packages, List.flatMap_map]

/-- The accessor of a client uses the packages of its type. -/
theorem packages_clientAccessor {c : Client} (h : c.Accessed) :
  (clientAccessor c).packages = c.type.mentioned
  := by
  simp [clientAccessor, Func.packages, h.results, Stmt.packages, Step.packages, Expr.packages,
    Expr.packagesAll]

/-- The accessor of a resource uses the packages of its signature and its body. -/
theorem packages_resourceAccessor (c : Client) {r : Resource} (h : r.Accessed) :
  (ins.resourceAccessor c r).packages
    = r.accessor.mentioned ++ (ins.accessorBody c r).flatMap Stmt.packages
  := by
  simp [resourceAccessor, Func.packages, Resource.namespaceParam, h.params, Method.mentioned,
    List.flatMap_map]

/-- The struct and the constructor of a wrapper use the packages of what it wraps and of what it
carries. -/
theorem packages_wrapperItems (constructor wrapper : String) (type : GoType)
    (state : List Carried) :
  (wrapperItems constructor wrapper type state).flatMap Item.packages
    = type.mentioned ++ statePackages state
      ++ (type.mentioned ++ statePackages state ++ type.mentioned)
  := by
  simp [wrapperItems, Item.packages, packages_wrapperStruct, packages_constructorFunc]

/-- The wrapper of the clientset refers to the packages of the root interface, of the clients and of
the methods that are passed through. -/
theorem mem_packages_clientsetItems (h : cs.Accessed) :
  p ∈ (clientsetItems cs).flatMap Item.packages
    ↔ p ∈ cs.type.mentioned ∨ (∃ m, .direct m ∈ cs.members ∧ p ∈ m.mentioned)
      ∨ ∃ c ∈ cs.clients, p ∈ c.type.mentioned
  := by
  have hmembers : p ∈ (cs.members.flatMap clientsetMemberItems).flatMap Item.packages
      ↔ (∃ m, .direct m ∈ cs.members ∧ p ∈ m.mentioned)
        ∨ ∃ c ∈ cs.clients, p ∈ c.type.mentioned := by
    rw [List.flatMap_assoc]
    apply Member.mem_flatMap
    · intro m
      rw [clientsetMemberItems, packages_directItems]
    · intro c hc
      simp [clientsetMemberItems, Item.packages, packages_clientAccessor (h.clients c hc)]
  rw [clientsetItems, List.flatMap_append, List.mem_append, hmembers]
  simp only [List.flatMap_cons, List.flatMap_nil, Item.packages, packages_clientsetStruct,
    List.nil_append, List.append_nil, List.mem_append, List.mem_flatMap]
  grind

/-- The wrapper of a client refers to the packages of its interface, of the values that it carries,
of the methods that are passed through and of the accessors. -/
theorem mem_packages_clientItems {c : Client} (h : c.Accessed) :
  p ∈ (ins.clientItems c).flatMap Item.packages
    ↔ p ∈ c.type.mentioned ∨ p ∈ statePackages ins.clientState
      ∨ (∃ m, .direct m ∈ c.members ∧ p ∈ m.mentioned)
      ∨ ∃ r ∈ c.resources, p ∈ r.accessor.mentioned
        ∨ p ∈ (ins.accessorBody c r).flatMap Stmt.packages
  := by
  have hmembers : p ∈ (c.members.flatMap (ins.clientMemberItems c)).flatMap Item.packages
      ↔ (∃ m, .direct m ∈ c.members ∧ p ∈ m.mentioned)
        ∨ ∃ r ∈ c.resources, p ∈ r.accessor.mentioned
          ∨ p ∈ (ins.accessorBody c r).flatMap Stmt.packages := by
    rw [List.flatMap_assoc]
    apply Member.mem_flatMap
    · intro m
      rw [clientMemberItems, packages_directItems]
    · intro r hr
      rw [← List.mem_append, ← packages_resourceAccessor c (h.resources r hr)]
      simp [clientMemberItems, Item.packages]
  rw [clientItems, List.flatMap_append, List.mem_append, hmembers, packages_wrapperItems]
  simp only [List.mem_append]
  grind

/-- The wrapper of a resource refers to the packages of its interface, of the values that it carries
and of the operations. -/
theorem mem_packages_resourceItems {c : Client} {r : Resource} :
  p ∈ (ins.resourceItems c r).flatMap Item.packages
    ↔ p ∈ r.type.mentioned ∨ p ∈ statePackages ins.resourceState
      ∨ ∃ m ∈ r.operations, p ∈ m.mentioned
        ∨ p ∈ (ins.operationBody c r m).flatMap Stmt.packages
  := by
  have hoperations :
      (r.operations.map fun m => Item.func (ins.operationFunc c r m)).flatMap Item.packages
        = r.operations.flatMap fun m =>
          m.mentioned ++ (ins.operationBody c r m).flatMap Stmt.packages := by
    simp only [List.flatMap_map, Item.packages, operationFunc, Method.packages_wrapperFunc]
  rw [resourceItems, List.flatMap_append, List.mem_append, hoperations, packages_wrapperItems]
  simp only [List.mem_append, List.mem_flatMap (b := p)]
  grind

/-- What an instrumentation adds for a resource is in its state, its accessor or its operations. -/
theorem mem_resourcePackages {c : Client} {r : Resource} :
  p ∈ ins.resourcePackages c r
    ↔ p ∈ statePackages ins.resourceState ∨ p ∈ (ins.accessorBody c r).flatMap Stmt.packages
      ∨ ∃ m ∈ r.operations, p ∈ (ins.operationBody c r m).flatMap Stmt.packages
  := by
  rw [resourcePackages, List.mem_append, List.mem_append, List.mem_flatMap (l := r.operations),
    or_assoc]

/-- What an instrumentation adds for a client is in its state or in what it adds for a resource. -/
theorem mem_clientPackages {c : Client} :
  p ∈ ins.clientPackages c
    ↔ p ∈ statePackages ins.clientState ∨ ∃ r ∈ c.resources, p ∈ ins.resourcePackages c r
  := by
  rw [clientPackages, List.mem_append, List.mem_flatMap]

/-- The wrappers of a client and its resources refer to the packages of their methods and to those
of the instrumentation. -/
theorem mem_packages_client {c : Client} (h : c.Accessed) :
  (p ∈ (ins.clientItems c).flatMap Item.packages
      ∨ ∃ r ∈ c.resources, p ∈ (ins.resourceItems c r).flatMap Item.packages)
    ↔ c.Mentions p ∨ p ∈ ins.clientPackages c
  := by
  have hresource : ∀ r ∈ c.resources, p ∈ r.type.mentioned → p ∈ r.accessor.mentioned := by
    intro r hr hp
    simp [Method.mentioned, (h.resources r hr).results, hp]
  rw [mem_packages_clientItems h, Client.Mentions, h.mem_mentioned, mem_clientPackages]
  simp only [mem_packages_resourceItems, mem_resourcePackages]
  grind

/-- The parts of the clients use what the clients mention and what the instrumentation adds for
them. -/
theorem mem_packages_clients (h : cs.Accessed) :
  (p ∈ (cs.clients.flatMap ins.clientItems).flatMap Item.packages
      ∨ p ∈ (cs.clients.flatMap fun c =>
        c.resources.flatMap (ins.resourceItems c)).flatMap Item.packages)
    ↔ ∃ c ∈ cs.clients, c.Mentions p ∨ p ∈ ins.clientPackages c
  := by
  rw [List.flatMap_assoc, List.flatMap_assoc, List.mem_flatMap, List.mem_flatMap, ← exists_or]
  apply exists_congr
  intro c
  rw [← and_or_left]
  apply and_congr_right
  intro hc
  rw [List.flatMap_assoc, List.mem_flatMap (l := c.resources),
    mem_packages_client (h.clients c hc)]

/-- The functions for callers use what the root interface mentions, their further parameters and the
package of the configuration. -/
theorem mem_packages_funcs (h : cs.Accessed) :
  p ∈ ([Item.gap, .comment "Wrap", .func (ins.wrapFunc cs)] ++
      if o.newForConfig then
        [Item.gap, .comment "NewForConfig", .func (ins.newForConfigFunc o.restPackage cs)]
      else []).flatMap Item.packages
    ↔ p ∈ cs.type.mentioned ∨ p ∈ paramPackages ins.clientsetParams
      ∨ o.newForConfig ∧ p = o.restPackage
  := by
  have hpackage : cs.package ∈ cs.type.mentioned := by
    obtain ⟨name, hname⟩ := h.named
    rw [hname]
    apply List.mem_singleton_self
  rw [List.flatMap_append, List.mem_append, packages_titled, packages_wrapFunc]
  split
  · rw [packages_titled, packages_newForConfigFunc]
    grind
  · grind

/-- The declarations for a clientset refer to the packages that its types mention, to those that the
instrumentation adds and to the one of the configuration. -/
theorem mem_packages_items (h : cs.Accessed) :
  p ∈ (ins.items o cs).flatMap Item.packages
    ↔ cs.Mentions p ∨ p ∈ ins.added cs ∨ o.newForConfig ∧ p = o.restPackage
  := by
  have hadded : p ∈ ins.added cs ↔ p ∈ paramPackages ins.clientsetParams
      ∨ ∃ c ∈ cs.clients, p ∈ ins.clientPackages c := by
    rw [added, List.mem_append, List.mem_flatMap]
  have hclient : ∀ c ∈ cs.clients, p ∈ c.type.mentioned → c.Mentions p := by
    intro c hc hp
    apply Or.inl ((h.clients c hc).mem_mentioned.mpr hp)
  rw [items, List.flatMap_append, List.flatMap_append, List.mem_append, List.mem_append,
    or_assoc, mem_packages_clients h, List.flatMap_append, List.mem_append, mem_packages_funcs h,
    mem_packages_clientsetItems h, hadded, Clientset.Mentions, Clientset.exists_mem_allMethods]
  grind

end Instrumentation

/-! ### What the instrumentations add -/

/-- The namespace of a resource is passed on by name. -/
theorem Resource.packagesAll_namespaceArg (r : Resource) :
  Expr.packagesAll r.namespaceArg = []
  := Expr.packagesAll_names r.namespaceParam Prod.fst

/-- The access to what a resource wraps uses no packages. -/
theorem Resource.packages_innerAccess (r : Resource) :
  r.innerAccess.packages = []
  := r.packagesAll_namespaceArg

namespace Metrics

/-- The accessor of a counted resource uses the package of the metrics. -/
theorem packages_accessorBody (package : String) (c : Client) (r : Resource) :
  (accessorBody package c r).flatMap Stmt.packages = [package]
  := by
  have harg := r.packagesAll_namespaceArg
  rw [Expr.packagesAll_eq_flatMap] at harg
  simp [accessorBody, makeRecorder, Stmt.packages, Step.packages, Expr.packages,
    Expr.packagesAll_eq_flatMap, harg, r.packages_innerAccess]

/-- A counted operation adds no packages. -/
theorem packages_operationBody (m : Method) :
  (operationBody m).flatMap Stmt.packages = []
  := by
  rw [operationBody, List.flatMap_cons, List.flatMap_cons, Stmt.packages, Stmt.packages,
    m.packages_passOn]
  rfl

/-- The instrumentation that counts calls adds its package to every clientset. -/
theorem mem_added {package : String} {cs : Clientset} :
  p ∈ (instrumentation package).added cs ↔ p = package
  := by
  have hparams : Instrumentation.paramPackages (instrumentation package).clientsetParams
      = [package, package] := rfl
  have hstate : Instrumentation.statePackages (instrumentation package).clientState
      = [package, package] := rfl
  constructor
  · intro hp
    rw [Instrumentation.added, hparams, List.mem_append, List.mem_flatMap] at hp
    rcases hp with hp | ⟨c, -, hp⟩
    · simpa using hp
    rw [Instrumentation.mem_clientPackages, hstate] at hp
    rcases hp with hp | ⟨r, -, hp⟩
    · simpa using hp
    · rw [Instrumentation.mem_resourcePackages] at hp
      rcases hp with hp | hp | ⟨m, -, hp⟩
      · apply List.mem_singleton.mp hp
      · change p ∈ (accessorBody package c r).flatMap Stmt.packages at hp
        rw [packages_accessorBody] at hp
        apply List.mem_singleton.mp hp
      · change p ∈ (operationBody m).flatMap Stmt.packages at hp
        rw [packages_operationBody] at hp
        contradiction
  · rintro rfl
    rw [Instrumentation.added, hparams]
    simp

end Metrics

/-- The method is an operation of a resource of the clientset. -/
def Clientset.IsOperation (cs : Clientset) (m : Method) : Prop :=
  ∃ c ∈ cs.clients, ∃ r ∈ c.resources, m ∈ r.operations

namespace Traces

variable {t : TracingSettings} {component : String} {cs : Clientset}

/-- The traced operations are those with a context. -/
theorem mem_tracedOperations {m : Method} :
  m ∈ tracedOperations cs ↔ cs.IsOperation m ∧ m.hasContext
  := by
  simp only [tracedOperations, List.mem_flatMap, Resource.traced, List.mem_filter,
    Clientset.IsOperation]
  grind

/-- The start of a span uses the packages of the tracing and of the attributes. -/
theorem packages_startSpan (t : TracingSettings) (component : String) (c : Client) (r : Resource)
    (m : Method) :
  (startSpan t component c r m).packages
    = t.package :: List.replicate 4 t.attributePackage
  := by
  simp [startSpan, Stmt.packages, Expr.packages, Expr.packagesAll, label, List.replicate]

/-- A call that can give back an error uses the package of the codes. -/
theorem packages_observedCall (t : TracingSettings) (m : Method) :
  (observedCall t m).flatMap Stmt.packages = if m.hasError then [t.codesPackage] else []
  := by
  have hrets : Expr.packagesAll (m.rets.map .name) = [] := Expr.packagesAll_names m.rets id
  rw [observedCall, Method.hasError]
  cases m.errorIndex? with
  | none => simp [Stmt.packages]
  | some i =>
      simp [Stmt.packages, Step.packages, Method.packages_innerCall, Method.packagesAll_args,
        onSpan, Expr.packages, Expr.packagesAll, hrets]

/-- The body of an operation refers to packages only if the operation is traced. -/
theorem mem_packages_operationBody {c : Client} {r : Resource} {m : Method} :
  p ∈ (operationBody t component c r m).flatMap Stmt.packages
    ↔ m.hasContext ∧ (p = t.package ∨ p = t.attributePackage ∨ m.hasError ∧ p = t.codesPackage)
  := by
  rw [operationBody]
  split
  · next h =>
      rw [List.flatMap_append, List.mem_append, packages_observedCall, List.flatMap_cons,
        packages_startSpan]
      simp [Stmt.packages, Step.packages, onSpan, Expr.packages, Expr.packagesAll, h, or_assoc]
  · next h => simp [Stmt.packages, h]

/-- The accessor of a traced resource adds no packages. -/
theorem packages_accessorBody (c : Client) (r : Resource) :
  (accessorBody c r).flatMap Stmt.packages = []
  := by
  simp [accessorBody, Stmt.packages, Step.packages, Expr.packages, Expr.packagesAll,
    r.packages_innerAccess]

/-- The instrumentation that reports spans adds packages only for traced operations. -/
theorem mem_added :
  p ∈ (instrumentation t component).added cs
    ↔ (∃ m, cs.IsOperation m ∧ m.hasContext) ∧ (p = t.package ∨ p = t.attributePackage)
      ∨ (∃ m, cs.IsOperation m ∧ m.hasContext ∧ m.hasError) ∧ p = t.codesPackage
  := by
  have hresource : ∀ c r, p ∈ (instrumentation t component).resourcePackages c r
      ↔ ∃ m ∈ r.operations, m.hasContext
        ∧ (p = t.package ∨ p = t.attributePackage ∨ m.hasError ∧ p = t.codesPackage) := by
    intro c r
    rw [Instrumentation.mem_resourcePackages]
    change p ∈ [] ∨ p ∈ (accessorBody c r).flatMap Stmt.packages
      ∨ (∃ m ∈ r.operations, p ∈ (operationBody t component c r m).flatMap Stmt.packages) ↔ _
    rw [packages_accessorBody]
    simp only [mem_packages_operationBody, List.not_mem_nil, false_or]
  have hadded : p ∈ (instrumentation t component).added cs
      ↔ ∃ c ∈ cs.clients, ∃ r ∈ c.resources,
        p ∈ (instrumentation t component).resourcePackages c r := by
    change p ∈ [] ++ (cs.clients.flatMap fun c =>
      [] ++ c.resources.flatMap ((instrumentation t component).resourcePackages c)) ↔ _
    simp only [List.nil_append, List.mem_flatMap]
  rw [hadded]
  simp only [hresource, Clientset.IsOperation]
  grind

/-- Traces use the packages of the tracing and the attributes if some operation is traced, and that
of the codes if one of these can give back an error. -/
theorem mem_packages :
  p ∈ packages t cs
    ↔ (∃ m, cs.IsOperation m ∧ m.hasContext) ∧ (p = t.package ∨ p = t.attributePackage)
      ∨ (∃ m, cs.IsOperation m ∧ m.hasContext ∧ m.hasError) ∧ p = t.codesPackage
  := by
  have hempty : (tracedOperations cs).isEmpty = true ↔ ¬ ∃ m, cs.IsOperation m ∧ m.hasContext := by
    simp only [← mem_tracedOperations, List.isEmpty_iff, List.eq_nil_iff_forall_not_mem, not_exists]
  have hany : (tracedOperations cs).any Method.hasError = true
      ↔ ∃ m, cs.IsOperation m ∧ m.hasContext ∧ m.hasError := by
    simp only [List.any_eq_true, mem_tracedOperations, and_assoc]
  simp only [packages, List.mem_append, hempty, hany]
  grind

end Traces

/-! ### The file -/

/-- The instrumentation states the packages that it adds. -/
theorem IsTemplate.mem_added {ins : Instrumentation} (h : IsTemplate ins) {cs : Clientset} :
  p ∈ ins.added cs ↔ p ∈ ins.packages cs
  := by
  cases h with
  | metrics package =>
      rw [Metrics.mem_added]
      apply List.mem_singleton.symm
  | traces t component =>
      rw [Traces.mem_added]
      apply Traces.mem_packages.symm

section

variable {ins : Instrumentation} {o : RenderOptions} {cs : Clientset} {file : File}

/-- A package is imported exactly if the clientset mentions it, the instrumentation lists it, or it
is that of the configuration. -/
theorem mem_imports_of_render (h : ins.render o cs = .ok file) (hp : p ≠ "") :
  p ∈ file.imports ↔ cs.Mentions p ∨ p ∈ ins.packages cs ∨ o.newForConfig ∧ p = o.restPackage
  := by
  obtain ⟨_, -, h⟩ := Outcome.bind_eq_ok.mp h
  rw [← Except.ok.inj h, Clientset.imports, List.mem_filter, mem_ascending, bne_iff_ne,
    and_iff_left hp, List.mem_append, List.mem_append, List.mem_flatMap, or_assoc,
    Instrumentation.extraPackages, List.mem_append, or_comm]
  have hrest : p ∈ (if o.newForConfig then [o.restPackage] else [])
      ↔ o.newForConfig ∧ p = o.restPackage := by
    cases o.newForConfig <;> simp
  rw [hrest]
  rfl

/-- A package stands in front of a name exactly if the clientset mentions it, the instrumentation
lists it, or it is that of the configuration. -/
theorem qualifier_mem_of_render (hins : IsTemplate ins) (hcs : cs.Accessed)
    (h : ins.render o cs = .ok file) :
  .qualifier p ∈ file.pieces
    ↔ cs.Mentions p ∨ p ∈ ins.packages cs ∨ o.newForConfig ∧ p = o.restPackage
  := by
  rw [← mem_qualifiers, File.qualifiers_pieces, File.packages, items_of_render h,
    Instrumentation.mem_packages_items hcs, hins.mem_added]

/-- The imported packages are those that the pieces of the file refer to. -/
theorem mem_imports_iff (hins : IsTemplate ins) (hcs : cs.Accessed)
    (h : ins.render o cs = .ok file) (hp : p ≠ "") :
  p ∈ file.imports ↔ .qualifier p ∈ file.pieces
  := by
  rw [qualifier_mem_of_render hins hcs h, mem_imports_of_render h hp]

end

/-- A method can give back an error exactly if the text of one of its results says so. -/
theorem Method.hasError_iff {m : Method} :
  m.hasError ↔ ∃ t ∈ m.results, t.text = "error"
  := by
  rw [hasError, Option.isSome_iff_ne_none, errorIndex?, ne_eq, lastErrorFrom_eq_none, not_not]
  simp only [GoType.text_eq_error, exists_eq_right]

/-- A file imports exactly the packages that the text after the import block refers to: those that
the types of the schema mention, the one of the configuration if there is a function for it, and
those of the instrumentation. The recorders are always there, spans only if some operation is
traced, and their codes only if some traced operation gives back an error. -/
theorem imports_of_render {s : Schema} {ex : Exclusions} {cs : Clientset}
    (hwalk : (s.walk ex).outcome = .ok cs) :
  (∀ ins o file, IsTemplate ins → ins.render o cs = .ok file →
    file.text = ofLines (preambleLines file.package file.imports) ++ printed file.pieces
    ∧ ∀ p, p ≠ "" → (p ∈ file.imports ↔ .qualifier p ∈ file.pieces))
  ∧ (∀ package o file, (Metrics.instrumentation package).render o cs = .ok file →
    ∀ p, p ≠ "" → (p ∈ file.imports
      ↔ cs.Mentions p ∨ p = package ∨ o.newForConfig ∧ p = o.restPackage))
  ∧ ∀ t component o file, (Traces.instrumentation t component).render o cs = .ok file →
    ∀ p, p ≠ "" → (p ∈ file.imports
      ↔ cs.Mentions p
        ∨ (∃ m, cs.IsOperation m ∧ m.hasContext) ∧ (p = t.package ∨ p = t.attributePackage)
        ∨ (∃ m, cs.IsOperation m ∧ m.hasContext ∧ ∃ u ∈ m.results, u.text = "error")
          ∧ p = t.codesPackage
        ∨ o.newForConfig ∧ p = o.restPackage)
  := by
  obtain ⟨hcs, -⟩ := Schema.walk_eq_ok.mp hwalk
  and_intros
  · intro ins o file hins h
    constructor
    · rw [file.printed_pieces, file.text_eq]
    · intro p hp
      apply mem_imports_iff hins hcs.accessed h hp
  · intro package o file h p hp
    rw [mem_imports_of_render h hp, ← (IsTemplate.metrics package).mem_added, Metrics.mem_added]
  · intro t component o file h p hp
    simp only [← Method.hasError_iff]
    rw [mem_imports_of_render h hp, ← (IsTemplate.traces t component).mem_added,
      Traces.mem_added, or_assoc]

/-- The clientset has a traced operation that gives back an error, and no function for a
configuration is asked for. -/
theorem imports_of_render_pod :
  ∃ s file, podSource.resolve = .ok s
    ∧ (s.walk Exclusions.default).outcome = .ok podClientset
    ∧ (Traces.instrumentation TracingSettings.default "pods").render
      ⟨"wrapped", "example.com/rest", false⟩ podClientset = .ok file
    ∧ .qualifier TracingSettings.default.codesPackage ∈ file.pieces
    ∧ .qualifier "example.com/rest" ∉ file.pieces
  := by
  have hfile : ((Traces.instrumentation TracingSettings.default "pods").render
      ⟨"wrapped", "example.com/rest", false⟩ podClientset).toOption.map File.imports
      = some ["context", "example.com/api/v1", "example.com/core/v1", "example.com/kubernetes",
        "github.com/kyverno/kyverno/pkg/tracing", "go.opentelemetry.io/otel/attribute",
        "go.opentelemetry.io/otel/codes"] := by decide +kernel
  obtain ⟨s, hresolve, hwalk⟩ := walk_podSource
  obtain ⟨file, hrender, hfile⟩ := Outcome.exists_of_toOption hfile
  use s, file, hresolve, hwalk, hrender
  obtain ⟨-, himports⟩ := (imports_of_render hwalk).1 _ _ file (IsTemplate.traces _ _) hrender
  rw [← himports _ (by decide), ← himports _ (by decide), hfile]
  decide

end ClientWrap
