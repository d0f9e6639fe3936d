import ClientWrap.Proofs.Clientset.Walkable
import ClientWrap.Proofs.Code.Outline
import ClientWrap.Proofs.Wrapper.Bodies

/-!
# Declarations and uses fit together

A file declares what it uses (`linked_of_render`): a call of one of its own functions has as many
arguments as the function has parameters, and a struct literal gives a value for each field. Every
client and every resource has one struct and one function that makes it.
-/

namespace ClientWrap

open ClientWrap.Code ClientWrap.Text Token

/-- What a function is for: its name, the structs that it makes and the functions of the file that
it calls. -/
structure Role where
  name : String
  makes : List String
  calls : List String
  deriving DecidableEq

/-- The role of a function as it is read. -/
def Code.FuncCode.role (f : FuncCode) : Role :=
  ⟨f.name, (literals (uses f.body)).map (·.1), (localCalls (uses f.body)).map (·.1)⟩

/-- The roles of the functions of a file: to wrap a clientset, to make one for a configuration, and
to make the wrapper of each client and of each resource. -/
def Clientset.roles (cs : Clientset) (newForConfig : Bool) : List Role :=
  ⟨"Wrap", ["clientset"], cs.clients.map Client.constructor⟩ ::
    ((if newForConfig then [⟨"NewForConfig", [], ["Wrap"]⟩] else [])
      ++ (cs.clients.map (fun c => ⟨c.constructor, [c.wrapper], []⟩)
        ++ cs.clients.flatMap fun c => c.resources.map fun r =>
          ⟨r.constructor c, [r.wrapper c], []⟩))

/-- The values are the parameters of the function in their order, which have the types of the fields
in their order. -/
structure Supplies (f : FuncCode) (s : StructCode) (values : List (List Token)) : Prop where
  values : values = f.params.map (·.take 1)
  types : f.params.map List.tail = s.fields.map List.tail

/-- Each entry of the literal begins with a key, and the keys are the names of all fields, which
differ. -/
def NamesFields (s : StructCode) (entries : List (List Token)) : Prop :=
  ∃ keys : List String, keys.Nodup
    ∧ List.Forall₂ (fun key entry => [word key, mark ':'] <+: entry) keys entries
    ∧ List.Forall₂ (fun key field => [word key] <+: field) keys s.fields

/-- No entry of the literal begins with a key. -/
def Positional (entries : List (List Token)) : Prop :=
  ∀ entry ∈ entries, ∀ key, ¬ [word key, mark ':'] <+: entry

/-- A struct literal without keys gives the parameters of its function to the fields. One with keys
stands in `Wrap` and names all fields. -/
structure Fills (f : FuncCode) (s : StructCode) (entries : List (List Token)) : Prop where
  positional : Positional entries → Supplies f s entries
  keyed : ¬ Positional entries → f.name = "Wrap" ∧ NamesFields s entries

/-- The calls and struct literals in the lines of a block. -/
def usesIn (block : String × List String) : List Use :=
  uses (tokens (ofLines block.2))

/-- What the lines of a file use fits what they declare. -/
structure Linked (cs : Clientset) (newForConfig : Bool) (ls : List String) : Prop where
  structs : (structsIn ls).map StructCode.name
    = "clientset" :: (cs.clients.map Client.wrapper
      ++ cs.clients.flatMap fun c => c.resources.map fun r => r.wrapper c)
  nodup_structs : ((structsIn ls).map StructCode.name).Nodup
  funcs : (funcsIn ls).map FuncCode.role = cs.roles newForConfig
  nodup_funcs : ((funcsIn ls).map FuncCode.name).Nodup
  /-- An accessor of a resource calls the function that makes the wrapper of the resource. -/
  accessors : ∀ c ∈ cs.clients, List.Forall₂
    (fun member block => (localCalls (usesIn block)).map (·.1)
      = (member.item?.map (Resource.constructor · c)).toList)
    c.members (braced ("func (c *" ++ c.wrapper ++ ") ") ls)
  /-- A function that is called without a qualifier is declared once, with as many parameters as the
  call has arguments. -/
  calls : ∀ block ∈ braced "func " ls, ∀ call ∈ localCalls (usesIn block),
    ∃ f, (funcsIn ls).filter (·.name = call.1) = [f] ∧ f.params.length = call.2.length
  /-- A struct literal stands in a function without a receiver and fills a struct that is declared
  once. -/
  literals : ∀ block ∈ braced "func " ls, ∀ literal ∈ literals (usesIn block),
    ∃ s f, (structsIn ls).filter (·.name = literal.1) = [s] ∧ funcCode? block = some f
      ∧ Fills f s literal.2
  /-- The clientset is made with a literal that names all its fields. -/
  wrap : ∃ f ∈ funcsIn ls, f.name = "Wrap" ∧ ∃ s ∈ structsIn ls, s.name = "clientset"
    ∧ ∃ entries, Code.literals (uses f.body) = [("clientset", entries)] ∧ NamesFields s entries

/-! ### Different names -/

/-- Among elements with different names, those with the name of one are that one. -/
theorem filter_eq_singleton {α : Type} {name : α → String} {as : List α} (h : (as.map name).Nodup)
    {a : α} (ha : a ∈ as) :
  as.filter (name · = name a) = [a]
  := by
  induction as with
  | nil => contradiction
  | cons b as ih =>
      rw [List.map_cons, List.nodup_cons] at h
      rcases List.mem_cons.mp ha with rfl | ha
      · rw [List.filter_cons_of_pos (by simp), List.filter_eq_nil_iff.mpr]
        intro b hb
        have hne := ne_of_mem_of_not_mem (List.mem_map_of_mem hb) h.1
        simpa using hne
      · have hne := ne_of_mem_of_not_mem (List.mem_map_of_mem ha) h.1
        rw [List.filter_cons_of_neg (by simpa using hne.symm), ih h.2 ha]

namespace Instrumentation

variable {ins : Instrumentation} {o : RenderOptions} {cs : Clientset}

/-- The constructors are named after the stems of clients and resources. -/
theorem map_name_constructors :
  (ins.constructors cs).map Func.name = cs.stems.map ("new" ++ ·)
  := by
  simp only [constructors, Clientset.stems, List.map_append, List.map_map, List.map_flatMap,
    Function.comp_def, Resource.new_stem]
  rfl

/-- The functions without a receiver have different names. -/
theorem nodup_outerFuncs (hnames : cs.names.Nodup) :
  ((ins.outerFuncs o cs).map Func.name).Nodup
  := by
  have hfixed : ∀ name ∈ ["Wrap", "NewForConfig"], name ∉ cs.stems.map ("new" ++ ·) := by
    have hlead : ∀ name ∈ ["Wrap", "NewForConfig"], ¬ BeginsWith "new" name := by decide
    intro name hname hmem
    obtain ⟨stem, -, rfl⟩ := List.mem_map.mp hmem
    apply hlead _ hname (beginsWith_append "new" stem)
  have hstems : (cs.stems.map ("new" ++ ·)).Nodup := by
    apply (Clientset.nodup_stems hnames).map
    intro stem stem' h
    simpa using h
  have hnew := List.nodup_cons.mpr ⟨hfixed "NewForConfig" (by decide), hstems⟩
  rw [outerFuncs, List.map_cons, List.map_append, map_name_constructors, List.nodup_cons,
    List.mem_append, not_or]
  change ("Wrap" ∉ _ ∧ "Wrap" ∉ _) ∧ _
  cases o.newForConfig with
  | false => exact ⟨⟨List.not_mem_nil, hfixed _ (by decide)⟩, hstems⟩
  | true => exact ⟨⟨by simp [newForConfigFunc], hfixed _ (by decide)⟩, hnew⟩

/-- The constructor of a client is a function of the file. -/
theorem constructor_mem_outerFuncs {c : Client} (hc : c ∈ cs.clients) :
  constructorFunc c.constructor c.wrapper c.type ins.clientState ∈ ins.outerFuncs o cs
  := by
  apply List.mem_cons_of_mem
  apply List.mem_append_right
  apply List.mem_append_left
  apply List.mem_map.mpr ⟨c, hc, rfl⟩

/-- The constructor of a resource is a function of the file. -/
theorem resource_constructor_mem_outerFuncs {c : Client} (hc : c ∈ cs.clients) {r : Resource}
    (hr : r ∈ c.resources) :
  constructorFunc (r.constructor c) (r.wrapper c) r.type ins.resourceState ∈ ins.outerFuncs o cs
  := by
  apply List.mem_cons_of_mem
  apply List.mem_append_right
  apply List.mem_append_right
  apply List.mem_flatMap.mpr ⟨c, hc, _⟩
  apply List.mem_map.mpr ⟨r, hr, rfl⟩

/-! ### Functions without a receiver -/

/-- `Wrap` calls the constructor of each client with the access to the client and its own further
parameters. -/
theorem localCalls_wrapFunc (hcs : cs.Proper) :
  localCalls ((ins.wrapFunc cs).body.flatMap Stmt.uses)
    = cs.clients.map fun c => (c.constructor, clientAccess c :: nameEntries ins.clientsetNames)
  := by
  have hfresh : ∀ (type : String) (entries : List (List Token)) (us : List Use),
      localCalls (.fresh type entries :: us) = localCalls us := by
    intro type entries us
    rfl
  rw [uses_wrapFunc, hfresh, localCalls_flatMap, List.map_eq_flatMap]
  apply List.flatMap_congr
  intro c hc
  have hconstructor := (hcs.client hc).isIdentifier_constructor
  have haccess : '.' ∈ ("inner." ++ c.name).toList := dot_mem_select "inner" c.name
  rw [localCalls_local (not_mem_of_isIdentifier hconstructor rfl), localCalls_qualified haccess]
  rfl

/-- The entries of the literal in `Wrap`. -/
def clientsetEntries (ins : Instrumentation) (cs : Clientset) : List (List Token) :=
  [word "inner", mark ':', word "inner"] ::
    cs.clients.map fun c => word c.field :: mark ':' :: ins.clientTokens c

/-- `Wrap` has one struct literal, of the clientset. -/
theorem literals_wrapFunc :
  literals ((ins.wrapFunc cs).body.flatMap Stmt.uses) = [("clientset", ins.clientsetEntries cs)]
  := by
  have hcalls : literals (cs.clients.flatMap fun c =>
      [.call c.constructor (clientAccess c :: nameEntries ins.clientsetNames),
        .call ("inner." ++ c.name) []]) = [] := by
    rw [literals, List.filterMap_flatMap, List.flatMap_eq_nil_iff]
    intro c _
    rfl
  rw [uses_wrapFunc, literals, List.filterMap_cons]
  rw [literals] at hcalls
  rw [hcalls]
  rfl

/-- `NewForConfig` calls `Wrap` with what it made and its own further parameters. -/
theorem localCalls_newForConfigFunc (restPackage : String) :
  localCalls ((ins.newForConfigFunc restPackage cs).body.flatMap Stmt.uses)
    = [("Wrap", nameEntries ("inner" :: ins.clientsetNames))]
  := by
  rw [uses_newForConfigFunc, localCalls_qualified (dot_mem_select _ _),
    localCalls_local (by decide)]
  rfl

/-- `NewForConfig` has no struct literals. -/
theorem literals_newForConfigFunc (restPackage : String) :
  literals ((ins.newForConfigFunc restPackage cs).body.flatMap Stmt.uses) = []
  := by
  rw [uses_newForConfigFunc]
  rfl

/-- A constructor calls no function of the file. -/
theorem localCalls_constructorFunc (name wrapper : String) (type : GoType) (state : List Carried) :
  localCalls ((constructorFunc name wrapper type state).body.flatMap Stmt.uses) = []
  := by
  rw [uses_constructorFunc]
  rfl

/-- A constructor has one struct literal, of its parameters in order. -/
theorem literals_constructorFunc (name wrapper : String) (type : GoType) (state : List Carried) :
  literals ((constructorFunc name wrapper type state).body.flatMap Stmt.uses)
    = [(wrapper, nameEntries ((constructorFunc name wrapper type state).params.map (·.1)))]
  := by
  rw [uses_constructorFunc]
  rfl

/-- The functions without a receiver have the roles that the clientset gives them. -/
theorem map_role_outerFuncs (hcs : cs.Proper) :
  ((ins.outerFuncs o cs).map Func.code).map FuncCode.role = cs.roles o.newForConfig
  := by
  have hrole : ∀ f : Func, f.code.role = ⟨f.name,
      (literals (f.body.flatMap Stmt.uses)).map (·.1),
      (localCalls (f.body.flatMap Stmt.uses)).map (·.1)⟩ := by
    intro f
    rw [FuncCode.role, Func.code, f.uses_bodyTokens]
  have hwrap : (ins.wrapFunc cs).code.role
      = ⟨"Wrap", ["clientset"], cs.clients.map Client.constructor⟩ := by
    rw [hrole, literals_wrapFunc, localCalls_wrapFunc hcs, List.map_map]
    rfl
  have hnew : (ins.newForConfigFunc o.restPackage cs).code.role = ⟨"NewForConfig", [], ["Wrap"]⟩ := by
    rw [hrole, literals_newForConfigFunc, localCalls_newForConfigFunc]
    rfl
  have hconstructor : ∀ name wrapper type state,
      (constructorFunc name wrapper type state).code.role = ⟨name, [wrapper], []⟩ := by
    intro name wrapper type state
    rw [hrole, literals_constructorFunc, localCalls_constructorFunc]
    rfl
  rw [List.map_map, outerFuncs, List.map_cons, List.map_append, constructors, List.map_append,
    List.map_map, List.map_flatMap]
  simp only [Function.comp_def, List.map_map, hwrap, hconstructor]
  rw [Clientset.roles]
  cases o.newForConfig with
  | false => rfl
  | true =>
      rw [if_pos rfl, if_pos rfl, List.map_singleton, hnew]

end Instrumentation

/-! ### Methods -/

/-- A method that is passed through uses no function or struct of the file. -/
theorem Method.IsValid.qualified_passThrough {m : Method} (h : m.IsValid) (receiver : String) :
  Qualified ((m.passThrough receiver).body.flatMap Stmt.uses)
  := by
  rw [h.uses_passThrough]
  apply qualified_nil.cons (dot_mem_select "c.inner" m.name)

/-- A traced operation uses no function or struct of the file. -/
theorem Traces.qualified_operationBody (t : TracingSettings) (component : String) (c : Client)
    (r : Resource) {m : Method} (h : m.IsValid) :
  Qualified ((operationBody t component c r m).flatMap Stmt.uses)
  := by
  have hinner : '.' ∈ m.innerName.toList := dot_mem_select "c.inner" m.name
  by_cases hcontext : m.hasContext
  · have hopening : Qualified ((openingBody t component c r m).flatMap Stmt.uses) := by
      obtain ⟨us, huses, hlabels⟩ := uses_openingBody t component c r m
      have hend : Qualified [.call "span.End" []] := qualified_nil.cons (by decide)
      have hqualified : Qualified us := by
        intro u hu
        obtain ⟨args, rfl⟩ := hlabels u hu
        exact ⟨_, args, rfl, dot_mem_select _ _⟩
      rw [huses]
      apply (hqualified.append hend).cons (dot_mem_select _ _)
    rw [operationBody_of_hasContext t component c r hcontext, List.flatMap_append]
    apply hopening.append
    cases hi : m.errorIndex? with
    | none =>
        rw [observedCall_of_none t hi, List.flatMap_singleton, Stmt.uses, h.uses_passOn]
        apply qualified_nil.cons hinner
    | some i =>
        rw [uses_observedCall t h hi, uses_recordError]
        have herror : '.' ∈ (Method.retName i ++ "." ++ "Error").toList :=
          dot_mem_select _ _
        apply ((((qualified_nil.cons herror).cons _).cons _).cons hinner) <;> decide
  · rw [operationBody_of_not_hasContext t component c r hcontext, List.flatMap_singleton,
      Stmt.uses, h.uses_passOn]
    apply qualified_nil.cons hinner

/-- An operation uses no function or struct of the file. -/
theorem IsTemplate.qualified_operationFunc {ins : Instrumentation} (h : IsTemplate ins) (c : Client)
    (r : Resource) {m : Method} (hm : m.IsValid) :
  Qualified ((ins.operationFunc c r m).body.flatMap Stmt.uses)
  := by
  cases h with
  | metrics package =>
      change Qualified ((Metrics.operationBody m).flatMap Stmt.uses)
      rw [Metrics.uses_operationBody, hm.uses_passOn]
      apply (qualified_nil.cons (dot_mem_select "c.inner" m.name)).cons (by decide)
  | traces t component => apply Traces.qualified_operationBody t component c r hm

/-- The accessor of a resource calls the function that makes the wrapper of the resource, and no
other one of the file. -/
theorem IsTemplate.uses_resourceAccessor {ins : Instrumentation} (h : IsTemplate ins) {c : Client}
    {r : Resource} (hconstructor : '.' ∉ (r.constructor c).toList) :
  literals ((ins.resourceAccessor c r).body.flatMap Stmt.uses) = []
    ∧ ∃ args, localCalls ((ins.resourceAccessor c r).body.flatMap Stmt.uses)
        = [(r.constructor c, args)]
      ∧ args.length = ins.resourceState.length + 1
  := by
  have hinner : '.' ∈ r.accessor.innerName.toList :=
    dot_mem_select "c.inner" r.accessor.name
  cases h with
  | metrics package =>
      change literals ((Metrics.accessorBody package c r).flatMap Stmt.uses) = [] ∧ ∃ args,
        localCalls ((Metrics.accessorBody package c r).flatMap Stmt.uses) = _ ∧ _
      have hmaker : '.' ∈ (Metrics.makerName package r).toList :=
        dot_mem_select _ _
      rw [Metrics.uses_accessorBody]
      use rfl, [r.accessTokens, [word "recorder"]]
      rw [localCalls_qualified hmaker, localCalls_local hconstructor, localCalls_qualified hinner]
      exact ⟨rfl, rfl⟩
  | traces t component =>
      change literals ((Traces.accessorBody c r).flatMap Stmt.uses) = [] ∧ ∃ args,
        localCalls ((Traces.accessorBody c r).flatMap Stmt.uses) = _ ∧ _
      rw [Traces.uses_accessorBody]
      use rfl, [r.accessTokens]
      rw [localCalls_local hconstructor, localCalls_qualified hinner]
      exact ⟨rfl, rfl⟩

/-! ### Struct literals -/

/-- Entries that are single names have no keys. -/
theorem positional_nameEntries (names : List String) :
  Positional (nameEntries names)
  := by
  rw [Positional, nameEntries, List.forall_mem_map]
  intro name _ key h
  have hlength := h.length_le
  contradiction

namespace Instrumentation

variable {ins : Instrumentation} {cs : Clientset}

/-- The literal in `Wrap` names the fields of the wrapper of a clientset if these differ. -/
theorem namesFields_clientsetEntries (h : ("inner" :: cs.clients.map Client.field).Nodup) :
  NamesFields (clientsetStruct cs).code (ins.clientsetEntries cs)
  := by
  use "inner" :: cs.clients.map Client.field, h
  constructor
  · refine List.Forall₂.cons ?_ ?_
    · apply List.prefix_append [word "inner", mark ':'] [word "inner"]
    · rw [List.forall₂_map_left_iff, List.forall₂_map_right_iff, List.forall₂_same]
      intro c _
      apply List.prefix_append [word c.field, mark ':'] (ins.clientTokens c)
  · refine List.Forall₂.cons ?_ ?_
    · apply List.prefix_append [word "inner"] (tokens cs.type.text)
    · rw [List.map_map, List.forall₂_map_left_iff, List.forall₂_map_right_iff, List.forall₂_same]
      intro c _
      apply List.prefix_append [word c.field] (tokens c.type.text)

end Instrumentation

/-! ### What a function uses -/

namespace Code

/-- The functions that a function of a file calls are among these, with as many parameters as the
call has arguments, and its struct literals fill some of these structs. -/
structure Func.Fits (fs : List Func) (ss : List Struct) (g : Func) : Prop where
  calls : ∀ call ∈ localCalls (g.body.flatMap Stmt.uses),
    ∃ f ∈ fs, f.name = call.1 ∧ f.params.length = call.2.length
  literals : ∀ literal ∈ literals (g.body.flatMap Stmt.uses),
    g.receiver = none ∧ ∃ s ∈ ss, s.name = literal.1 ∧ Fills g.code s.code literal.2

/-- A function that uses no function or struct of the file fits. -/
theorem Qualified.fits {fs : List Func} {ss : List Struct} {g : Func}
    (h : Qualified (g.body.flatMap Stmt.uses)) :
  g.Fits fs ss
  := by
  constructor
  · rw [h.localCalls]
    apply List.forall_mem_nil
  · rw [h.literals]
    apply List.forall_mem_nil

end Code

namespace Instrumentation

variable {ins : Instrumentation} {o : RenderOptions} {cs : Clientset}

/-- The structs of a file. -/
def structs (ins : Instrumentation) (cs : Clientset) : List Struct :=
  clientsetStruct cs ::
    (cs.clients.map (fun c => ⟨c.wrapper, wrapperFields c.type ins.clientState⟩)
      ++ cs.clients.flatMap fun c => c.resources.map fun r =>
        ⟨r.wrapper c, wrapperFields r.type ins.resourceState⟩)

/-- The structs of a file are those of the clientset, the clients and the resources. -/
theorem map_name_structs :
  (ins.structs cs).map Struct.name
    = "clientset" :: (cs.clients.map Client.wrapper
      ++ cs.clients.flatMap fun c => c.resources.map fun r => r.wrapper c)
  := by
  rw [structs, List.map_cons, List.map_append, List.map_map, List.map_flatMap]
  simp only [Function.comp_def, List.map_map]
  rfl

/-- The literal of a function that makes a wrapper is filled from its parameters. -/
theorem supplies_constructorFunc (name wrapper : String) (type : GoType) (state : List Carried) :
  Supplies (constructorFunc name wrapper type state).code
    (Struct.code ⟨wrapper, wrapperFields type state⟩)
    (nameEntries ((constructorFunc name wrapper type state).params.map (·.1)))
  := by
  constructor
  · rw [nameEntries, Func.code, List.map_map, List.map_map]
    rfl
  · simp only [Func.code, Struct.code, constructorFunc, stateParams, wrapperFields, List.map_cons,
      List.map_map]
    rfl

/-- A constructor fits if the struct of its wrapper is among the structs. -/
theorem fits_constructorFunc {fs : List Func} {ss : List Struct} (name : String) {wrapper : String}
    {type : GoType} {state : List Carried} (h : ⟨wrapper, wrapperFields type state⟩ ∈ ss) :
  (constructorFunc name wrapper type state).Fits fs ss
  := by
  constructor
  · rw [localCalls_constructorFunc]
    apply List.forall_mem_nil
  · rw [literals_constructorFunc, List.forall_mem_singleton]
    refine ⟨rfl, _, h, rfl, ?_⟩
    constructor
    · intro _
      apply supplies_constructorFunc
    · intro hkeyed
      apply absurd (positional_nameEntries _) hkeyed

/-- `Wrap` fits the other functions and the structs if the constructors of clients take the further
parameters of `Wrap`. -/
theorem fits_wrapFunc (hins : IsTemplate ins) (hcs : cs.Proper)
    (hfields : ("inner" :: cs.clients.map Client.field).Nodup) {ss : List Struct}
    (h : clientsetStruct cs ∈ ss) :
  (ins.wrapFunc cs).Fits (ins.outerFuncs o cs) ss
  := by
  constructor
  · rw [localCalls_wrapFunc hcs, List.forall_mem_map]
    intro c hc
    refine ⟨_, constructor_mem_outerFuncs hc, rfl, ?_⟩
    have hlength : ins.clientState.length = ins.clientsetParams.length := by
      simpa using congrArg List.length hins.types_clientState
    simp [constructorFunc, stateParams, nameEntries, clientsetNames, hlength]
  · rw [literals_wrapFunc, List.forall_mem_singleton]
    refine ⟨rfl, _, h, rfl, ?_⟩
    constructor
    · intro hpositional
      apply absurd _ (hpositional _ List.mem_cons_self "inner")
      apply List.prefix_append [word "inner", mark ':'] [word "inner"]
    · intro _
      exact ⟨rfl, namesFields_clientsetEntries hfields⟩

/-- `NewForConfig` fits: it gives `Wrap` as many arguments as `Wrap` has parameters. -/
theorem fits_newForConfigFunc (restPackage : String) (ss : List Struct) :
  (ins.newForConfigFunc restPackage cs).Fits (ins.outerFuncs o cs) ss
  := by
  constructor
  · rw [localCalls_newForConfigFunc, List.forall_mem_singleton]
    refine ⟨_, List.mem_cons_self, rfl, ?_⟩
    simp [wrapFunc, nameEntries, clientsetNames]
  · rw [literals_newForConfigFunc]
    apply List.forall_mem_nil

/-- The functions without a receiver fit each other and the structs. -/
theorem fits_outerFuncs (hins : IsTemplate ins) (hcs : cs.Proper)
    (hfields : ("inner" :: cs.clients.map Client.field).Nodup) :
  ∀ g ∈ ins.outerFuncs o cs, g.Fits (ins.outerFuncs o cs) (ins.structs cs)
  := by
  apply forall_mem_outerFuncs
  · apply fits_wrapFunc hins hcs hfields List.mem_cons_self
  · apply fits_newForConfigFunc
  · intro c hc
    apply fits_constructorFunc
    apply List.mem_cons_of_mem
    apply List.mem_append_left
    apply List.mem_map.mpr ⟨c, hc, rfl⟩
  · intro c hc r hr
    apply fits_constructorFunc
    apply List.mem_cons_of_mem
    apply List.mem_append_right
    apply List.mem_flatMap.mpr ⟨c, hc, _⟩
    apply List.mem_map.mpr ⟨r, hr, rfl⟩

/-- The methods of the clientset wrapper fit. -/
theorem fits_clientsetBlock (hcs : cs.Proper) {fs : List Func} {ss : List Struct} :
  ∀ g ∈ (clientsetBlock cs).funcs, g.Fits fs ss
  := by
  intro g hg
  obtain ⟨member, hmember, rfl⟩ := List.mem_map.mp hg
  have hproper := hcs.members member hmember
  apply Qualified.fits
  cases member with
  | direct m => apply (Method.Proper.valid hproper).qualified_passThrough
  | wrapped c => apply qualified_nil

end Instrumentation

namespace IsTemplate

variable {ins : Instrumentation} (h : IsTemplate ins) {o : RenderOptions} {cs : Clientset}

include h

/-- The methods of a client wrapper fit: they call the constructors of resources with what these
take. -/
theorem fits_clientBlock {c : Client} (hc : c ∈ cs.clients) (hproper : c.Proper) {ss : List Struct} :
  ∀ g ∈ (ins.clientBlock c).funcs, g.Fits (ins.outerFuncs o cs) ss
  := by
  intro g hg
  obtain ⟨member, hmember, rfl⟩ := List.mem_map.mp hg
  have hm := hproper.members member hmember
  cases member with
  | direct m => apply ((Method.Proper.valid hm).qualified_passThrough _).fits
  | wrapped r =>
      have hr : r ∈ c.resources := List.mem_filterMap.mpr ⟨_, hmember, rfl⟩
      have hconstructor := Resource.Proper.isIdentifier_constructor hm hproper
      obtain ⟨hliterals, args, hcalls, hargs⟩ :=
        h.uses_resourceAccessor (not_mem_of_isIdentifier hconstructor rfl)
      constructor
      · change ∀ call ∈ localCalls ((ins.resourceAccessor c r).body.flatMap Stmt.uses), _
        rw [hcalls, List.forall_mem_singleton]
        refine ⟨_, Instrumentation.resource_constructor_mem_outerFuncs hc hr, rfl, ?_⟩
        simp [Instrumentation.constructorFunc, Instrumentation.stateParams, hargs]
      · change ∀ literal ∈ literals ((ins.resourceAccessor c r).body.flatMap Stmt.uses), _
        rw [hliterals]
        apply List.forall_mem_nil

/-- The methods of a resource wrapper fit. -/
theorem fits_resourceBlock {c : Client} {r : Resource} (hr : r.Proper) {fs : List Func}
    {ss : List Struct} :
  ∀ g ∈ (ins.resourceBlock c r).funcs, g.Fits fs ss
  := by
  intro g hg
  obtain ⟨m, hm, rfl⟩ := List.mem_map.mp hg
  apply (h.qualified_operationFunc c r (hr.operations m hm).valid).fits

/-- The methods of all wrappers fit the functions without a receiver. -/
theorem fits_blocks (hcs : cs.Proper) :
  ∀ b ∈ ins.blocks cs, ∀ g ∈ b.funcs, g.Fits (ins.outerFuncs o cs) (ins.structs cs)
  := by
  apply Instrumentation.forall_mem_blocks
  · apply Instrumentation.fits_clientsetBlock hcs
  · intro c hc
    apply h.fits_clientBlock hc (hcs.client hc)
  · intro c hc r hr
    apply h.fits_resourceBlock ((hcs.client hc).resource hr)

end IsTemplate

/-! ### The file -/

section

variable {s : Schema} {ex : Exclusions} {ins : Instrumentation} {o : RenderOptions} {cs : Clientset}
  {file : File} (hins : IsTemplate ins) (hproper : cs.Proper) (h : ins.render o cs = .ok file)

/-- The structs of a file are those of its wrappers. -/
theorem structs_of_render (h : ins.render o cs = .ok file) :
  file.structs = ins.structs cs
  := by
  rw [File.structs, items_of_render h, Instrumentation.filterMap_struct?_items]
  rfl

include hins hproper h

/-- The structs that are read from a file are those of its wrappers. -/
theorem structsIn_of_render :
  structsIn (Text.lines file.body) = (ins.structs cs).map Struct.code
  := by
  rw [File.structsIn_lines (printable_of_render hins.printable hproper h)
    (readable_of_render hins.readable hproper h), structs_of_render h]

/-- The functions that are read from a file are those without a receiver. -/
theorem funcsIn_of_render :
  funcsIn (Text.lines file.body) = (ins.outerFuncs o cs).map Func.code
  := by
  rw [File.funcsIn_lines (printable_of_render hins.printable hproper h)
    (readable_of_render hins.readable hproper h), outerFuncs_of_render h]

/-- What is read to be used in a function is what it uses. -/
theorem usesIn_of_render {g : Func} (hg : g ∈ file.funcs) :
  usesIn (g.header, g.bodyLines) = g.body.flatMap Stmt.uses
  := by
  apply Func.uses_bodyLines
  apply (File.readable_func (readable_of_render hins.readable hproper h) g hg).body

/-- Every function of a file fits its functions without a receiver and its structs. -/
theorem fits_of_render (hfields : ("inner" :: cs.clients.map Client.field).Nodup) :
  ∀ g ∈ file.funcs, g.Fits (ins.outerFuncs o cs) (ins.structs cs)
  := by
  intro g hg
  cases hreceiver : g.receiver.isSome with
  | false =>
      apply ins.fits_outerFuncs hins hproper hfields
      rw [← outerFuncs_of_render h]
      apply List.mem_filter.mpr ⟨hg, _⟩
      rw [hreceiver]
      rfl
  | true =>
      have hmethod : g ∈ file.methods := by
        rw [← File.filter_funcs]
        apply List.mem_filter.mpr ⟨hg, hreceiver⟩
      rw [methods_of_render h] at hmethod
      obtain ⟨b, hb, hg⟩ := List.mem_flatMap.mp hmethod
      apply hins.fits_blocks hproper b hb g hg

/-- The accessors of a client wrapper call the functions that make the wrappers of its resources. -/
theorem accessors_of_render (hcs : s.IsClientset ex cs) (hnames : cs.names.Nodup) {c : Client}
    (hc : c ∈ cs.clients) :
  List.Forall₂ (fun member block => (localCalls (usesIn block)).map (·.1)
      = (member.item?.map (Resource.constructor · c)).toList)
    c.members (braced ("func (c *" ++ c.wrapper ++ ") ") (Text.lines file.body))
  := by
  have hb := ins.clientBlock_mem_blocks hc
  have hbraced := braced_of_render hins.printable hproper hcs hnames h hb
  change braced ("func (c *" ++ c.wrapper ++ ") ") (Text.lines file.body) = _ at hbraced
  rw [hbraced, Instrumentation.clientBlock, List.map_map, List.forall₂_map_right_iff,
    List.forall₂_same]
  intro member hmember
  have hfunc := mem_funcs_of_mem_blocks h hb (List.mem_map_of_mem hmember)
  have hm := (hproper.client hc).members member hmember
  rw [Function.comp_apply, usesIn_of_render hins hproper h hfunc]
  cases member with
  | direct m =>
      have hqualified := (Method.Proper.valid hm).qualified_passThrough c.wrapper
      change (localCalls ((m.passThrough c.wrapper).body.flatMap Stmt.uses)).map (·.1) = []
      rw [hqualified.localCalls, List.map_nil]
  | wrapped r =>
      have hconstructor := Resource.Proper.isIdentifier_constructor hm (hproper.client hc)
      obtain ⟨-, args, hcalls, -⟩ :=
        hins.uses_resourceAccessor (not_mem_of_isIdentifier hconstructor rfl)
      change (localCalls ((ins.resourceAccessor c r).body.flatMap Stmt.uses)).map (·.1)
        = [r.constructor c]
      rw [hcalls, List.map_singleton]

end

/-- After its import block the file of a clientset declares what it uses. It has one struct and one
function that makes it for each client and each resource, each function of its own that it calls is
declared once and takes as many parameters as it is given, and each struct literal gives values to
all fields. -/
theorem linked_of_render {source : SchemaSource} {s : Schema} {ex : Exclusions} {cs : Clientset}
    (hparsed : source.Parsed) (hresolve : source.resolve = .ok s)
    (hwalk : (s.walk ex).outcome = .ok cs) :
  ∀ ins o file, IsTemplate ins → ins.render o cs = .ok file →
    file.text = ofLines (preambleLines file.package file.imports) ++ file.body
    ∧ Linked cs o.newForConfig (Text.lines file.body)
  := by
  intro ins o file hins h
  obtain ⟨hcs, hnames⟩ := Schema.walk_eq_ok.mp hwalk
  have hproper := hcs.proper (SchemaSource.proper_of_resolve hparsed hresolve)
  have hstructs := structsIn_of_render hins hproper h
  have hfuncs := funcsIn_of_render hins hproper h
  have hbraced := (printable_of_render hins.printable hproper h).braced_func
  have hstructNames : (structsIn (Text.lines file.body)).map StructCode.name
      = "clientset" :: (cs.clients.map Client.wrapper
        ++ cs.clients.flatMap fun c => c.resources.map fun r => r.wrapper c) := by
    rw [hstructs, List.map_map, ← ins.map_name_structs]
    rfl
  have hnodupStructs : ((structsIn (Text.lines file.body)).map StructCode.name).Nodup := by
    rw [hstructNames, ← ins.map_receiver_blocks]
    apply Instrumentation.nodup_receivers hnames
  have hnodupFuncs : ((funcsIn (Text.lines file.body)).map FuncCode.name).Nodup := by
    rw [hfuncs, List.map_map]
    apply ins.nodup_outerFuncs hnames
  have hfields : ("inner" :: cs.clients.map Client.field).Nodup := by
    rw [← hcs.fieldNames_eq]
    apply (hcs.nodup_names_iff.mp hnames).1
  have hfits := fits_of_render hins hproper h hfields
  use file.text_eq
  constructor
  case structs => apply hstructNames
  case nodup_structs => apply hnodupStructs
  case funcs =>
    rw [hfuncs]
    apply ins.map_role_outerFuncs hproper
  case nodup_funcs => apply hnodupFuncs
  case accessors =>
    intro c hc
    apply accessors_of_render hins hproper h hcs hnames hc
  case calls =>
    rw [hbraced, List.forall_mem_map]
    intro g hg call hcall
    rw [usesIn_of_render hins hproper h hg] at hcall
    obtain ⟨f, hf, hname, hlength⟩ := (hfits g hg).calls call hcall
    have hmem : f.code ∈ funcsIn (Text.lines file.body) := by
      rw [hfuncs]
      apply List.mem_map_of_mem hf
    use f.code
    rw [← hname, ← hlength]
    exact ⟨filter_eq_singleton hnodupFuncs hmem, List.length_map _⟩
  case literals =>
    rw [hbraced, List.forall_mem_map]
    intro g hg literal hliteral
    rw [usesIn_of_render hins hproper h hg] at hliteral
    obtain ⟨hreceiver, t, ht, hname, hfills⟩ := (hfits g hg).literals literal hliteral
    have hmem : t.code ∈ structsIn (Text.lines file.body) := by
      rw [hstructs]
      apply List.mem_map_of_mem ht
    have hreadable := File.readable_func (readable_of_render hins.readable hproper h) g hg
    use t.code, g.code
    rw [← hname, hreadable.funcCode?, hreceiver]
    exact ⟨filter_eq_singleton hnodupStructs hmem, rfl, hfills⟩
  case wrap =>
    rw [hstructs, hfuncs]
    refine ⟨_, List.mem_map_of_mem List.mem_cons_self, rfl, _,
      List.mem_map_of_mem List.mem_cons_self, rfl, ins.clientsetEntries cs, ?_, ?_⟩
    · rw [Func.code, Func.uses_bodyTokens, Instrumentation.literals_wrapFunc]
    · apply Instrumentation.namesFields_clientsetEntries hfields

/-- A clientset with one client and one resource: the structs and functions of its file, and the
calls among them. -/
theorem linked_of_render_pod :
  podSource.Parsed
    ∧ ∃ s file, podSource.resolve = .ok s
      ∧ (s.walk Exclusions.default).outcome = .ok podClientset
      ∧ (Metrics.instrumentation "example.com/metrics").render
        ⟨"wrapped", "example.com/rest", true⟩ podClientset = .ok file
      ∧ (structsIn (Text.lines file.body)).map StructCode.name
        = ["clientset", "wrappedCoreV1Interface", "wrappedCoreV1InterfacePodInterface"]
      ∧ (funcsIn (Text.lines file.body)).map FuncCode.role
        = [⟨"Wrap", ["clientset"], ["newCoreV1Interface"]⟩, ⟨"NewForConfig", [], ["Wrap"]⟩,
          ⟨"newCoreV1Interface", ["wrappedCoreV1Interface"], []⟩,
          ⟨"newCoreV1InterfacePodInterface", ["wrappedCoreV1InterfacePodInterface"], []⟩]
  := by
  obtain ⟨s, hresolve, hwalk⟩ := walk_podSource
  obtain ⟨file, hrender⟩ := exists_render_podClientset
  obtain ⟨-, hlinked⟩ :=
    linked_of_render parsed_podSource hresolve hwalk _ _ file (IsTemplate.metrics _) hrender
  refine ⟨parsed_podSource, s, file, hresolve, hwalk, hrender, ?_, ?_⟩
  · rw [hlinked.structs]
    decide
  · rw [hlinked.funcs]
    decide

end ClientWrap
