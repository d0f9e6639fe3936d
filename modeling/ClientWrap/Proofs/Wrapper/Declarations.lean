import ClientWrap.Proofs.Code.Declarations
import ClientWrap.Proofs.Naming.Alias
import ClientWrap.Proofs.Wrapper.Methods

/-!
# The names that a file declares

The types and functions of a file have different names (`Clientset.nodup_declaredNames`), and so
have its imports. An import can still have the name of a type or function, but only if its path is
one of three words or begins with `wrapped` or `new` (`outerNames_of_render`).
-/

namespace ClientWrap

open ClientWrap.Code ClientWrap.Text

/-! ### Types and functions -/

namespace Clientset

/-- What the names of the wrappers of clients and of resources end in. -/
def stems (cs : Clientset) : List String :=
  cs.clients.map Client.typeName
    ++ cs.clients.flatMap fun c => c.resources.map fun r => c.typeName ++ r.type.shortName

/-- The names of the wrappers of clients and resources and of the functions that make them. -/
def wrapperNames (cs : Clientset) : List String :=
  cs.stems.flatMap fun stem => ["wrapped" ++ stem, "new" ++ stem]

/-- The names of the types and functions that are declared for every clientset. -/
def fixedNames (newForConfig : Bool) : List String :=
  if newForConfig then ["Wrap", "NewForConfig", "clientset"] else ["Wrap", "clientset"]

/-- The names of the types and functions that are declared for a clientset. -/
def declaredNames (cs : Clientset) (newForConfig : Bool) : List String :=
  fixedNames newForConfig ++ cs.wrapperNames

end Clientset

namespace Resource

/-- The wrapper of a resource is named after its stem. -/
theorem wrapped_stem (c : Client) (r : Resource) :
  "wrapped" ++ (c.typeName ++ r.type.shortName) = r.wrapper c
  := by
  rw [← String.append_assoc]
  rfl

/-- The constructor of a resource is named after its stem. -/
theorem new_stem (c : Client) (r : Resource) :
  "new" ++ (c.typeName ++ r.type.shortName) = r.constructor c
  := by
  rw [← String.append_assoc]
  rfl

end Resource

namespace Code.Item

/-- The names of the types and functions that the item declares. -/
def outerNames (item : Item) : List String :=
  item.declarations.filterMap Declaration.outer?

/-- A struct declares its name. -/
@[simp]
theorem outerNames_struct (s : Struct) :
  (struct s).outerNames = [s.name]
  := by
  simp [outerNames, declarations, Struct.declarations, List.filterMap_map, Declaration.outer?]

/-- A function declares its name unless it is a method. -/
@[simp]
theorem outerNames_func (f : Func) :
  (func f).outerNames = if f.receiver.isSome then [] else [f.name]
  := by
  rw [outerNames, declarations, Func.declaration]
  split <;> rfl

end Code.Item

namespace Instrumentation

variable {ins : Instrumentation} {o : RenderOptions} {cs : Clientset}

/-- The view shows nothing of gaps, comments and methods. -/
structure SkipsMethods {α : Type} (view : Item → List α) : Prop where
  gap : view .gap = []
  comment : ∀ text, view (.comment text) = []
  method : ∀ f : Func, f.receiver.isSome → view (.func f) = []

section

variable {α : Type} {view : Item → List α}

/-- Of the parts of a wrapper such a view shows the struct and the constructor. -/
theorem SkipsMethods.flatMap_wrapperItems (h : SkipsMethods view) (constructor wrapper : String)
    (type : GoType) (state : List Carried) :
  (wrapperItems constructor wrapper type state).flatMap view
    = view (.struct ⟨wrapper, wrapperFields type state⟩)
      ++ view (.func (constructorFunc constructor wrapper type state))
  := by
  simp [wrapperItems, h.gap, h.comment]

/-- Of a method that is passed through such a view shows nothing. -/
theorem SkipsMethods.flatMap_directItems (h : SkipsMethods view) (receiver : String) (m : Method) :
  (directItems receiver m).flatMap view = []
  := by
  have hmethod := h.method (m.passThrough receiver) rfl
  simp [directItems, h.comment, hmethod]

/-- Of the parts of the clientset itself such a view shows the struct. -/
theorem SkipsMethods.flatMap_clientsetItems (h : SkipsMethods view) :
  (clientsetItems cs).flatMap view = view (.struct (clientsetStruct cs))
  := by
  have hmember : ∀ member, (clientsetMemberItems member).flatMap view = [] := by
    intro member
    cases member with
    | direct m => apply h.flatMap_directItems
    | wrapped c =>
        have hmethod := h.method (clientAccessor c) rfl
        simp [clientsetMemberItems, hmethod]
  rw [clientsetItems, List.flatMap_append, List.flatMap_assoc]
  simp [hmember, h.gap, h.comment]

/-- Of the parts of a client such a view shows those of its wrapper. -/
theorem SkipsMethods.flatMap_clientItems (h : SkipsMethods view) (c : Client) :
  (ins.clientItems c).flatMap view
    = (wrapperItems c.constructor c.wrapper c.type ins.clientState).flatMap view
  := by
  have hmember : ∀ member, (ins.clientMemberItems c member).flatMap view = [] := by
    intro member
    cases member with
    | direct m => apply h.flatMap_directItems
    | wrapped r =>
        have hmethod := h.method (ins.resourceAccessor c r) rfl
        simp [clientMemberItems, hmethod]
  rw [clientItems, List.flatMap_append, List.flatMap_assoc]
  simp [hmember]

/-- Of the parts of a resource such a view shows those of its wrapper. -/
theorem SkipsMethods.flatMap_resourceItems (h : SkipsMethods view) (c : Client) (r : Resource) :
  (ins.resourceItems c r).flatMap view
    = (wrapperItems (r.constructor c) (r.wrapper c) r.type ins.resourceState).flatMap view
  := by
  have hmethod : ∀ m, view (.func (ins.operationFunc c r m)) = [] := by
    intro m
    apply h.method _ rfl
  rw [resourceItems, List.flatMap_append, List.flatMap_map]
  simp [hmethod]

/-- Besides methods a file has the functions that wrap a clientset, the type of its wrapper, and for
each client and resource the type of the wrapper and the function that makes it. -/
theorem SkipsMethods.flatMap_items (h : SkipsMethods view) :
  (ins.items o cs).flatMap view
    = view (.func (ins.wrapFunc cs))
      ++ (if o.newForConfig then view (.func (ins.newForConfigFunc o.restPackage cs)) else [])
      ++ view (.struct (clientsetStruct cs))
      ++ (cs.clients.flatMap fun c =>
        view (.struct ⟨c.wrapper, wrapperFields c.type ins.clientState⟩)
          ++ view (.func (constructorFunc c.constructor c.wrapper c.type ins.clientState)))
      ++ cs.clients.flatMap fun c => c.resources.flatMap fun r =>
        view (.struct ⟨r.wrapper c, wrapperFields r.type ins.resourceState⟩)
          ++ view (.func (constructorFunc (r.constructor c) (r.wrapper c) r.type ins.resourceState))
  := by
  have hwrap : [Item.gap, .comment "Wrap", .func (ins.wrapFunc cs)].flatMap view
      = view (.func (ins.wrapFunc cs)) := by
    simp [h.gap, h.comment]
  have hnew : (if o.newForConfig then
      [Item.gap, .comment "NewForConfig", .func (ins.newForConfigFunc o.restPackage cs)]
      else []).flatMap view
      = if o.newForConfig then view (.func (ins.newForConfigFunc o.restPackage cs)) else [] := by
    split <;> simp [h.gap, h.comment]
  rw [items, List.flatMap_append, List.flatMap_append, List.flatMap_append, List.flatMap_append,
    hwrap, hnew, h.flatMap_clientsetItems, List.flatMap_assoc, List.flatMap_assoc]
  simp only [List.flatMap_assoc, h.flatMap_clientItems, h.flatMap_resourceItems,
    h.flatMap_wrapperItems]

end

/-- The types and functions of a file are those of the wrappers, and the functions that wrap a
clientset. -/
theorem filterMap_outer?_items :
  ((ins.items o cs).flatMap Item.declarations).filterMap Declaration.outer?
    = cs.declaredNames o.newForConfig
  := by
  have hskips : SkipsMethods Item.outerNames := by
    constructor
    · rfl
    · intro text
      rfl
    · intro f hf
      rw [Item.outerNames_func, if_pos hf]
  rw [List.filterMap_flatMap]
  change (ins.items o cs).flatMap Item.outerNames = _
  rw [hskips.flatMap_items]
  simp only [Item.outerNames_struct, Item.outerNames_func, constructorFunc, wrapFunc,
    newForConfigFunc, clientsetStruct, Option.isSome_none, Bool.false_eq_true, ↓reduceIte,
    List.singleton_append, ← Resource.wrapped_stem, ← Resource.new_stem]
  rw [Clientset.declaredNames, Clientset.fixedNames, Clientset.wrapperNames, Clientset.stems,
    List.flatMap_append, List.flatMap_map, List.flatMap_assoc]
  simp only [List.flatMap_map]
  cases o.newForConfig <;> rfl

/-- The structs of a file are the wrappers. -/
theorem filterMap_struct?_items :
  (ins.items o cs).filterMap Item.struct?
    = clientsetStruct cs ::
      (cs.clients.map (fun c => ⟨c.wrapper, wrapperFields c.type ins.clientState⟩)
        ++ cs.clients.flatMap fun c => c.resources.map fun r =>
          ⟨r.wrapper c, wrapperFields r.type ins.resourceState⟩)
  := by
  have hskips : SkipsMethods fun item => item.struct?.toList := by
    constructor <;> intros <;> rfl
  rw [List.filterMap_eq_flatMap_toList, hskips.flatMap_items]
  simp only [Item.struct?, Option.toList_some, Option.toList_none, List.append_nil,
    ← List.map_eq_flatMap, ite_self]
  rfl

/-- The functions that make the wrappers. -/
def constructors (ins : Instrumentation) (cs : Clientset) : List Func :=
  cs.clients.map (fun c => constructorFunc c.constructor c.wrapper c.type ins.clientState)
    ++ cs.clients.flatMap fun c => c.resources.map fun r =>
      constructorFunc (r.constructor c) (r.wrapper c) r.type ins.resourceState

/-- The functions of a file without a receiver. -/
def outerFuncs (ins : Instrumentation) (o : RenderOptions) (cs : Clientset) : List Func :=
  ins.wrapFunc cs ::
    ((if o.newForConfig then [ins.newForConfigFunc o.restPackage cs] else [])
      ++ ins.constructors cs)

/-- Every function without a receiver wraps a clientset or makes a wrapper. -/
theorem forall_mem_outerFuncs {P : Func → Prop} (hwrap : P (ins.wrapFunc cs))
    (hnew : P (ins.newForConfigFunc o.restPackage cs))
    (hclient : ∀ c ∈ cs.clients, P (constructorFunc c.constructor c.wrapper c.type ins.clientState))
    (hresource : ∀ c ∈ cs.clients, ∀ r ∈ c.resources,
      P (constructorFunc (r.constructor c) (r.wrapper c) r.type ins.resourceState)) :
  ∀ f ∈ ins.outerFuncs o cs, P f
  := by
  intro f hf
  rw [outerFuncs, constructors, List.mem_cons, List.mem_append, List.mem_append] at hf
  rcases hf with rfl | hf | hf | hf
  · apply hwrap
  · obtain ⟨-, rfl⟩ : o.newForConfig = true ∧ f = ins.newForConfigFunc o.restPackage cs := by
      simpa using hf
    apply hnew
  · obtain ⟨c, hc, rfl⟩ := List.mem_map.mp hf
    apply hclient c hc
  · obtain ⟨c, hc, hf⟩ := List.mem_flatMap.mp hf
    obtain ⟨r, hr, rfl⟩ := List.mem_map.mp hf
    apply hresource c hc r hr

/-- The functions without a receiver are the constructors and those for callers. -/
theorem filter_funcs_items :
  ((ins.items o cs).filterMap Item.func?).filter (!·.receiver.isSome) = ins.outerFuncs o cs
  := by
  have hskips : SkipsMethods fun item => item.func?.toList.filter (!·.receiver.isSome) := by
    constructor
    · rfl
    · intro text
      rfl
    · intro f hf
      rw [Item.func?, Option.toList_some, List.filter_singleton, hf]
      rfl
  have houter : ∀ f : Func, f.receiver = none → [f].filter (!·.receiver.isSome) = [f] := by
    intro f hf
    rw [List.filter_singleton, hf]
    rfl
  rw [List.filterMap_eq_flatMap_toList, List.filter_flatMap, hskips.flatMap_items]
  simp only [Item.func?, Option.toList_some, Option.toList_none, List.filter_nil, List.nil_append,
    houter (ins.wrapFunc cs) rfl, houter (ins.newForConfigFunc o.restPackage cs) rfl,
    houter (constructorFunc _ _ _ _) rfl, List.append_nil, ← List.map_eq_flatMap]
  rw [outerFuncs, constructors]
  simp

end Instrumentation

/-! ### Different names -/

namespace Clientset

variable {cs : Clientset} {newForConfig : Bool} {name : String}

/-- The wrappers are named after the stems. -/
theorem map_stems :
  cs.stems.map ("wrapped" ++ ·)
    = cs.clients.map Client.wrapper
      ++ cs.clients.flatMap fun c => c.resources.map fun r => r.wrapper c
  := by
  simp only [stems, List.map_append, List.map_map, List.map_flatMap, Function.comp_def,
    Resource.wrapped_stem]
  rfl

/-- The stems differ if the names of the clientset do. -/
theorem nodup_stems (hnames : cs.names.Nodup) :
  cs.stems.Nodup
  := by
  have hreceivers : (((Metrics.instrumentation "").blocks cs).map Block.receiver).Nodup :=
    Instrumentation.nodup_receivers hnames
  rw [Instrumentation.map_receiver_blocks, ← map_stems] at hreceivers
  apply hreceivers.tail.of_map

/-- No wrapper is named as a constructor is. -/
theorem wrapped_ne_new (stem stem' : String) :
  "wrapped" ++ stem ≠ "new" ++ stem'
  := by
  intro h
  have hnew := beginsWith_append "new" stem'
  rw [← h] at hnew
  apply (beginsWith_append "wrapped" stem).not_beginsWith (by decide) (by decide) hnew

/-- The names of wrappers and constructors differ if those of the clientset do. -/
theorem nodup_wrapperNames (hnames : cs.names.Nodup) :
  cs.wrapperNames.Nodup
  := by
  apply List.nodup_flatMap.mpr
  constructor
  · intro stem _
    rw [List.nodup_cons, List.mem_singleton]
    exact ⟨wrapped_ne_new stem stem, List.nodup_singleton _⟩
  · apply (nodup_stems hnames).imp
    intro stem stem' hne name hname hname'
    apply hne
    rcases List.mem_pair.mp hname with rfl | rfl <;> rcases List.mem_pair.mp hname' with h | h
    · simpa using h
    · apply absurd h (wrapped_ne_new stem stem')
    · apply absurd h.symm (wrapped_ne_new stem' stem)
    · simpa using h

/-- The names of wrappers and constructors have one of two beginnings. -/
theorem beginsWith_of_mem_wrapperNames (h : name ∈ cs.wrapperNames) :
  BeginsWith "wrapped" name ∨ BeginsWith "new" name
  := by
  obtain ⟨stem, -, h⟩ := List.mem_flatMap.mp h
  rcases List.mem_pair.mp h with rfl | rfl
  · exact Or.inl (beginsWith_append _ _)
  · exact Or.inr (beginsWith_append _ _)

/-- No fixed name begins as those of wrappers and constructors do. -/
theorem not_beginsWith_of_mem_fixedNames (h : name ∈ fixedNames newForConfig) :
  ¬ (BeginsWith "wrapped" name ∨ BeginsWith "new" name)
  := by
  revert name
  cases newForConfig <;> decide

/-- The types and functions have different names if the names of the clientset differ. -/
theorem nodup_declaredNames (hnames : cs.names.Nodup) (newForConfig : Bool) :
  (cs.declaredNames newForConfig).Nodup
  := by
  apply List.nodup_append.mpr
  and_intros
  · cases newForConfig <;> decide
  · apply nodup_wrapperNames hnames
  · rintro name hfixed _ hname rfl
    apply not_beginsWith_of_mem_fixedNames hfixed (beginsWith_of_mem_wrapperNames hname)

/-- An alias is a declared name only if its path is one of the fixed names or begins as the names of
wrappers and of the functions that make them. -/
theorem path_of_alias_mem {path : String}
    (h : Naming.packageAlias path ∈ cs.declaredNames newForConfig) :
  path ∈ fixedNames newForConfig ∨ BeginsWith "wrapped" path ∨ BeginsWith "new" path
  := by
  rcases List.mem_append.mp h with h | h
  · left
    have hunderscore : ∀ name ∈ fixedNames newForConfig, '_' ∉ name.toList := by
      cases newForConfig <;> decide
    rwa [Naming.packageAlias_of_not_mem (hunderscore _ h)] at h
  · right
    apply (beginsWith_of_mem_wrapperNames h).imp
    · apply Naming.beginsWith_of_alias (by decide)
    · apply Naming.beginsWith_of_alias (by decide)

end Clientset

/-! ### The file -/

/-- The stems of a proper clientset are identifiers. -/
theorem Clientset.Proper.isIdentifier_stem {cs : Clientset} (h : cs.Proper) {stem : String}
    (hstem : stem ∈ cs.stems) :
  isIdentifier stem.toList
  := by
  rcases List.mem_append.mp hstem with hstem | hstem
  · obtain ⟨c, hc, rfl⟩ := List.mem_map.mp hstem
    apply (h.client hc).type.isIdentifier_shortName
  · obtain ⟨c, hc, hstem⟩ := List.mem_flatMap.mp hstem
    obtain ⟨r, hr, rfl⟩ := List.mem_map.mp hstem
    have hc := h.client hc
    apply isIdentifier_lead hc.type.isIdentifier_shortName (hc.resource hr).type.isIdentifier_shortName

/-- The declared names of a proper clientset are identifiers. -/
theorem Clientset.Proper.isIdentifier_declaredName {cs : Clientset} (h : cs.Proper)
    {newForConfig : Bool} {name : String} (hname : name ∈ cs.declaredNames newForConfig) :
  isIdentifier name.toList
  := by
  rcases List.mem_append.mp hname with hname | hname
  · have hfixed : ∀ name ∈ fixedNames newForConfig, isIdentifier name.toList := by
      cases newForConfig <;> decide
    apply hfixed name hname
  · obtain ⟨stem, hstem, hname⟩ := List.mem_flatMap.mp hname
    have hstem := h.isIdentifier_stem hstem
    rcases List.mem_pair.mp hname with rfl | rfl
    · apply isIdentifier_lead (by decide) hstem
    · apply isIdentifier_lead (by decide) hstem

/-- The fields that hold what is wrapped and the values of the instrumentations. -/
def fixedFields : List String :=
  ["inner", "metrics", "clientType", "recorder"]

/-- What a template carries is in fields with fixed names. -/
theorem IsTemplate.field_mem {ins : Instrumentation} (h : IsTemplate ins) :
  ∀ v ∈ ins.clientState ++ ins.resourceState, v.field ∈ fixedFields
  := by
  cases h with
  | metrics package =>
      change ∀ v ∈ [_, _] ++ [_], _
      simp [fixedFields]
  | traces t component =>
      change ∀ v ∈ ([] : List Carried), _
      apply List.forall_mem_nil

section

variable {ins : Instrumentation} {o : RenderOptions} {cs : Clientset} {file : File}

/-- The aliases of the imports of a file differ. -/
theorem nodup_aliases_of_render (h : ins.render o cs = .ok file) :
  (file.imports.map Naming.packageAlias).Nodup
  := by
  obtain ⟨_, hcheck, h⟩ := Outcome.bind_eq_ok.mp h
  rw [← Except.ok.inj h]
  apply Clientset.checkAliases_eq_ok.mp hcheck

/-- No import of a file is empty. -/
theorem ne_empty_of_mem_imports (h : ins.render o cs = .ok file) {path : String}
    (hpath : path ∈ file.imports) :
  path ≠ ""
  := by
  obtain ⟨_, -, h⟩ := Outcome.bind_eq_ok.mp h
  rw [← Except.ok.inj h, Clientset.imports, List.mem_filter, bne_iff_ne] at hpath
  apply hpath.2

/-- The types and functions that a file declares are those of the clientset. -/
theorem outer?_of_render (h : ins.render o cs = .ok file) :
  file.declarations.filterMap Declaration.outer? = cs.declaredNames o.newForConfig
  := by
  rw [File.declarations, items_of_render h, Instrumentation.filterMap_outer?_items]

/-- The fields of a file are those that every file may have and one for each client. -/
theorem field_of_render (hins : IsTemplate ins) (h : ins.render o cs = .ok file) {name : String}
    (hname : .field name ∈ file.declarations) :
  name ∈ fixedFields ∨ ∃ c ∈ cs.clients, c.field = name
  := by
  obtain ⟨s, hs, f, hf, rfl⟩ := File.field_mem_declarations.mp hname
  rw [File.structs, items_of_render h, Instrumentation.filterMap_struct?_items, List.mem_cons,
    List.mem_append] at hs
  have hwrapper : ∀ type state, (∀ v ∈ state, v ∈ ins.clientState ++ ins.resourceState) →
      f ∈ Instrumentation.wrapperFields type state → f.1 ∈ fixedFields := by
    intro type state hstate hf
    rcases List.mem_cons.mp hf with rfl | hf
    · apply List.mem_cons_self
    · obtain ⟨v, hv, rfl⟩ := List.mem_map.mp hf
      apply hins.field_mem v (hstate v hv)
  rcases hs with rfl | hs | hs
  · rcases List.mem_cons.mp hf with rfl | hf
    · exact Or.inl List.mem_cons_self
    · obtain ⟨c, hc, rfl⟩ := List.mem_map.mp hf
      exact Or.inr ⟨c, hc, rfl⟩
  · obtain ⟨c, -, rfl⟩ := List.mem_map.mp hs
    left
    apply hwrapper _ _ _ hf
    apply List.subset_append_left
  · obtain ⟨c, -, hs⟩ := List.mem_flatMap.mp hs
    obtain ⟨r, -, rfl⟩ := List.mem_map.mp hs
    left
    apply hwrapper _ _ _ hf
    apply List.subset_append_right

/-- Each client has its field in the file. -/
theorem field_mem_of_render (h : ins.render o cs = .ok file) {c : Client} (hc : c ∈ cs.clients) :
  .field c.field ∈ file.declarations
  := by
  apply File.field_mem_declarations.mpr
  refine ⟨Instrumentation.clientsetStruct cs, ?_, (c.field, c.type), ?_, rfl⟩
  · rw [File.structs, items_of_render h, Instrumentation.filterMap_struct?_items]
    apply List.mem_cons_self
  · apply List.mem_cons_of_mem
    apply List.mem_map_of_mem hc

/-- The methods of a file have names of exported identifiers. -/
theorem method_of_render {s : Schema} {ex : Exclusions} (hs : s.Proper)
    (hcs : s.IsClientset ex cs) (h : ins.render o cs = .ok file) {name : String}
    (hname : .method name ∈ file.declarations) :
  isExported name.toList
  := by
  obtain ⟨f, hf, rfl⟩ := File.method_mem_declarations.mp hname
  rw [methods_of_render h] at hf
  obtain ⟨b, hb, hf⟩ := List.mem_flatMap.mp hf
  obtain ⟨ms, hms, himplements⟩ := ins.implements_of_mem_blocks hcs b hb
  obtain ⟨m, hm, himplements⟩ := Outcome.exists_of_mem_right himplements hf
  rw [himplements.name]
  apply (hs.methods _ ms hms m hm).valid.exported

/-- All names that a file declares are identifiers. -/
theorem isIdentifier_of_render {s : Schema} {ex : Exclusions} (hins : IsTemplate ins)
    (hs : s.Proper) (hcs : s.IsClientset ex cs) (h : ins.render o cs = .ok file) :
  ∀ d ∈ file.declarations, isIdentifier d.name.toList
  := by
  have hproper := hcs.proper hs
  have houter : ∀ d ∈ file.declarations, ∀ name, d.outer? = some name →
      isIdentifier name.toList := by
    intro d hd name hname
    apply hproper.isIdentifier_declaredName
    rw [← outer?_of_render h]
    apply List.mem_filterMap.mpr ⟨d, hd, hname⟩
  intro d hd
  cases d with
  | type name => apply houter _ hd name rfl
  | func name => apply houter _ hd name rfl
  | field name =>
      rcases field_of_render hins h hd with hfixed | ⟨c, hc, rfl⟩
      · have hfields : ∀ name ∈ fixedFields, isIdentifier name.toList := by decide
        apply hfields name hfixed
      · apply (hproper.client hc).isIdentifier_field
  | method name => apply isIdentifier_of_isExported (method_of_render hs hcs h hd)

/-- What a file declares is read from its text. -/
theorem declarationsFrom_of_render {s : Schema} {ex : Exclusions} (hins : IsTemplate ins)
    (hs : s.Proper) (hcs : s.IsClientset ex cs) (h : ins.render o cs = .ok file) :
  Declaration.declarationsFrom false (Text.lines file.body) = file.declarations
  := by
  have hproper := hcs.proper hs
  apply (printable_of_render hins.printable hproper h).declarationsFrom_lines
  · apply isIdentifier_of_render hins hs hcs h
  · apply not_mem_receiver_of_render hproper hcs h

end

/-- A file declares the aliases of its imports, the functions `Wrap` and, if asked for,
`NewForConfig`, the type `clientset`, and for each client and resource a type and a function that
makes it. These names are pairwise different exactly if no import has an alias that is one of the
others, and no import has if its path is none of the three words and begins neither with `wrapped`
nor with `new`. -/
theorem outerNames_of_render {source : SchemaSource} {s : Schema} {ex : Exclusions}
    {cs : Clientset} (hparsed : source.Parsed) (hresolve : source.resolve = .ok s)
    (hwalk : (s.walk ex).outcome = .ok cs) :
  ∀ ins o file, IsTemplate ins → ins.render o cs = .ok file →
    file.text = ofLines (preambleLines file.package file.imports) ++ file.body
    ∧ Declaration.declarationsFrom false (Text.lines file.body) = file.declarations
    ∧ file.outerNames
      = file.imports.map Naming.packageAlias ++ cs.declaredNames o.newForConfig
    ∧ (file.outerNames.Nodup
      ↔ ∀ path ∈ file.imports, Naming.packageAlias path ∉ cs.declaredNames o.newForConfig)
    ∧ ((∀ path ∈ file.imports, path ∉ Clientset.fixedNames o.newForConfig
        ∧ ¬ BeginsWith "wrapped" path ∧ ¬ BeginsWith "new" path) →
      file.outerNames.Nodup)
  := by
  intro ins o file hins h
  obtain ⟨hcs, hnames⟩ := Schema.walk_eq_ok.mp hwalk
  have hs := SchemaSource.proper_of_resolve hparsed hresolve
  have houter : file.outerNames
      = file.imports.map Naming.packageAlias ++ cs.declaredNames o.newForConfig := by
    rw [File.outerNames, outer?_of_render h]
  have hiff : file.outerNames.Nodup
      ↔ ∀ path ∈ file.imports, Naming.packageAlias path ∉ cs.declaredNames o.newForConfig := by
    rw [houter, List.nodup_append', List.disjoint_left, List.forall_mem_map]
    have haliases := nodup_aliases_of_render h
    have hdeclared := Clientset.nodup_declaredNames hnames o.newForConfig
    tauto
  refine ⟨file.text_eq, declarationsFrom_of_render hins hs hcs h, houter, hiff, ?_⟩
  intro hpaths
  apply hiff.mpr
  intro path hpath hmem
  obtain ⟨hfixed, hwrapped, hnew⟩ := hpaths path hpath
  rcases Clientset.path_of_alias_mem hmem with h | h | h
  · apply hfixed h
  · apply hwrapped h
  · apply hnew h

/-- A clientset with one client and one resource: all names of its file differ. -/
theorem outerNames_of_render_pod :
  podSource.Parsed
    ∧ ∃ s file, podSource.resolve = .ok s
      ∧ (s.walk Exclusions.default).outcome = .ok podClientset
      ∧ (Metrics.instrumentation "example.com/metrics").render
        ⟨"wrapped", "example.com/rest", true⟩ podClientset = .ok file
      ∧ file.outerNames.Nodup
  := by
  have hfile : ((Metrics.instrumentation "example.com/metrics").render
      ⟨"wrapped", "example.com/rest", true⟩ podClientset).toOption.map File.imports
      = some ["context", "example.com/api/v1", "example.com/core/v1", "example.com/kubernetes",
        "example.com/metrics", "example.com/rest"] := by decide +kernel
  obtain ⟨s, hresolve, hwalk⟩ := walk_podSource
  obtain ⟨file, hrender, himports⟩ := Outcome.exists_of_toOption hfile
  obtain ⟨-, -, -, -, hnodup⟩ :=
    outerNames_of_render parsed_podSource hresolve hwalk _ _ file (IsTemplate.metrics _) hrender
  refine ⟨parsed_podSource, s, file, hresolve, hwalk, hrender, hnodup ?_⟩
  rw [himports]
  decide

/-- A root interface in a package `clientset`. -/
def clashingSource : SchemaSource where
  root := .named "clientset" "Interface"
  interfaces := [⟨.named "clientset" "Interface", [], []⟩]
  externals := []

/-- The import of the package `clientset` has the name of the type that wraps the clientset. -/
theorem not_nodup_outerNames :
  ¬ ∀ (source : SchemaSource) s ex cs ins o file, source.Parsed → source.resolve = .ok s →
      (s.walk ex).outcome = .ok cs → IsTemplate ins → ins.render o cs = .ok file →
      file.outerNames.Nodup
  := by
  intro h
  have hparsed : clashingSource.Parsed := by decide +kernel
  have hwalk : clashingSource.resolve.toOption.map (fun s => (s.walk Exclusions.default).outcome)
      = some (.ok ⟨.named "clientset" "Interface", []⟩) := by decide +kernel
  have hfile : ((Metrics.instrumentation "example.com/metrics").render
      ⟨"client", "example.com/rest", false⟩ ⟨.named "clientset" "Interface", []⟩).toOption.map
        File.outerNames
      = some ["clientset", "example_com_metrics", "Wrap", "clientset"] := by decide +kernel
  obtain ⟨s, hresolve, hwalk⟩ := Outcome.exists_of_toOption hwalk
  obtain ⟨file, hrender, hnames⟩ := Outcome.exists_of_toOption hfile
  have hnodup := h _ s _ _ _ _ file hparsed hresolve hwalk (IsTemplate.metrics _) hrender
  rw [hnames] at hnodup
  revert hnodup
  decide

end ClientWrap
