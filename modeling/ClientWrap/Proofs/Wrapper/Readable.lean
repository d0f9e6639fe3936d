import ClientWrap.Proofs.Code.Calling
import ClientWrap.Proofs.Wrapper.Forwarding
import ClientWrap.Proofs.Wrapper.Methods

/-!
# Every declaration is readable

All names in the file of a proper clientset are words and all types are entries
(`Instrumentation.Readable.items`) if this holds of the instrumentation, and it does for all
settings of both templates (`IsTemplate.readable`). What the settings add are the packages of names,
whose aliases are words, and string literals.
-/

namespace ClientWrap

open ClientWrap.Code ClientWrap.Text

/-! ### Instrumentations -/

/-- The names of the carried value are words, and its type is an entry. -/
structure Carried.Readable (v : Carried) : Prop where
  field : IsWord v.field
  param : IsWord v.param
  type : Inert v.type.text

/-- Everything that the instrumentation adds to the wrappers of a proper clientset is readable. -/
structure Instrumentation.Readable (ins : Instrumentation) : Prop where
  clientsetParams : ∀ p ∈ ins.clientsetParams, ReadableEntry p
  clientState : ∀ v ∈ ins.clientState, v.Readable
  resourceState : ∀ v ∈ ins.resourceState, v.Readable
  accessorBody : ∀ c r, c.Proper → r.Proper → ∀ s ∈ ins.accessorBody c r, s.Readable
  operationBody : ∀ c r m, c.Proper → r.Proper → m.Proper →
    ∀ s ∈ ins.operationBody c r m, s.Readable

/-- The text of a type of another package is inert. -/
theorem GoType.inert_text_named (package : String) {name : String}
    (hname : name.toList.all isWordChar) :
  Inert (named package name).text
  := by
  have hinert := inert_named package hname (p := "") (by decide)
  rwa [String.empty_append] at hinert

namespace Resource

variable {r : Resource}

/-- The namespace of a resource is a parameter with a word as its name. -/
theorem isWord_of_mem_namespaceParam {p : String × GoType} (h : p ∈ r.namespaceParam) :
  IsWord p.1 ∧ p.2 ∈ r.accessor.params
  := by
  obtain ⟨t, ht, rfl⟩ := List.mem_map.mp h
  have hname : IsWord "namespace" := by decide
  exact ⟨hname, List.mem_of_mem_take ht⟩

/-- The namespace of a resource is readable as an argument. -/
theorem readable_namespaceArg :
  ∀ e ∈ r.namespaceArg, e.Readable
  := by
  intro e he
  obtain ⟨p, hp, rfl⟩ := List.mem_map.mp he
  apply (isWord_of_mem_namespaceParam hp).1

/-- The access to what a resource wraps is readable. -/
theorem Proper.readable_innerAccess (h : r.Proper) :
  r.innerAccess.Readable
  := ⟨h.accessor.valid.isWord_innerName, Expr.readableAll_iff.mpr r.readable_namespaceArg⟩

/-- The constructor of a resource has a word as its name. -/
theorem Proper.isWord_constructor (h : r.Proper) {c : Client} (hc : c.Proper) :
  IsWord (r.constructor c)
  := isWord_of_isIdentifier (h.isIdentifier_constructor hc)

end Resource

namespace Metrics

/-- The call that makes a recorder is readable. -/
theorem readable_makeRecorder (package : String) (r : Resource) :
  (makeRecorder package r).Readable
  := by
  have hmetrics : IsWord "c.metrics" := by decide
  have hclientType : IsWord "c.clientType" := by decide
  have hnames : ∀ name ∈ ["ClusteredClientQueryRecorder", "NamespacedClientQueryRecorder"],
      name.toList.all isWordChar := by decide
  constructor
  · apply isWord_selected (all_isWordChar_packageAlias package)
    split <;> apply hnames _ (by decide)
  · rw [Expr.readableAll_iff, List.forall_mem_append, List.forall_mem_append,
      List.forall_mem_singleton, List.forall_mem_cons, List.forall_mem_singleton]
    exact ⟨⟨hmetrics, r.readable_namespaceArg⟩, trivial, hclientType⟩

/-- The instrumentation that counts calls is readable for every package. -/
theorem readable_instrumentation (package : String) :
  (instrumentation package).Readable
  := by
  have hparam : ∀ param name, IsWord param → name.toList.all isWordChar →
      ReadableEntry (param, .named package name) := by
    intro param name hparam hname
    exact ⟨hparam, GoType.inert_text_named package hname⟩
  have hcarried : ∀ field param name, IsWord field → IsWord param → name.toList.all isWordChar →
      Carried.Readable ⟨field, param, .named package name⟩ := by
    intro field param name hfield hparam hname
    exact ⟨hfield, hparam, GoType.inert_text_named package hname⟩
  constructor
  · intro p hp
    simp only [instrumentation, clientsetParams, List.mem_cons, List.not_mem_nil, or_false] at hp
    rcases hp with rfl | rfl
    all_goals apply hparam <;> decide
  · intro v hv
    simp only [instrumentation, clientState, List.mem_cons, List.not_mem_nil, or_false] at hv
    rcases hv with rfl | rfl
    all_goals apply hcarried <;> decide
  · intro v hv
    obtain rfl := List.mem_singleton.mp hv
    apply hcarried <;> decide
  · intro c r hc hr s hs
    simp only [instrumentation, accessorBody, List.mem_cons, List.not_mem_nil, or_false] at hs
    rcases hs with rfl | rfl
    · exact ⟨by decide, readable_makeRecorder package r⟩
    · have hrecorder : IsWord "recorder" := by decide
      exact ⟨⟨hr.isWord_constructor hc, hr.readable_innerAccess, hrecorder, trivial⟩, trivial⟩
  · intro c r m _ _ hm
    apply readable_operationBody hm.valid

end Metrics

namespace Traces

/-- The instrumentation that reports spans is readable for all settings. -/
theorem readable_instrumentation (t : TracingSettings) (component : String) :
  (instrumentation t component).Readable
  := by
  constructor
  · apply List.forall_mem_nil
  · apply List.forall_mem_nil
  · apply List.forall_mem_nil
  · intro c r hc hr s hs
    obtain rfl := List.mem_singleton.mp hs
    exact ⟨⟨hr.isWord_constructor hc, hr.readable_innerAccess, trivial⟩, trivial⟩
  · intro c r m _ _ hm s hs
    change s ∈ operationBody t component c r m at hs
    by_cases hcontext : m.hasContext
    · rw [operationBody_of_hasContext t component c r hcontext, List.mem_append] at hs
      rcases hs with hs | hs
      · apply readable_openingBody t component c r m s hs
      · apply readable_observedCall t hm.valid s hs
    · rw [operationBody_of_not_hasContext t component c r hcontext, List.mem_singleton] at hs
      rw [hs]
      apply hm.valid.readable_passOn

end Traces

/-- The instrumentation of a template is readable. -/
theorem IsTemplate.readable {ins : Instrumentation} (h : IsTemplate ins) :
  ins.Readable
  := by
  cases h with
  | metrics package => apply Metrics.readable_instrumentation
  | traces t component => apply Traces.readable_instrumentation

/-! ### The file -/

/-- A method of a wrapper is readable if its receiver and its body are. -/
theorem Method.Proper.readable_wrapperFunc {m : Method} (h : m.Proper) {receiver : String}
    (hreceiver : IsWord receiver) {body : List Stmt} (hbody : ∀ s ∈ body, s.Readable) :
  (m.wrapperFunc receiver body).Readable
  := by
  constructor
  · intro r hr
    obtain rfl := Option.some.inj hr
    apply hreceiver
  · apply h.isIdentifier_name
  · intro p hp
    obtain ⟨hname, htype⟩ := mem_namedParams hp
    exact ⟨isWord_of_isIdentifier hname, (h.parsed.params _ htype).inert⟩
  · intro t ht
    apply (h.parsed.results t ht).inert
  · apply hbody

/-- The name of an interface is inert. -/
theorem GoType.NamesInterface.inert_text {t : GoType} (h : t.NamesInterface) :
  Inert t.text
  := h.parsed.inert

namespace Instrumentation

variable {ins : Instrumentation} {cs : Clientset} {c : Client} {r : Resource}

/-- The further arguments of `Wrap` are readable. -/
theorem Readable.clientsetArgs (h : ins.Readable) :
  ∀ e ∈ ins.clientsetArgs, e.Readable
  := by
  intro e he
  obtain ⟨p, hp, rfl⟩ := List.mem_map.mp he
  apply (h.clientsetParams p hp).1

/-- The name of what is wrapped is a word. -/
theorem isWord_inner :
  IsWord "inner"
  := by decide

/-- `Wrap` is readable. -/
theorem Readable.wrapFunc (h : ins.Readable) (hcs : cs.Proper) :
  (ins.wrapFunc cs).Readable
  := by
  constructor
  · intro r hr
    contradiction
  · change isIdentifier "Wrap".toList = true
    decide
  · intro p hp
    rcases List.mem_cons.mp hp with rfl | hp
    · exact ⟨isWord_inner, hcs.type.inert_text⟩
    · apply h.clientsetParams p hp
  · intro t ht
    obtain rfl := List.mem_singleton.mp ht
    apply hcs.type.inert_text
  · intro s hs
    obtain rfl := List.mem_singleton.mp hs
    use by decide
    intro f hf
    rcases List.mem_cons.mp hf with rfl | hf
    · exact ⟨isWord_inner, isWord_inner⟩
    · obtain ⟨c, hc, rfl⟩ := List.mem_map.mp hf
      have hc := hcs.client hc
      have hname := isWord_of_isIdentifier hc.accessor.isIdentifier_name
      have haccess : IsWord ("inner" ++ "." ++ c.name) := isWord_selected isWord_inner.2 hname.2
      use isWord_of_isIdentifier hc.isIdentifier_field
      use isWord_of_isIdentifier hc.isIdentifier_constructor
      exact ⟨⟨haccess, trivial⟩, Expr.readableAll_iff.mpr h.clientsetArgs⟩

/-- `NewForConfig` is readable. -/
theorem Readable.newForConfigFunc (h : ins.Readable) (hcs : cs.Proper) (restPackage : String) :
  (ins.newForConfigFunc restPackage cs).Readable
  := by
  have hinner := isWord_inner
  have herr : IsWord "err" := by decide
  have hnil : IsWord "nil" := by decide
  constructor
  · intro r hr
    contradiction
  · change isIdentifier "NewForConfig".toList = true
    decide
  · intro p hp
    rcases List.mem_cons.mp hp with rfl | hp
    · have hc : IsWord "c" := by decide
      use hc
      apply (GoType.inert_text_named restPackage (by decide)).star
    · apply h.clientsetParams p hp
  · intro t ht
    rcases List.mem_cons.mp ht with rfl | ht
    · apply hcs.type.inert_text
    · obtain rfl := List.mem_singleton.mp ht
      apply inert_of_isWord
      decide
  · intro s hs
    simp only [Instrumentation.newForConfigFunc, List.mem_cons, List.not_mem_nil, or_false] at hs
    rcases hs with rfl | rfl | rfl
    · have hmaker : IsWord (Naming.packageAlias cs.package ++ "." ++ "NewForConfig") :=
        isWord_selected (all_isWordChar_packageAlias _) (by decide)
      have hc : IsWord "c" := by decide
      refine ⟨by decide, hmaker, hc, trivial⟩
    · use herr
      rw [List.forall_mem_singleton]
      exact ⟨hnil, herr, trivial⟩
    · have hwrap : IsWord "Wrap" := by decide
      exact ⟨⟨hwrap, hinner, Expr.readableAll_iff.mpr h.clientsetArgs⟩, hnil, trivial⟩

/-- What is passed through is readable. -/
theorem readable_directItems {receiver : String} (hreceiver : IsWord receiver) {m : Method}
    (hm : m.Proper) :
  ∀ item ∈ directItems receiver m, item.Readable
  := by
  intro item hitem
  simp only [directItems, List.mem_cons, List.not_mem_nil, or_false] at hitem
  rcases hitem with rfl | rfl
  · exact isProse_append.mpr ⟨(isWord_of_isIdentifier hm.isIdentifier_name).isProse, by decide⟩
  · apply hm.readable_wrapperFunc hreceiver
    rw [List.forall_mem_singleton]
    apply hm.valid.readable_passOn

/-- The accessor of a proper client is readable. -/
theorem readable_clientAccessor (hc : c.Proper) :
  (clientAccessor c).Readable
  := by
  have hfield := isWord_of_isIdentifier hc.isIdentifier_field
  constructor
  · intro r hr
    obtain rfl := Option.some.inj hr
    decide
  · apply hc.accessor.isIdentifier_name
  · apply List.forall_mem_nil
  · intro t ht
    apply (hc.accessor.parsed.results t ht).inert
  · rw [clientAccessor, List.forall_mem_singleton]
    have hselected : IsWord ("c" ++ "." ++ c.field) := isWord_selected (by decide) hfield.2
    exact ⟨hselected, trivial⟩

/-- The accessor of a proper resource is readable. -/
theorem Readable.resourceAccessor (h : ins.Readable) (hc : c.Proper) (hr : r.Proper) :
  (ins.resourceAccessor c r).Readable
  := by
  constructor
  · intro r hr
    obtain rfl := Option.some.inj hr
    apply isWord_of_isIdentifier hc.isIdentifier_wrapper
  · apply hr.accessor.isIdentifier_name
  · intro p hp
    obtain ⟨hname, htype⟩ := Resource.isWord_of_mem_namespaceParam hp
    exact ⟨hname, (hr.accessor.parsed.params _ htype).inert⟩
  · intro t ht
    apply (hr.accessor.parsed.results t ht).inert
  · apply h.accessorBody c r hc hr

/-- The type of a wrapper and its constructor are readable if what they carry is. -/
theorem readable_wrapperItems {constructor wrapper : String} {type : GoType}
    {state : List Carried} (hconstructor : isIdentifier constructor.toList)
    (hwrapper : IsWord wrapper) (htype : Inert type.text) (hstate : ∀ v ∈ state, v.Readable) :
  ∀ item ∈ wrapperItems constructor wrapper type state, item.Readable
  := by
  intro item hitem
  simp only [wrapperItems, List.mem_cons, List.not_mem_nil, or_false] at hitem
  rcases hitem with rfl | rfl | rfl | rfl | rfl
  · trivial
  · exact isProse_append.mpr ⟨hwrapper.isProse, by decide⟩
  · use hwrapper
    intro f hf
    rcases List.mem_cons.mp hf with rfl | hf
    · exact ⟨isWord_inner, htype⟩
    · obtain ⟨v, hv, rfl⟩ := List.mem_map.mp hf
      exact ⟨(hstate v hv).field, (hstate v hv).type⟩
  · trivial
  · constructor
    · intro r hr
      contradiction
    · apply hconstructor
    · intro p hp
      rcases List.mem_cons.mp hp with rfl | hp
      · exact ⟨isWord_inner, htype⟩
      · obtain ⟨v, hv, rfl⟩ := List.mem_map.mp hp
        exact ⟨(hstate v hv).param, (hstate v hv).type⟩
    · intro t ht
      obtain rfl := List.mem_singleton.mp ht
      apply htype
    · have hargs : ∀ e ∈ stateArgs state, e.Readable := by
        intro e he
        obtain ⟨v, hv, rfl⟩ := List.mem_map.mp he
        apply (hstate v hv).param
      rw [constructorFunc, List.forall_mem_singleton]
      exact ⟨⟨hwrapper, isWord_inner, Expr.readableAll_iff.mpr hargs⟩, trivial⟩

/-- The parts for a proper client are readable. -/
theorem Readable.clientItems (h : ins.Readable) (hc : c.Proper) :
  ∀ item ∈ ins.clientItems c, item.Readable
  := by
  have hwrapper := isWord_of_isIdentifier hc.isIdentifier_wrapper
  intro item hitem
  rcases List.mem_append.mp hitem with hitem | hitem
  · apply readable_wrapperItems hc.isIdentifier_constructor hwrapper hc.type.inert_text
      h.clientState item hitem
  · obtain ⟨member, hmember, hitem⟩ := List.mem_flatMap.mp hitem
    have hproper := hc.members member hmember
    cases member with
    | direct m => apply readable_directItems hwrapper hproper item hitem
    | wrapped r =>
        obtain rfl := List.mem_singleton.mp hitem
        apply h.resourceAccessor hc hproper

/-- The parts for a proper resource are readable. -/
theorem Readable.resourceItems (h : ins.Readable) (hc : c.Proper) (hr : r.Proper) :
  ∀ item ∈ ins.resourceItems c r, item.Readable
  := by
  have hwrapper := isWord_of_isIdentifier (hr.isIdentifier_wrapper hc)
  intro item hitem
  rcases List.mem_append.mp hitem with hitem | hitem
  · apply readable_wrapperItems (hr.isIdentifier_constructor hc) hwrapper hr.type.inert_text
      h.resourceState item hitem
  · obtain ⟨m, hm, rfl⟩ := List.mem_map.mp hitem
    have hm := hr.operations m hm
    apply hm.readable_wrapperFunc hwrapper
    apply h.operationBody c r m hc hr hm

/-- The parts for a proper clientset itself are readable. -/
theorem readable_clientsetItems (hcs : cs.Proper) :
  ∀ item ∈ clientsetItems cs, item.Readable
  := by
  intro item hitem
  rcases List.mem_append.mp hitem with hitem | hitem
  · simp only [List.mem_cons, List.not_mem_nil, or_false] at hitem
    rcases hitem with rfl | rfl | rfl | rfl
    · trivial
    · change IsProse "clientset wrapper"
      decide
    · have hname : IsWord "clientset" := by decide
      use hname
      intro f hf
      rcases List.mem_cons.mp hf with rfl | hf
      · exact ⟨isWord_inner, hcs.type.inert_text⟩
      · obtain ⟨c, hc, rfl⟩ := List.mem_map.mp hf
        exact ⟨isWord_of_isIdentifier (hcs.client hc).isIdentifier_field,
          (hcs.client hc).type.inert_text⟩
    · trivial
  · obtain ⟨member, hmember, hitem⟩ := List.mem_flatMap.mp hitem
    have hproper := hcs.members member hmember
    cases member with
    | direct m => apply readable_directItems (by decide) hproper item hitem
    | wrapped c =>
        obtain rfl := List.mem_singleton.mp hitem
        apply readable_clientAccessor hproper

/-- The declarations for a proper clientset are readable. -/
theorem Readable.items (h : ins.Readable) (hcs : cs.Proper) (o : RenderOptions) :
  ∀ item ∈ ins.items o cs, item.Readable
  := by
  rw [Instrumentation.items]
  simp only [List.forall_mem_append]
  and_intros
  · intro item hitem
    simp only [List.mem_cons, List.not_mem_nil, or_false] at hitem
    rcases hitem with rfl | rfl | rfl
    · trivial
    · change IsProse "Wrap"
      decide
    · apply h.wrapFunc hcs
  · split
    · intro item hitem
      simp only [List.mem_cons, List.not_mem_nil, or_false] at hitem
      rcases hitem with rfl | rfl | rfl
      · trivial
      · change IsProse "NewForConfig"
        decide
      · apply h.newForConfigFunc hcs o.restPackage
    · apply List.forall_mem_nil
  · apply readable_clientsetItems hcs
  · intro item hitem
    obtain ⟨c, hc, hitem⟩ := List.mem_flatMap.mp hitem
    apply h.clientItems (hcs.client hc) item hitem
  · intro item hitem
    obtain ⟨c, hc, hitem⟩ := List.mem_flatMap.mp hitem
    obtain ⟨r, hr, hitem⟩ := List.mem_flatMap.mp hitem
    apply h.resourceItems (hcs.client hc) ((hcs.client hc).resource hr) item hitem

end Instrumentation

end ClientWrap
