import ClientWrap.Proofs.Clientset.Proper
import ClientWrap.Proofs.Code.Lines
import ClientWrap.Wrapper.Render

/-!
# No declaration breaks a line

The file of a proper clientset is printable (`Instrumentation.Printable.items`) if the
instrumentation is. The instrumentations that count calls and that report spans are printable for
all settings, because the texts of the settings occur in string literals and in import aliases only.
-/

namespace ClientWrap

open ClientWrap.Code ClientWrap.Text

/-! ### Types -/

/-- The text of a plain type that some text spells stands on one line. -/
theorem GoType.SpellsPlain.oneLine_text {s : List Char} {t : GoType} (h : SpellsPlain s t) :
  OneLine t.text
  := by
  induction h with
  | identifier hs =>
      apply oneLine_of_isIdentifier
      rwa [text, String.toList_ofList]
  | emptyInterface => decide
  | @named _ name _ hname _ =>
      have hname : OneLine (String.ofList name) := by
        apply oneLine_of_isIdentifier
        rwa [String.toList_ofList]
      simpa +decide [text] using hname
  | pointer _ ih => simpa +decide [text] using ih
  | slice _ ih => simpa +decide [text] using ih
  | map _ _ ihkey ihvalue => simpa +decide [text] using ⟨ihkey, ihvalue⟩
  | blanks _ _ _ ih => apply ih

/-- The text of a parsed type is on one line. -/
theorem GoType.Parsed.oneLine_text {t : GoType} (h : t.Parsed) :
  OneLine t.text
  := by
  obtain ⟨s, hs⟩ := h.spells
  cases hs with
  | plain hs => apply hs.oneLine_text
  | variadic _ hs => simpa +decide [text] using hs.oneLine_text

/-! ### Passing calls on -/

namespace Method

/-- The name of a parameter is an identifier. -/
theorem isIdentifier_argName (i : Nat) :
  isIdentifier (argName i).toList
  := by
  change isIdentifier ("arg" ++ i.repr).toList
  rw [String.toList_append, Nat.toList_repr]
  apply isIdentifier_append (by decide)
  intro c hc
  have := Nat.isDigit_of_mem_toDigits (by decide) (by decide) hc
  simp [isIdentRest, Char.isAlphanum, this]

/-- The name of a parameter stands on one line. -/
theorem oneLine_argName (i : Nat) :
  OneLine (argName i)
  := oneLine_of_isIdentifier (isIdentifier_argName i)

/-- The name of a result stands on one line. -/
theorem oneLine_retName (i : Nat) :
  OneLine (retName i)
  := by
  change OneLine ("ret" ++ i.repr)
  rw [oneLine_append]
  use by decide
  apply oneLine_of_forall (p := Char.isDigit) rfl
  intro c hc
  rw [Nat.toList_repr] at hc
  apply Nat.isDigit_of_mem_toDigits (by decide) (by decide) hc

/-- A named parameter has an identifier and the type of a parameter. -/
theorem mem_namedParams {m : Method} {p : String × GoType} (h : p ∈ m.namedParams) :
  isIdentifier p.1.toList ∧ p.2 ∈ m.params
  := by
  obtain ⟨⟨t, i⟩, ht, rfl⟩ := List.mem_map.mp h
  use isIdentifier_argName i
  apply List.fst_mem_of_mem_zipIdx ht

/-- The named parameters have the types of the parameters in order. -/
theorem map_snd_namedParams (m : Method) :
  m.namedParams.map (·.2) = m.params
  := by
  rw [namedParams, List.map_map]
  apply List.zipIdx_map_fst 0 m.params

variable {m : Method}

/-- The name of a proper method stands on one line. -/
theorem Proper.oneLine_name (h : m.Proper) :
  OneLine m.name
  := oneLine_of_isIdentifier h.isIdentifier_name

/-- The arguments that pass parameters on stand on one line. -/
theorem oneLine_args :
  ∀ e ∈ m.args, OneLine e.text
  := by
  intro e he
  obtain ⟨⟨t, i⟩, -, rfl⟩ := List.mem_map.mp he
  simp only
  split <;> simpa using oneLine_argName i

/-- The call of the wrapped method stands on one line. -/
theorem oneLine_innerCall (h : m.Proper) {args : List Expr} (hargs : ∀ e ∈ args, OneLine e.text) :
  OneLine (m.innerCall args).text
  := by
  simp +decide [innerCall, h.oneLine_name]
  apply hargs

/-- Passing a call on is printable. -/
theorem printable_passOn (h : m.Proper) :
  m.passOn.Printable
  := by
  have hcall := oneLine_innerCall h (oneLine_args (m := m))
  rw [passOn]
  split
  · apply hcall
  · exact List.forall_mem_singleton.mpr hcall

/-- A method of a wrapper is printable if its receiver and its body are. -/
theorem printable_wrapperFunc (h : m.Proper) {receiver : String} (hreceiver : OneLine receiver)
    {body : List Stmt} (hbody : ∀ s ∈ body, s.Printable) :
  (m.wrapperFunc receiver body).Printable
  := by
  constructor
  · intro r hr
    obtain rfl := Option.some.inj hr
    apply hreceiver
  · apply h.isIdentifier_name
  · intro p hp
    obtain ⟨hname, htype⟩ := mem_namedParams hp
    exact ⟨oneLine_of_isIdentifier hname, (h.parsed.params _ htype).oneLine_text⟩
  · intro t ht
    apply (h.parsed.results t ht).oneLine_text
  · apply hbody

end Method

/-! ### Instrumentations -/

/-- The names and the type of the carried value are on one line. -/
structure Carried.Printable (v : Carried) : Prop where
  field : OneLine v.field
  param : OneLine v.param
  type : OneLine v.type.text

/-- Everything that the instrumentation adds to the wrappers of a proper clientset is on lines of
its own. -/
structure Instrumentation.Printable (ins : Instrumentation) : Prop where
  clientsetParams : ∀ p ∈ ins.clientsetParams, OneLine p.1 ∧ OneLine p.2.text
  clientState : ∀ v ∈ ins.clientState, v.Printable
  resourceState : ∀ v ∈ ins.resourceState, v.Printable
  accessorBody : ∀ c r, c.Proper → r.Proper → ∀ s ∈ ins.accessorBody c r, s.Printable
  operationBody : ∀ c r m, c.Proper → r.Proper → m.Proper →
    ∀ s ∈ ins.operationBody c r m, s.Printable

/-- The namespace of a resource stands on one line as an argument. -/
theorem Resource.oneLine_namespaceArg (r : Resource) :
  ∀ e ∈ r.namespaceArg, OneLine e.text
  := by
  intro e he
  obtain ⟨p, hp, rfl⟩ := List.mem_map.mp he
  obtain ⟨t, -, rfl⟩ := List.mem_map.mp hp
  change OneLine "namespace"
  decide

/-- The access to what a resource wraps stands on one line. -/
theorem Resource.Proper.oneLine_innerAccess {r : Resource} (h : r.Proper) :
  OneLine r.innerAccess.text
  := Method.oneLine_innerCall h.accessor r.oneLine_namespaceArg

/-- The constructor of a resource has a name on one line. -/
theorem Resource.Proper.oneLine_constructor {r : Resource} (h : r.Proper) {c : Client}
    (hc : c.Proper) :
  OneLine (r.constructor c)
  := oneLine_of_isIdentifier (h.isIdentifier_constructor hc)

namespace Metrics

/-- The call that makes a recorder stands on one line. -/
theorem oneLine_makeRecorder (package : String) (r : Resource) :
  OneLine (makeRecorder package r).text
  := by
  have hargs := r.oneLine_namespaceArg
  rw [makeRecorder]
  split <;> simp +decide [or_imp, forall_and] <;> exact hargs

/-- The instrumentation that counts calls is printable for every package. -/
theorem printable_instrumentation (package : String) :
  (instrumentation package).Printable
  := by
  constructor
  · intro p hp
    simp only [instrumentation, clientsetParams, List.mem_cons, List.not_mem_nil, or_false] at hp
    rcases hp with rfl | rfl
    all_goals constructor <;> simp +decide [GoType.text]
  · intro v hv
    simp only [instrumentation, clientState, List.mem_cons, List.not_mem_nil, or_false] at hv
    rcases hv with rfl | rfl
    all_goals refine ⟨?_, ?_, ?_⟩ <;> simp +decide [GoType.text]
  · intro v hv
    obtain rfl := List.mem_singleton.mp hv
    refine ⟨?_, ?_, ?_⟩ <;> simp +decide [GoType.text]
  · intro c r hc hr s hs
    simp only [instrumentation, accessorBody, List.mem_cons, List.not_mem_nil, or_false] at hs
    rcases hs with rfl | rfl
    · exact ⟨by decide, oneLine_makeRecorder package r⟩
    · simp +decide [Stmt.Printable, Step.Printable, hr.oneLine_constructor hc,
        hr.oneLine_innerAccess]
  · intro c r m hc hr hm s hs
    simp only [instrumentation, operationBody, List.mem_cons, List.not_mem_nil, or_false] at hs
    rcases hs with rfl | rfl
    · change OneLine (Expr.text _)
      simp +decide
    · apply Method.printable_passOn hm

end Metrics

namespace Traces

/-- The start of a span is printable. -/
theorem printable_startSpan (t : TracingSettings) (component : String) (c : Client) (r : Resource)
    (m : Method) :
  (startSpan t component c r m).Printable
  := by
  simp +decide [startSpan, Stmt.Printable, label]

/-- A call with or without an error is printable. -/
theorem printable_observedCall (t : TracingSettings) {m : Method} (h : m.Proper) :
  ∀ s ∈ observedCall t m, s.Printable
  := by
  have hrets : ∀ name ∈ m.rets, OneLine name := by
    intro name hname
    obtain ⟨i, -, rfl⟩ := List.mem_map.mp hname
    apply Method.oneLine_retName
  have hcall := Method.oneLine_innerCall h (Method.oneLine_args (m := m))
  rw [observedCall]
  split
  · intro s hs
    obtain rfl := List.mem_singleton.mp hs
    apply Method.printable_passOn h
  · next i _ =>
      have herr := Method.oneLine_retName i
      intro s hs
      simp only [List.mem_cons, List.not_mem_nil, or_false] at hs
      rcases hs with rfl | rfl | rfl
      · exact ⟨hrets, hcall⟩
      · simp +decide [Stmt.Printable, Step.Printable, onSpan, herr]
      · simpa [Stmt.Printable, Step.Printable] using hrets

/-- The instrumentation that reports spans is printable for all settings. -/
theorem printable_instrumentation (t : TracingSettings) (component : String) :
  (instrumentation t component).Printable
  := by
  constructor
  · apply List.forall_mem_nil
  · apply List.forall_mem_nil
  · apply List.forall_mem_nil
  · intro c r hc hr s hs
    obtain rfl := List.mem_singleton.mp hs
    simp +decide [Stmt.Printable, Step.Printable, hr.oneLine_constructor hc,
      hr.oneLine_innerAccess]
  · intro c r m hc hr hm s hs
    change s ∈ operationBody t component c r m at hs
    rw [operationBody] at hs
    split at hs
    · simp only [List.cons_append, List.nil_append, List.mem_cons] at hs
      rcases hs with rfl | rfl | rfl | hs
      · apply printable_startSpan
      · change OneLine (Expr.text _)
        simp +decide
      · exact ⟨by decide, by decide⟩
      · apply printable_observedCall t hm s hs
    · obtain rfl := List.mem_singleton.mp hs
      apply Method.printable_passOn hm

end Traces

/-! ### The file -/

/-- The name of an interface stands on one line. -/
theorem GoType.NamesInterface.oneLine_text {t : GoType} (h : t.NamesInterface) :
  OneLine t.text
  := h.parsed.oneLine_text

/-- The field of a client stands on one line. -/
theorem Client.Proper.oneLine_field {c : Client} (h : c.Proper) :
  OneLine c.field
  := oneLine_of_isIdentifier h.isIdentifier_field

/-- The wrapper of a client has a name on one line. -/
theorem Client.Proper.oneLine_wrapper {c : Client} (h : c.Proper) :
  OneLine c.wrapper
  := oneLine_of_isIdentifier h.isIdentifier_wrapper

namespace Instrumentation

variable {ins : Instrumentation} {cs : Clientset} {c : Client} {r : Resource}

/-- The further arguments of `Wrap` stand on one line. -/
theorem Printable.clientsetArgs (h : ins.Printable) :
  ∀ e ∈ ins.clientsetArgs, OneLine e.text
  := by
  intro e he
  obtain ⟨p, hp, rfl⟩ := List.mem_map.mp he
  apply (h.clientsetParams p hp).1

/-- The name of what is wrapped stands on one line. -/
theorem oneLine_inner :
  OneLine "inner"
  := by decide

/-- `Wrap` is printable. -/
theorem Printable.wrapFunc (h : ins.Printable) (hcs : cs.Proper) :
  (ins.wrapFunc cs).Printable
  := by
  constructor
  · intro r hr
    contradiction
  · change isIdentifier "Wrap".toList = true
    decide
  · intro p hp
    rcases List.mem_cons.mp hp with rfl | hp
    · exact ⟨oneLine_inner, hcs.type.oneLine_text⟩
    · apply h.clientsetParams p hp
  · intro t ht
    obtain rfl := List.mem_singleton.mp ht
    apply hcs.type.oneLine_text
  · intro s hs
    obtain rfl := List.mem_singleton.mp hs
    use by decide
    intro f hf
    rcases List.mem_cons.mp hf with rfl | hf
    · exact ⟨by decide, by decide⟩
    · obtain ⟨c, hc, rfl⟩ := List.mem_map.mp hf
      have hc := hcs.client hc
      use hc.oneLine_field
      have hname : OneLine c.name := hc.accessor.oneLine_name
      have hconstructor := oneLine_of_isIdentifier hc.isIdentifier_constructor
      simp +decide [hconstructor, hname]
      apply h.clientsetArgs

/-- `NewForConfig` is printable. -/
theorem Printable.newForConfigFunc (h : ins.Printable) (hcs : cs.Proper) (restPackage : String) :
  (ins.newForConfigFunc restPackage cs).Printable
  := by
  constructor
  · intro r hr
    contradiction
  · change isIdentifier "NewForConfig".toList = true
    decide
  · intro p hp
    rcases List.mem_cons.mp hp with rfl | hp
    · simp +decide [GoType.text]
    · apply h.clientsetParams p hp
  · intro t ht
    rcases List.mem_cons.mp ht with rfl | ht
    · apply hcs.type.oneLine_text
    · obtain rfl := List.mem_singleton.mp ht
      decide
  · have hargs := h.clientsetArgs
    intro s hs
    simp only [Instrumentation.newForConfigFunc, List.mem_cons, List.not_mem_nil, or_false] at hs
    rcases hs with rfl | rfl | rfl
    · simp +decide [Stmt.Printable, Step.Printable]
    · simp +decide [Stmt.Printable, Step.Printable]
    · simp +decide [Stmt.Printable, Step.Printable]
      apply hargs

/-- What is passed through is printable. -/
theorem printable_directItems {receiver : String} (hreceiver : OneLine receiver) {m : Method}
    (hm : m.Proper) :
  ∀ item ∈ directItems receiver m, item.Printable
  := by
  intro item hitem
  simp only [directItems, List.mem_cons, List.not_mem_nil, or_false] at hitem
  rcases hitem with rfl | rfl
  · simp +decide [Item.Printable, hm.oneLine_name]
  · apply Method.printable_wrapperFunc hm hreceiver
    intro s hs
    obtain rfl := List.mem_singleton.mp hs
    apply Method.printable_passOn hm

/-- The accessor of a proper client is printable. -/
theorem printable_clientAccessor (hc : c.Proper) :
  (clientAccessor c).Printable
  := by
  constructor
  · intro r hr
    obtain rfl := Option.some.inj hr
    decide
  · apply hc.accessor.isIdentifier_name
  · apply List.forall_mem_nil
  · intro t ht
    apply (hc.accessor.parsed.results t ht).oneLine_text
  · intro s hs
    obtain rfl := List.mem_singleton.mp hs
    simp +decide [Stmt.Printable, Step.Printable, hc.oneLine_field]

/-- The accessor of a proper resource is printable. -/
theorem Printable.resourceAccessor (h : ins.Printable) (hc : c.Proper) (hr : r.Proper) :
  (ins.resourceAccessor c r).Printable
  := by
  constructor
  · intro r hr
    obtain rfl := Option.some.inj hr
    apply hc.oneLine_wrapper
  · apply hr.accessor.isIdentifier_name
  · intro p hp
    obtain ⟨t, ht, rfl⟩ := List.mem_map.mp hp
    have hname : OneLine "namespace" := by decide
    use hname
    apply (hr.accessor.parsed.params t (List.mem_of_mem_take ht)).oneLine_text
  · intro t ht
    apply (hr.accessor.parsed.results t ht).oneLine_text
  · apply h.accessorBody c r hc hr

/-- The type of a wrapper and its constructor are printable if what they carry is. -/
theorem printable_wrapperItems {constructor wrapper : String} {type : GoType}
    {state : List Carried} (hconstructor : isIdentifier constructor.toList)
    (hwrapper : OneLine wrapper) (htype : OneLine type.text) (hstate : ∀ v ∈ state, v.Printable) :
  ∀ item ∈ wrapperItems constructor wrapper type state, item.Printable
  := by
  intro item hitem
  simp only [wrapperItems, List.mem_cons, List.not_mem_nil, or_false] at hitem
  rcases hitem with rfl | rfl | rfl | rfl | rfl
  · trivial
  · simp +decide [Item.Printable, hwrapper]
  · use hwrapper
    intro f hf
    rcases List.mem_cons.mp hf with rfl | hf
    · exact ⟨oneLine_inner, htype⟩
    · obtain ⟨v, hv, rfl⟩ := List.mem_map.mp hf
      exact ⟨(hstate v hv).field, (hstate v hv).type⟩
  · trivial
  · constructor
    · intro r hr
      contradiction
    · apply hconstructor
    · intro p hp
      rcases List.mem_cons.mp hp with rfl | hp
      · exact ⟨oneLine_inner, htype⟩
      · obtain ⟨v, hv, rfl⟩ := List.mem_map.mp hp
        exact ⟨(hstate v hv).param, (hstate v hv).type⟩
    · intro t ht
      obtain rfl := List.mem_singleton.mp ht
      apply htype
    · intro s hs
      obtain rfl := List.mem_singleton.mp hs
      simp +decide [Stmt.Printable, Step.Printable, hwrapper, stateArgs]
      intro v hv
      apply (hstate v hv).param

/-- The parts for a proper client are printable. -/
theorem Printable.clientItems (h : ins.Printable) (hc : c.Proper) :
  ∀ item ∈ ins.clientItems c, item.Printable
  := by
  intro item hitem
  rcases List.mem_append.mp hitem with hitem | hitem
  · apply printable_wrapperItems hc.isIdentifier_constructor hc.oneLine_wrapper
      hc.type.oneLine_text h.clientState item hitem
  · obtain ⟨member, hmember, hitem⟩ := List.mem_flatMap.mp hitem
    have hproper := hc.members member hmember
    cases member with
    | direct m => apply printable_directItems hc.oneLine_wrapper hproper item hitem
    | wrapped r =>
        obtain rfl := List.mem_singleton.mp hitem
        apply h.resourceAccessor hc hproper

/-- The parts for a proper resource are printable. -/
theorem Printable.resourceItems (h : ins.Printable) (hc : c.Proper) (hr : r.Proper) :
  ∀ item ∈ ins.resourceItems c r, item.Printable
  := by
  have hwrapper := oneLine_of_isIdentifier (hr.isIdentifier_wrapper hc)
  intro item hitem
  rcases List.mem_append.mp hitem with hitem | hitem
  · apply printable_wrapperItems (hr.isIdentifier_constructor hc) hwrapper hr.type.oneLine_text
      h.resourceState item hitem
  · obtain ⟨m, hm, rfl⟩ := List.mem_map.mp hitem
    have hm := hr.operations m hm
    apply Method.printable_wrapperFunc hm hwrapper
    apply h.operationBody c r m hc hr hm

/-- The parts for a proper clientset itself are printable. -/
theorem printable_clientsetItems (hcs : cs.Proper) :
  ∀ item ∈ clientsetItems cs, item.Printable
  := by
  intro item hitem
  rcases List.mem_append.mp hitem with hitem | hitem
  · simp only [List.mem_cons, List.not_mem_nil, or_false] at hitem
    rcases hitem with rfl | rfl | rfl | rfl
    · trivial
    · change OneLine "clientset wrapper"
      decide
    · have hname : OneLine "clientset" := by decide
      use hname
      intro f hf
      rcases List.mem_cons.mp hf with rfl | hf
      · exact ⟨oneLine_inner, hcs.type.oneLine_text⟩
      · obtain ⟨c, hc, rfl⟩ := List.mem_map.mp hf
        exact ⟨(hcs.client hc).oneLine_field, (hcs.client hc).type.oneLine_text⟩
    · trivial
  · obtain ⟨member, hmember, hitem⟩ := List.mem_flatMap.mp hitem
    have hproper := hcs.members member hmember
    cases member with
    | direct m => apply printable_directItems (by decide) hproper item hitem
    | wrapped c =>
        obtain rfl := List.mem_singleton.mp hitem
        apply printable_clientAccessor hproper

/-- The declarations for a proper clientset are printable. -/
theorem Printable.items (h : ins.Printable) (hcs : cs.Proper) (o : RenderOptions) :
  ∀ item ∈ ins.items o cs, item.Printable
  := by
  rw [Instrumentation.items]
  simp only [List.forall_mem_append]
  and_intros
  · intro item hitem
    simp only [List.mem_cons, List.not_mem_nil, or_false] at hitem
    rcases hitem with rfl | rfl | rfl
    · trivial
    · change OneLine "Wrap"
      decide
    · apply h.wrapFunc hcs
  · split
    · intro item hitem
      simp only [List.mem_cons, List.not_mem_nil, or_false] at hitem
      rcases hitem with rfl | rfl | rfl
      · trivial
      · change OneLine "NewForConfig"
        decide
      · apply h.newForConfigFunc hcs o.restPackage
    · apply List.forall_mem_nil
  · apply printable_clientsetItems hcs
  · intro item hitem
    obtain ⟨c, hc, hitem⟩ := List.mem_flatMap.mp hitem
    apply h.clientItems (hcs.client hc) item hitem
  · intro item hitem
    obtain ⟨c, hc, hitem⟩ := List.mem_flatMap.mp hitem
    obtain ⟨r, hr, hitem⟩ := List.mem_flatMap.mp hitem
    apply h.resourceItems (hcs.client hc) ((hcs.client hc).resource hr) item hitem

end Instrumentation

end ClientWrap
