import ClientWrap.Proofs.Code.Scanning
import ClientWrap.Proofs.Wrapper.Bodies

/-!
# The literals of a file

The strings of an emitted file are those that the instrumentation puts into the accessors of
resources and into operations (`strings_of_render`). A scanner of the file finds a literal for each
of them and no other, and the code around them is the same whatever they are (`literals_of_render`).
-/

namespace ClientWrap

open ClientWrap.Code ClientWrap.Text

/-! ### Code without literals -/

/-- Names have no literals. -/
theorem Code.Expr.stringsAll_names (names : List String) :
  Expr.stringsAll (names.map .name) = []
  := by
  rw [Expr.stringsAll_eq_flatMap, List.flatMap_map, List.flatMap_eq_nil_iff]
  intro name _
  rfl

namespace Method

variable (m : Method)

/-- The arguments that pass parameters on have no literals. -/
theorem stringsAll_args :
  Expr.stringsAll m.args = []
  := by
  rw [Expr.stringsAll_eq_flatMap, args, List.flatMap_map, List.flatMap_eq_nil_iff]
  intro p _
  dsimp only
  split <;> rfl

/-- Passing a call on has no literals. -/
theorem strings_passOn :
  m.passOn.strings = []
  := by
  rw [passOn]
  split
  · apply m.stringsAll_args
  · change Expr.stringsAll m.args ++ [] = []
    rw [m.stringsAll_args]
    rfl

/-- A method that is passed through has no literals. -/
theorem strings_passThrough (receiver : String) :
  (m.passThrough receiver).strings = []
  := by
  change m.passOn.strings ++ [] = []
  rw [m.strings_passOn]
  rfl

end Method

/-- The access to what a resource wraps has no literals. -/
theorem Resource.strings_innerAccess (r : Resource) :
  r.innerAccess.strings = []
  := by
  change Expr.stringsAll r.namespaceArg = []
  rw [r.namespaceArg_eq, Expr.stringsAll_names]

/-! ### What instrumentations add -/

namespace Metrics

/-- An accessor names the kind of its resource to the recorder. -/
theorem strings_accessorBody (package : String) (c : Client) (r : Resource) :
  (accessorBody package c r).flatMap Stmt.strings = [r.kind]
  := by
  have hmaker : (makeRecorder package r).strings = [r.kind] := by
    change Expr.stringsAll ([.select (.name "c") "metrics"] ++ r.namespaceArg
      ++ [.string r.kind, .select (.name "c") "clientType"]) = _
    rw [Expr.stringsAll_eq_flatMap, List.flatMap_append, List.flatMap_append,
      ← Expr.stringsAll_eq_flatMap r.namespaceArg, r.namespaceArg_eq, Expr.stringsAll_names]
    rfl
  change (makeRecorder package r).strings ++ (((r.innerAccess.strings ++ []) ++ []) ++ []) = _
  rw [hmaker, r.strings_innerAccess]
  rfl

/-- An operation names itself to the recorder. -/
theorem strings_operationBody (m : Method) :
  (operationBody m).flatMap Stmt.strings = [m.metricName]
  := by
  change [m.metricName] ++ (m.passOn.strings ++ []) = _
  rw [m.strings_passOn]
  rfl

/-- The kinds that accessors name and the names that operations report. -/
def names (cs : Clientset) : List String :=
  (cs.clients.flatMap fun c => c.resources.map Resource.kind)
    ++ cs.clients.flatMap fun c => c.resources.flatMap fun r => r.operations.map Method.metricName

end Metrics

namespace Traces

/-- What the literals of a span stand for. -/
def spanStrings (t : TracingSettings) (component : String) (c : Client) (r : Resource)
    (m : Method) : List String :=
  [component, spanName t c r m, "client", c.name, "resource", r.name, "kind", r.kind, "operation",
    m.name]

/-- The accessor of a traced resource has no literals. -/
theorem strings_accessorBody (c : Client) (r : Resource) :
  (accessorBody c r).flatMap Stmt.strings = []
  := by
  change ((r.innerAccess.strings ++ []) ++ []) ++ [] = []
  rw [r.strings_innerAccess]
  rfl

/-- A call with or without an error has no literals. -/
theorem strings_observedCall (t : TracingSettings) (m : Method) :
  (observedCall t m).flatMap Stmt.strings = []
  := by
  rw [observedCall]
  cases m.errorIndex? with
  | none =>
      change m.passOn.strings ++ [] = []
      rw [m.strings_passOn]
      rfl
  | some i =>
      change Expr.stringsAll m.args ++ (Expr.stringsAll (m.rets.map .name) ++ []) = []
      rw [m.stringsAll_args, Expr.stringsAll_names]
      rfl

/-- An operation with a context names its span. -/
theorem strings_operationBody (t : TracingSettings) (component : String) (c : Client) (r : Resource)
    (m : Method) :
  (operationBody t component c r m).flatMap Stmt.strings
    = if m.hasContext then spanStrings t component c r m else []
  := by
  rw [operationBody]
  split
  · change spanStrings t component c r m ++ (observedCall t m).flatMap Stmt.strings = _
    rw [strings_observedCall, List.append_nil]
  · change m.passOn.strings ++ [] = []
    rw [m.strings_passOn]
    rfl

/-- What the literals of all spans stand for. -/
def names (t : TracingSettings) (component : String) (cs : Clientset) : List String :=
  cs.clients.flatMap fun c => c.resources.flatMap fun r =>
    r.traced.flatMap (spanStrings t component c r)

/-- The component and the lead of the names of spans occur in literals only. -/
theorem withStrings_operationBody (t : TracingSettings) (component lead component' : String)
    (c : Client) (r : Resource) (m : Method) :
  (operationBody t component c r m).map (Stmt.withStrings fun _ => "")
    = (operationBody { t with spanLead := lead } component' c r m).map
      (Stmt.withStrings fun _ => "")
  := by
  rw [operationBody, operationBody]
  split <;> rfl

end Traces

/-! ### The file -/

namespace Instrumentation

variable (ins : Instrumentation)

/-- `Wrap` has no literals. -/
theorem strings_wrapFunc (cs : Clientset) :
  (ins.wrapFunc cs).strings = []
  := by
  rw [Func.strings, wrapFunc, List.flatMap_singleton, Stmt.strings, List.flatMap_cons,
    List.flatMap_map, clientsetArgs_eq]
  simp only [Expr.strings, Expr.stringsAll, Expr.stringsAll_names]
  simp

/-- `NewForConfig` has no literals. -/
theorem strings_newForConfigFunc (restPackage : String) (cs : Clientset) :
  (ins.newForConfigFunc restPackage cs).strings = []
  := by
  change Expr.stringsAll ins.clientsetArgs ++ [] ++ [] = []
  rw [clientsetArgs_eq, Expr.stringsAll_names]
  rfl

/-- A constructor has no literals. -/
theorem strings_constructorFunc (name wrapper : String) (type : GoType) (state : List Carried) :
  (constructorFunc name wrapper type state).strings = []
  := by
  have hargs : stateArgs state = (state.map (·.param)).map .name := by
    rw [stateArgs, List.map_map]
    rfl
  change Expr.stringsAll (stateArgs state) ++ [] ++ [] = []
  rw [hargs, Expr.stringsAll_names]
  rfl

/-- The functions without a receiver have no literals. -/
theorem strings_outerFuncs (o : RenderOptions) (cs : Clientset) :
  ∀ f ∈ ins.outerFuncs o cs, f.strings = []
  := by
  apply forall_mem_outerFuncs
  · apply ins.strings_wrapFunc
  · apply ins.strings_newForConfigFunc
  · intro c _
    apply strings_constructorFunc
  · intro c _ r _
    apply strings_constructorFunc

/-- The methods of the clientset wrapper have no literals. -/
theorem strings_clientsetBlock (cs : Clientset) :
  (clientsetBlock cs).funcs.flatMap Func.strings = []
  := by
  rw [clientsetBlock, List.flatMap_map, List.flatMap_eq_nil_iff]
  intro member _
  cases member with
  | direct m => apply m.strings_passThrough
  | wrapped c => rfl

/-- The literals of a client wrapper are those in the accessors of its resources. -/
theorem strings_clientBlock (c : Client) :
  (ins.clientBlock c).funcs.flatMap Func.strings
    = c.resources.flatMap fun r => (ins.accessorBody c r).flatMap Stmt.strings
  := by
  have hmember : ∀ member : Member Resource, (ins.clientMethod c member).strings
      = member.item?.toList.flatMap fun r => (ins.accessorBody c r).flatMap Stmt.strings := by
    intro member
    cases member with
    | direct m => apply m.strings_passThrough
    | wrapped r => simp [Member.item?, clientMethod, resourceAccessor, Func.strings]
  rw [clientBlock, List.flatMap_map, Client.resources, List.filterMap_eq_flatMap_toList,
    List.flatMap_assoc]
  simp only [hmember]

/-- The strings of the methods of all wrappers are those of the accessors of resources and then
those of operations. -/
theorem strings_blocks (cs : Clientset) :
  ((ins.blocks cs).flatMap Block.funcs).flatMap Func.strings
    = (cs.clients.flatMap fun c => c.resources.flatMap fun r =>
        (ins.accessorBody c r).flatMap Stmt.strings)
      ++ cs.clients.flatMap fun c => c.resources.flatMap fun r => r.operations.flatMap fun m =>
        (ins.operationBody c r m).flatMap Stmt.strings
  := by
  have hresource : ∀ c r, (ins.resourceBlock c r).funcs.flatMap Func.strings
      = r.operations.flatMap fun m => (ins.operationBody c r m).flatMap Stmt.strings := by
    intro c r
    rw [resourceBlock, List.flatMap_map]
    rfl
  rw [List.flatMap_assoc, blocks, List.flatMap_cons, List.flatMap_append, List.flatMap_map,
    List.flatMap_assoc, strings_clientsetBlock]
  simp only [List.flatMap_map, strings_clientBlock, hresource]
  rfl

/-- The files of two instrumentations are the same up to strings if all that these add is. -/
theorem withStrings_items {ins ins' : Instrumentation} {f : String → String}
    (hclientsetParams : ins.clientsetParams = ins'.clientsetParams)
    (hclientState : ins.clientState = ins'.clientState)
    (hresourceState : ins.resourceState = ins'.resourceState)
    (haccessor : ∀ c r, (ins.accessorBody c r).map (Stmt.withStrings f)
      = (ins'.accessorBody c r).map (Stmt.withStrings f))
    (hoperation : ∀ c r m, (ins.operationBody c r m).map (Stmt.withStrings f)
      = (ins'.operationBody c r m).map (Stmt.withStrings f))
    (o : RenderOptions) (cs : Clientset) :
  (ins.items o cs).map (Item.withStrings f) = (ins'.items o cs).map (Item.withStrings f)
  := by
  have hwrap : ins.wrapFunc cs = ins'.wrapFunc cs := by
    simp only [wrapFunc, clientsetArgs, hclientsetParams]
  have hnew : ∀ package, ins.newForConfigFunc package cs = ins'.newForConfigFunc package cs := by
    intro package
    simp only [newForConfigFunc, clientsetArgs, hclientsetParams]
  have hmember : ∀ c member, (ins.clientMemberItems c member).map (Item.withStrings f)
      = (ins'.clientMemberItems c member).map (Item.withStrings f) := by
    intro c member
    cases member with
    | direct m => rfl
    | wrapped r =>
        simp only [clientMemberItems, resourceAccessor, List.map_cons, List.map_nil,
          Item.withStrings, Func.withStrings, haccessor]
  have hclient : ∀ c, (ins.clientItems c).map (Item.withStrings f)
      = (ins'.clientItems c).map (Item.withStrings f) := by
    intro c
    simp only [clientItems, hclientState, List.map_append, List.map_flatMap, hmember]
  have hresource : ∀ c r, (ins.resourceItems c r).map (Item.withStrings f)
      = (ins'.resourceItems c r).map (Item.withStrings f) := by
    intro c r
    simp only [resourceItems, hresourceState, List.map_append, List.map_map, Function.comp_def,
      Item.withStrings, Func.withStrings, operationFunc, Method.wrapperFunc, hoperation]
  simp only [items, hwrap, hnew, List.map_append, List.map_flatMap, hclient, hresource]

end Instrumentation

section

variable {ins : Instrumentation} {o : RenderOptions} {cs : Clientset} {file : File}

/-- The strings of a file are those of the accessors of resources and then those of operations. -/
theorem strings_of_render (h : ins.render o cs = .ok file) :
  file.strings
    = (cs.clients.flatMap fun c => c.resources.flatMap fun r =>
        (ins.accessorBody c r).flatMap Stmt.strings)
      ++ cs.clients.flatMap fun c => c.resources.flatMap fun r => r.operations.flatMap fun m =>
        (ins.operationBody c r m).flatMap Stmt.strings
  := by
  have houter : ∀ f ∈ file.funcs.filter (!·.receiver.isSome), f.strings = [] := by
    rw [outerFuncs_of_render h]
    apply ins.strings_outerFuncs
  rw [file.strings_eq, ← flatMap_filter_of_nil houter, File.filter_funcs, methods_of_render h,
    ins.strings_blocks]

/-- The literals of a file with metrics are the names that are counted. -/
theorem Metrics.strings_of_render {package : String}
    (h : (instrumentation package).render o cs = .ok file) :
  file.strings = names cs
  := by
  rw [ClientWrap.strings_of_render h, names]
  simp only [instrumentation, strings_accessorBody, strings_operationBody, ← List.map_eq_flatMap]

/-- The literals of a file with traces are the names of its spans and attributes. -/
theorem Traces.strings_of_render {t : TracingSettings} {component : String}
    (h : (instrumentation t component).render o cs = .ok file) :
  file.strings = names t component cs
  := by
  have htraced : ∀ (c : Client) (r : Resource), (r.operations.flatMap fun m =>
      (operationBody t component c r m).flatMap Stmt.strings)
      = r.traced.flatMap (spanStrings t component c r) := by
    intro c r
    have hrest : ∀ m ∈ r.operations.filter (!·.hasContext),
        (operationBody t component c r m).flatMap Stmt.strings = [] := by
      intro m hm
      rw [strings_operationBody, if_neg (by simpa using (List.mem_filter.mp hm).2)]
    rw [← flatMap_filter_of_nil hrest, Resource.traced]
    apply List.flatMap_congr
    intro m hm
    rw [strings_operationBody, if_pos (List.mem_filter.mp hm).2]
  have haccessors : (cs.clients.flatMap fun c => c.resources.flatMap fun r =>
      (accessorBody c r).flatMap Stmt.strings) = [] := by
    simp only [strings_accessorBody, List.flatMap_eq_nil_iff, implies_true]
  rw [ClientWrap.strings_of_render h, names]
  simp only [instrumentation, htraced, haccessors, List.nil_append]

/-- The literals that a scanner finds in the code of a file are those of its strings. -/
theorem carries_of_render (hins : IsTemplate ins) (hcs : cs.Proper)
    (h : ins.render o cs = .ok file) :
  file.Carries file.strings
  := File.carries_strings (readable_of_render hins.readable hcs h)

/-- With another component and another lead of the names of spans there is a file, and its text
differs in literals only: with nothing in their literals both are the same file. -/
theorem Traces.frame?_of_render {t : TracingSettings} {component : String} (hcs : cs.Proper)
    (h : (instrumentation t component).render o cs = .ok file) (lead component' : String) :
  ∃ file', (instrumentation { t with spanLead := lead } component').render o cs = .ok file'
    ∧ file'.package = file.package ∧ file'.imports = file.imports ∧ file'.frame? = file.frame?
  := by
  obtain ⟨⟨⟩, haliases, hfile⟩ := Outcome.bind_eq_ok.mp h
  obtain rfl := Except.ok.inj hfile
  have hrender : (instrumentation { t with spanLead := lead } component').render o cs
      = .ok ⟨o.package, cs.imports ((instrumentation t component).extraPackages o cs),
        (instrumentation { t with spanLead := lead } component').items o cs⟩ :=
    Outcome.bind_eq_ok.mpr ⟨⟨⟩, haliases, rfl⟩
  refine ⟨_, hrender, rfl, rfl, ?_⟩
  have hitems : ((instrumentation t component).items o cs).map (Item.withStrings fun _ => "")
      = ((instrumentation { t with spanLead := lead } component').items o cs).map
        (Item.withStrings fun _ => "") := by
    apply Instrumentation.withStrings_items
    case hclientsetParams => rfl
    case hclientState => rfl
    case hresourceState => rfl
    case haccessor =>
      intro c r
      rfl
    case hoperation => apply withStrings_operationBody
  rw [← (carries_of_render (IsTemplate.traces _ _) hcs h).frame?,
    ← (carries_of_render (IsTemplate.traces _ _) hcs hrender).frame?, File.withStrings,
    File.withStrings, hitems]

end

/-- The literal for a string is read back as that string whatever stands behind it, and it is on one
line without tabs. In a file the literals stand for the kinds and the names that are counted, or for
the components, names and labels of spans, and for nothing else. With other strings in their place
the code around them is the same, and so it is in the file for another component and another lead of
the names of spans. -/
theorem literals_of_render :
  (∀ s rest : String, readLiteral (quoted s ++ rest).toList = some (s.toList, rest.toList))
    ∧ (∀ s : String, ∀ c ∈ ['\n', '\r', '\t'], c ∉ (quoted s).toList)
    ∧ ∀ (source : SchemaSource) (s : Schema) (ex : Exclusions) (cs : Clientset), source.Parsed →
      source.resolve = .ok s → (s.walk ex).outcome = .ok cs →
      (∀ package o file, (Metrics.instrumentation package).render o cs = .ok file →
        file.text = ofLines (preambleLines file.package file.imports) ++ file.body
          ∧ file.Carries (Metrics.names cs))
      ∧ ∀ t component o file, (Traces.instrumentation t component).render o cs = .ok file →
        file.text = ofLines (preambleLines file.package file.imports) ++ file.body
          ∧ file.Carries (Traces.names t component cs)
          ∧ ∀ lead component', ∃ file',
            (Traces.instrumentation { t with spanLead := lead } component').render o cs = .ok file'
              ∧ file'.package = file.package ∧ file'.imports = file.imports
              ∧ file'.frame? = file.frame?
  := by
  and_intros
  · intro s rest
    rw [quoted, String.toList_append, String.toList_ofList]
    apply readLiteral_quotedChars
  · intro s
    rw [quoted, String.toList_ofList]
    apply not_mem_quotedChars
  · intro source s ex cs hparsed hresolve hwalk
    obtain ⟨hcs, -⟩ := Schema.walk_eq_ok.mp hwalk
    have hproper := hcs.proper (SchemaSource.proper_of_resolve hparsed hresolve)
    constructor
    · intro package o file h
      use file.text_eq
      rw [← Metrics.strings_of_render h]
      apply carries_of_render (IsTemplate.metrics package) hproper h
    · intro t component o file h
      refine ⟨file.text_eq, ?_, ?_⟩
      · rw [← Traces.strings_of_render h]
        apply carries_of_render (IsTemplate.traces t component) hproper h
      · apply Traces.frame?_of_render hproper h

/-- Settings for spans whose names begin with a quote and the end of a line. -/
def escapedTracing : TracingSettings :=
  ⟨"example.com/tracing", "example.com/attribute", "example.com/codes", "\"\n"⟩

/-- A clientset with one operation: the literals of its files, some of whose values have to be
escaped. -/
theorem literals_of_render_pod :
  podSource.Parsed
    ∧ ∃ s file file', podSource.resolve = .ok s
      ∧ (s.walk Exclusions.default).outcome = .ok podClientset
      ∧ (Metrics.instrumentation "example.com/metrics").render
        ⟨"wrapped", "example.com/rest", true⟩ podClientset = .ok file
      ∧ (Traces.instrumentation escapedTracing "pods\\").render
        ⟨"wrapped", "example.com/rest", true⟩ podClientset = .ok file'
      ∧ file.Carries ["Pod", "update_status"]
      ∧ file'.Carries ["pods\\", "\"\n CoreV1/Pod/UpdateStatus", "client", "CoreV1", "resource",
        "Pods", "kind", "Pod", "operation", "UpdateStatus"]
  := by
  have htraces : ((Traces.instrumentation escapedTracing "pods\\").render
      ⟨"wrapped", "example.com/rest", true⟩ podClientset).toOption.isSome := by decide +kernel
  have hnames : Metrics.names podClientset = ["Pod", "update_status"] := by decide +kernel
  have hspans : Traces.names escapedTracing "pods\\" podClientset
      = ["pods\\", "\"\n CoreV1/Pod/UpdateStatus", "client", "CoreV1", "resource", "Pods", "kind",
        "Pod", "operation", "UpdateStatus"] := by decide +kernel
  obtain ⟨s, hresolve, hwalk⟩ := walk_podSource
  obtain ⟨file, hfile⟩ := exists_render_podClientset
  obtain ⟨file', hfile'⟩ := Outcome.exists_of_isSome htraces
  obtain ⟨hcounted, htraced⟩ := literals_of_render.2.2 podSource s Exclusions.default podClientset
    parsed_podSource hresolve hwalk
  refine ⟨parsed_podSource, s, file, file', hresolve, hwalk, hfile, hfile', ?_, ?_⟩
  · rw [← hnames]
    apply (hcounted _ _ file hfile).2
  · rw [← hspans]
    apply (htraced _ _ _ file' hfile').2.1

end ClientWrap
