import ClientWrap.Proofs.Naming.SnakeCase
import ClientWrap.Proofs.Wrapper.Bodies

/-!
# Reports of operations

The lines of a file that report an operation agree with the table of the resources
(`reports_of_render`): an operation is counted once under its own name, and it has a span exactly if
its first parameter is a context.
-/

namespace ClientWrap

open ClientWrap.Code ClientWrap.Text Token

/-- The functions that report operations. -/
def reportNames : List String :=
  ["c.recorder.Record", "span.End", "span.SetStatus"]

/-- The words of the name of the method in lower case, with underscores between them. -/
def Method.reported (m : Method) : String :=
  lowerString (String.ofList (Naming.separated m.name.toList))

/-- Calls of a method are counted under the words of its name. -/
theorem Method.metricName_eq_reported (m : Method) :
  m.metricName = m.reported
  := by
  rw [metricName, Naming.snakeCase, Naming.snakeCaseChars, Naming.breakCapitals_breakWords,
    reported, lowerString, String.toList_ofList]

/-- The method with its lines stands for the operation, and its only report is the name of the
operation. -/
def CountsOperation (receiver : String) (m : Method) (block : String × List String) : Prop :=
  OpensMethod receiver m block.1
    ∧ calling "c.recorder.Record" block.2
      = ["\tdefer c.recorder.Record(" ++ quoted m.reported ++ ")"]

/-- The method with its lines stands for the operation. It ends a span if the operation takes a
context, and sets the status of the span in one place if the operation can also give back an
error. -/
def SpansOperation (receiver : String) (m : Method) (block : String × List String) : Prop :=
  OpensMethod receiver m block.1
    ∧ calling "span.End" block.2 = (if m.TakesContext then ["\tdefer span.End()"] else [])
    ∧ (calling "span.SetStatus" block.2).length
      = if m.TakesContext ∧ .builtin "error" ∈ m.results then 1 else 0

/-- Whether a proper method takes a context is decided by the text of its first parameter. -/
theorem Method.Proper.hasContext_iff {m : Method} (h : m.Proper) :
  m.hasContext = true ↔ m.TakesContext
  := h.parsed.hasContext_iff

/-! ### Names that report nothing -/

section

variable {name w : String}

/-- The names of functions that report have dots. -/
theorem dot_mem_of_mem_reportNames (h : name ∈ reportNames) :
  '.' ∈ name.toList
  := by
  revert name
  decide

/-- No identifier reports. -/
theorem ne_of_isIdentifier (h : name ∈ reportNames) (hw : isIdentifier w.toList) :
  name ≠ w
  := by
  rintro rfl
  apply not_mem_of_isIdentifier hw rfl (dot_mem_of_mem_reportNames h)

/-- Nothing that is wrapped reports, and no method of a result does. -/
theorem ne_of_beginsWith_inner (h : name ∈ reportNames)
    (hw : BeginsWith "c.inner." w ∨ BeginsWith "inner." w ∨ BeginsWith "ret" w) :
  name ≠ w
  := by
  rintro rfl
  revert name
  decide

/-- A function of another package reports only if it has one of three names. -/
theorem ne_qualified (h : name ∈ reportNames) (package : String) {id : String}
    (hid : isIdentifier id.toList) (hne : id ∉ ["Record", "End", "SetStatus"]) :
  name ≠ Naming.packageAlias package ++ "." ++ id
  := by
  have hnames : ∀ name ∈ reportNames, ∃ base, ∃ id ∈ ["Record", "End", "SetStatus"],
      isIdentifier id.toList ∧ name = base ++ "." ++ id := by
    intro name hname
    simp only [reportNames, List.mem_cons, List.not_mem_nil, or_false] at hname
    rcases hname with rfl | rfl | rfl
    · exact ⟨"c.recorder", "Record", by decide, by decide, by decide⟩
    · exact ⟨"span", "End", by decide, by decide, by decide⟩
    · exact ⟨"span", "SetStatus", by decide, by decide, by decide⟩
  intro hname
  obtain ⟨base, id', hmem, hid', h'⟩ := hnames name h
  obtain ⟨-, rfl⟩ := GoType.qualified_inj hid hid' (hname.symm.trans h')
  apply hne hmem

end

/-! ### Functions that report nothing -/

/-- The function calls none of the functions that report operations. -/
def Code.Func.ReportsNothing (f : Func) : Prop :=
  ∀ name ∈ reportNames, name ∉ calledIn (f.body.flatMap Stmt.uses)

/-- A method that is passed through reports nothing. -/
theorem Method.IsValid.passThrough_reportsNothing {m : Method} (h : m.IsValid) (receiver : String) :
  (m.passThrough receiver).ReportsNothing
  := by
  intro name hname
  rw [h.uses_passThrough, calledIn_call, calledIn_nil, List.mem_singleton]
  apply ne_of_beginsWith_inner hname (Or.inl (beginsWith_append "c.inner." m.name))

namespace Instrumentation

variable {ins : Instrumentation} {o : RenderOptions} {cs : Clientset}

/-- The accessor of a client reports nothing. -/
theorem clientAccessor_reportsNothing (c : Client) :
  (clientAccessor c).ReportsNothing
  := by
  intro name _
  rw [uses_clientAccessor]
  apply List.not_mem_nil

/-- A constructor reports nothing. -/
theorem constructorFunc_reportsNothing (name wrapper : String) (type : GoType)
    (state : List Carried) :
  (constructorFunc name wrapper type state).ReportsNothing
  := by
  intro name' _
  rw [uses_constructorFunc]
  apply List.not_mem_nil

/-- `Wrap` reports nothing. -/
theorem wrapFunc_reportsNothing (hcs : cs.Proper) :
  (ins.wrapFunc cs).ReportsNothing
  := by
  intro name hname
  rw [uses_wrapFunc, calledIn_fresh, calledIn_flatMap, List.mem_flatMap]
  rintro ⟨c, hc, hmem⟩
  rw [calledIn_call, calledIn_call, calledIn_nil, List.mem_pair] at hmem
  rcases hmem with h | h
  · apply ne_of_isIdentifier hname (hcs.client hc).isIdentifier_constructor h
  · apply ne_of_beginsWith_inner hname (Or.inr (Or.inl (beginsWith_append "inner." c.name))) h

/-- `NewForConfig` reports nothing. -/
theorem newForConfigFunc_reportsNothing (restPackage : String) :
  (ins.newForConfigFunc restPackage cs).ReportsNothing
  := by
  intro name hname
  rw [uses_newForConfigFunc, calledIn_call, calledIn_call, calledIn_nil, List.mem_pair, not_or]
  constructor
  · apply ne_qualified hname _ (by decide) (by decide)
  · apply ne_of_isIdentifier hname (by decide)

/-- The functions without a receiver report nothing. -/
theorem outerFuncs_reportsNothing (hcs : cs.Proper) :
  ∀ f ∈ ins.outerFuncs o cs, f.ReportsNothing
  := by
  apply forall_mem_outerFuncs
  · apply wrapFunc_reportsNothing hcs
  · apply newForConfigFunc_reportsNothing
  · intro c _
    apply constructorFunc_reportsNothing
  · intro c _ r _
    apply constructorFunc_reportsNothing

/-- The methods of the clientset wrapper report nothing. -/
theorem clientsetBlock_reportsNothing (hcs : cs.Proper) :
  ∀ f ∈ (clientsetBlock cs).funcs, f.ReportsNothing
  := by
  intro f hf
  obtain ⟨member, hmember, rfl⟩ := List.mem_map.mp hf
  have hproper := hcs.members member hmember
  cases member with
  | direct m => apply Method.IsValid.passThrough_reportsNothing (Method.Proper.valid hproper)
  | wrapped c => apply clientAccessor_reportsNothing

end Instrumentation

/-- The accessor of a resource reports nothing. -/
theorem IsTemplate.resourceAccessor_reportsNothing {ins : Instrumentation} (h : IsTemplate ins)
    {c : Client} {r : Resource} (hc : c.Proper) (hr : r.Proper) :
  (ins.resourceAccessor c r).ReportsNothing
  := by
  intro name hname
  have hconstructor := ne_of_isIdentifier hname (hr.isIdentifier_constructor hc)
  have hinner := ne_of_beginsWith_inner hname
    (Or.inl (beginsWith_append "c.inner." r.accessor.name))
  cases h with
  | metrics package =>
      have hmaker : name ≠ Metrics.makerName package r := by
        rw [Metrics.makerName]
        split <;> apply ne_qualified hname _ (by decide) (by decide)
      change name ∉ calledIn ((Metrics.accessorBody package c r).flatMap Stmt.uses)
      rw [Metrics.uses_accessorBody]
      simp only [calledIn_call, calledIn_nil, List.mem_cons, List.not_mem_nil, or_false, not_or]
      exact ⟨hmaker, hconstructor, hinner⟩
  | traces t component =>
      change name ∉ calledIn ((Traces.accessorBody c r).flatMap Stmt.uses)
      rw [Traces.uses_accessorBody]
      simp only [calledIn_call, calledIn_nil, List.mem_cons, List.not_mem_nil, or_false, not_or]
      exact ⟨hconstructor, hinner⟩

/-- The methods of a client wrapper report nothing. -/
theorem IsTemplate.clientBlock_reportsNothing {ins : Instrumentation} (h : IsTemplate ins)
    {c : Client} (hc : c.Proper) :
  ∀ f ∈ (ins.clientBlock c).funcs, f.ReportsNothing
  := by
  intro f hf
  obtain ⟨member, hmember, rfl⟩ := List.mem_map.mp hf
  have hproper := hc.members member hmember
  cases member with
  | direct m => apply Method.IsValid.passThrough_reportsNothing (Method.Proper.valid hproper)
  | wrapped r => apply h.resourceAccessor_reportsNothing hc hproper

/-! ### Operations -/

/-- Passing a call on reports nothing. -/
theorem Method.IsValid.calling_passOn {m : Method} (h : m.IsValid) {name : String}
    (hname : name ∈ reportNames) :
  calling name (Stmt.step m.passOn).lines = []
  := by
  have hreadable : (Stmt.step m.passOn).Readable := h.readable_passOn
  apply hreadable.calling_eq_nil
  rw [Stmt.uses, h.uses_passOn, calledIn_call, calledIn_nil, List.mem_singleton]
  apply ne_of_beginsWith_inner hname (Or.inl (beginsWith_append "c.inner." m.name))

namespace Metrics

/-- A counted operation has one line that reports it. -/
theorem calling_operationBody {m : Method} (h : m.IsValid) :
  calling "c.recorder.Record" ((operationBody m).flatMap Stmt.lines)
    = ["\tdefer c.recorder.Record(" ++ quoted m.reported ++ ")"]
  := by
  have hreadable := readable_operationBody h
  rw [operationBody, List.forall_mem_cons, List.forall_mem_singleton] at hreadable
  have hrecord : "c.recorder.Record" ∈ calledIn (Step.atReturn (.call
      (.select (.select (.name "c") "recorder") "Record") [.string m.metricName])).uses :=
    List.mem_cons_self
  rw [operationBody, List.flatMap_cons, List.flatMap_singleton, calling_append,
    calling_step hreadable.1, h.calling_passOn (by decide), if_pos hrecord, List.append_nil,
    List.singleton_inj]
  apply String.toList_inj.mp
  simp [Step.text, Expr.text, Expr.texts, m.metricName_eq_reported]

end Metrics

namespace Traces

variable {t : TracingSettings} {component : String} {c : Client} {r : Resource} {m : Method}
  {name : String}

/-- The start of a span reports nothing. -/
theorem calling_startSpan (hname : name ∈ reportNames) :
  calling name (startSpan t component c r m).lines = []
  := by
  obtain ⟨us, huses, hlabels⟩ := uses_startSpan t component c r m
  apply (readable_startSpan t component c r m).calling_eq_nil
  rw [huses, calledIn_call, List.mem_cons, not_or]
  constructor
  · apply ne_qualified hname t.package <;> decide
  · intro hmem
    obtain ⟨call, hcall, rfl⟩ := List.mem_map.mp hmem
    obtain ⟨u, hu, hcall⟩ := List.mem_filterMap.mp hcall
    obtain ⟨args, rfl⟩ := hlabels u hu
    obtain rfl := Option.some.inj hcall
    have hid : isIdentifier "String".toList := by decide
    apply ne_qualified hname t.attributePackage hid (by decide) rfl

/-- The statements before the call have one line that ends a span. -/
theorem calling_openingBody (hname : name ∈ reportNames) :
  calling name ((openingBody t component c r m).flatMap Stmt.lines)
    = if name = "span.End" then ["\tdefer span.End()"] else []
  := by
  have hreadable := readable_openingBody t component c r m
  rw [openingBody, List.forall_mem_cons, List.forall_mem_cons, List.forall_mem_singleton]
    at hreadable
  obtain ⟨-, hend, hassign⟩ := hreadable
  have hend : calling name (Stmt.step (.atReturn (onSpan "End" []))).lines
      = if name = "span.End" then ["\tdefer span.End()"] else [] := by
    rw [calling_step hend]
    apply if_congr List.mem_singleton rfl rfl
  have hassign : calling name (Stmt.step (.assign "arg0" (.name "ctx"))).lines = [] := by
    rw [calling_step hassign]
    rfl
  rw [openingBody, List.flatMap_cons, List.flatMap_cons, List.flatMap_singleton, calling_append,
    calling_append, calling_startSpan hname, hend, hassign, List.nil_append, List.append_nil]

/-- An error is recorded with one line that sets the status of a span. -/
theorem length_calling_recordError (hname : name ∈ reportNames) {i : ℕ}
    (h : (recordError t i).Readable) :
  (calling name (recordError t i).lines).length = if name = "span.SetStatus" then 1 else 0
  := by
  have hrecord : name ∉ calledIn
      (Step.run (onSpan "RecordError" [.name (Method.retName i)])).uses := by
    change name ∉ ["span.RecordError"]
    revert name
    decide
  have hret := ((Method.beginsWith_retName i).append ".").append "Error"
  have herror := ne_of_beginsWith_inner hname (Or.inr (Or.inr hret))
  have hset : name ∈ calledIn (Step.run (onSpan "SetStatus" [.qualified t.codesPackage "Error",
      .call (.select (.name (Method.retName i)) "Error") []])).uses ↔ name = "span.SetStatus" := by
    change name ∈ ["span.SetStatus", Method.retName i ++ "." ++ "Error"] ↔ _
    simp [herror]
  rw [recordError, calling_ifPresent h, List.length_map,
    List.filter_cons_of_neg (by simpa using hrecord)]
  by_cases hstatus : name = "span.SetStatus"
  · rw [if_pos hstatus, List.filter_cons_of_pos (by simpa using hset.mpr hstatus)]
    rfl
  · rw [if_neg hstatus, List.filter_cons_of_neg (by simpa using mt hset.mp hstatus)]
    rfl

/-- The call of an operation with an error has one line that sets the status of a span. -/
theorem length_calling_observedCall (hname : name ∈ reportNames) (h : m.IsValid) :
  (calling name ((observedCall t m).flatMap Stmt.lines)).length
    = if name = "span.SetStatus" ∧ .builtin "error" ∈ m.results then 1 else 0
  := by
  have hreadable := readable_observedCall t h
  have hinner : name ≠ m.innerName :=
    ne_of_beginsWith_inner hname (Or.inl (beginsWith_append "c.inner." m.name))
  cases hi : m.errorIndex? with
  | none =>
      have herror := Method.lastErrorFrom_eq_none.mp hi
      rw [observedCall_of_none t hi, List.flatMap_singleton, h.calling_passOn hname, if_neg]
      · rfl
      · intro hset
        apply herror hset.2
  | some i =>
      have herror := List.mem_of_getElem? (Method.lastError_of_errorIndex? hi).error
      rw [observedCall_of_errorIndex? t hi, List.forall_mem_cons, List.forall_mem_cons,
        List.forall_mem_singleton] at hreadable
      obtain ⟨hdefine, hrecord, hgive⟩ := hreadable
      have hdefine : calling name (Stmt.step (.define m.rets (m.innerCall m.args))).lines = [] := by
        apply hdefine.calling_eq_nil
        change name ∉ calledIn (m.innerCall m.args).uses
        rw [h.uses_innerCall, calledIn_call, calledIn_nil, List.mem_singleton]
        apply hinner
      have hgive : calling name (Stmt.step (.give (m.rets.map .name))).lines = [] := by
        apply hgive.calling_eq_nil
        change name ∉ calledIn (Expr.usesAll (m.rets.map .name))
        rw [usesAll_names]
        apply List.not_mem_nil
      rw [observedCall_of_errorIndex? t hi, List.flatMap_cons, List.flatMap_cons,
        List.flatMap_singleton, calling_append, calling_append, hdefine, hgive, List.nil_append,
        List.append_nil, length_calling_recordError hname hrecord]
      simp only [herror, and_true]

/-- An operation ends a span exactly if it takes a context. -/
theorem calling_end (h : m.Proper) :
  calling "span.End" ((operationBody t component c r m).flatMap Stmt.lines)
    = if m.TakesContext then ["\tdefer span.End()"] else []
  := by
  by_cases hcontext : m.hasContext
  · have hobserved : calling "span.End" ((observedCall t m).flatMap Stmt.lines) = [] := by
      apply List.eq_nil_of_length_eq_zero
      rw [length_calling_observedCall (by decide) h.valid, if_neg]
      rintro ⟨hstatus, -⟩
      contradiction
    rw [if_pos (h.hasContext_iff.mp hcontext), operationBody_of_hasContext t component c r hcontext,
      List.flatMap_append, calling_append, calling_openingBody (by decide), if_pos rfl, hobserved,
      List.append_nil]
  · rw [if_neg (mt h.hasContext_iff.mpr hcontext),
      operationBody_of_not_hasContext t component c r hcontext, List.flatMap_singleton,
      h.valid.calling_passOn (by decide)]

/-- An operation sets the status of a span exactly if it takes a context and can give back an
error. -/
theorem length_calling_status (h : m.Proper) :
  (calling "span.SetStatus" ((operationBody t component c r m).flatMap Stmt.lines)).length
    = if m.TakesContext ∧ .builtin "error" ∈ m.results then 1 else 0
  := by
  by_cases hcontext : m.hasContext
  · have hopening : calling "span.SetStatus" ((openingBody t component c r m).flatMap Stmt.lines)
        = [] := by
      rw [calling_openingBody (by decide), if_neg (by decide)]
    rw [operationBody_of_hasContext t component c r hcontext, List.flatMap_append, calling_append,
      hopening, List.nil_append, length_calling_observedCall (by decide) h.valid]
    simp only [true_and, h.hasContext_iff.mp hcontext]
  · rw [operationBody_of_not_hasContext t component c r hcontext, List.flatMap_singleton,
      h.valid.calling_passOn (by decide), if_neg]
    · rfl
    · rintro ⟨htakes, -⟩
      apply hcontext (h.hasContext_iff.mpr htakes)

end Traces

/-! ### The file -/

section

variable {s : Schema} {ex : Exclusions} {ins : Instrumentation} {o : RenderOptions}
  {cs : Clientset} {file : File} {name : String}

section

variable (hins : IsTemplate ins) (hproper : cs.Proper) (h : ins.render o cs = .ok file)

include hins hproper h

/-- A function of a file that reports nothing has no line with a report. -/
theorem calling_eq_nil_of_render {f : Func} (hf : f ∈ file.funcs) (hnothing : f.ReportsNothing)
    (hname : name ∈ reportNames) :
  calling name f.bodyLines = []
  := by
  have hreadable := File.readable_func (readable_of_render hins.readable hproper h) f hf
  apply hreadable.calling_eq_nil (hnothing name hname)

/-- The lines of a file that report operations are in the operations of its resources. -/
theorem calling_of_render (hname : name ∈ reportNames) :
  calling name (Text.lines file.body)
    = cs.clients.flatMap fun c => c.resources.flatMap fun r => r.operations.flatMap fun m =>
      calling name (ins.operationFunc c r m).bodyLines
  := by
  have houter : ∀ f ∈ file.funcs.filter (!·.receiver.isSome), calling name f.bodyLines = [] := by
    intro f hf
    apply calling_eq_nil_of_render hins hproper h (List.mem_of_mem_filter hf) _ hname
    rw [outerFuncs_of_render h] at hf
    apply ins.outerFuncs_reportsNothing hproper f hf
  have hblock : ∀ b ∈ ins.blocks cs, (∀ f ∈ b.funcs, f.ReportsNothing) →
      b.funcs.flatMap (fun f => calling name f.bodyLines) = [] := by
    intro b hb hnothing
    rw [List.flatMap_eq_nil_iff]
    intro f hf
    apply calling_eq_nil_of_render hins hproper h (mem_funcs_of_mem_blocks h hb hf)
      (hnothing f hf) hname
  rw [File.calling_lines (dot_mem_of_mem_reportNames hname)
      (printable_of_render hins.printable hproper h) (readable_of_render hins.readable hproper h),
    ← flatMap_filter_of_nil houter, File.filter_funcs, methods_of_render h, List.flatMap_assoc,
    Instrumentation.blocks, List.flatMap_cons, List.flatMap_append, List.flatMap_map,
    List.flatMap_assoc]
  have hclientset := hblock _ List.mem_cons_self
    (Instrumentation.clientsetBlock_reportsNothing hproper)
  have hclients : (cs.clients.flatMap fun c => (ins.clientBlock c).funcs.flatMap fun f =>
      calling name f.bodyLines) = [] := by
    rw [List.flatMap_eq_nil_iff]
    intro c hc
    apply hblock _ _ (hins.clientBlock_reportsNothing (hproper.client hc))
    apply ins.clientBlock_mem_blocks hc
  rw [hclientset, hclients, List.nil_append, List.nil_append]
  simp only [List.flatMap_map, Instrumentation.resourceBlock]

/-- The methods of a resource wrapper and its operations in turn. -/
theorem forall₂_operations (hcs : s.IsClientset ex cs) (hnames : cs.names.Nodup) {c : Client}
    (hc : c ∈ cs.clients) {r : Resource} (hr : r ∈ c.resources)
    {P : Method → String × List String → Prop}
    (hP : ∀ m ∈ r.operations, P m ((ins.operationFunc c r m).header,
      (ins.operationFunc c r m).bodyLines)) :
  List.Forall₂ P r.operations
    (braced ("func (c *" ++ r.wrapper c ++ ") ") (Text.lines file.body))
  := by
  have hbraced := braced_of_render hins.printable hproper hcs hnames h
    (ins.resourceBlock_mem_blocks hc hr)
  change braced ("func (c *" ++ r.wrapper c ++ ") ") (Text.lines file.body) = _ at hbraced
  rw [hbraced, Instrumentation.resourceBlock, List.map_map, List.forall₂_map_right_iff,
    List.forall₂_same]
  apply hP

end

/-- The line that opens an operation has its signature. -/
theorem opensMethod_operationFunc (ins : Instrumentation) (c : Client) (r : Resource) (m : Method) :
  OpensMethod (r.wrapper c) m (ins.operationFunc c r m).header
  := (m.wrapperFunc_implements _ _).opensMethod

end

/-- What is listed once for each element with a property is as long as the list of these
elements. -/
theorem length_flatMap_ite {α β : Type} (p : α → Prop) [DecidablePred p] (b : β) (as : List α) :
  (as.flatMap fun a => if p a then [b] else []).length = (as.filter p).length
  := by
  induction as with
  | nil => rfl
  | cons a as ih =>
      rw [List.flatMap_cons, List.length_append, ih, List.filter_cons]
      by_cases hp : p a <;> simp [hp, Nat.add_comm]

/-- What is listed for each resource has as many elements as the numbers of the resources in the
table say together. -/
theorem length_eq_sum_rows {α : Type} {cs : Clientset} {f : ResourceRow → ℕ}
    {parts : Client → Resource → List α}
    (h : ∀ c ∈ cs.clients, ∀ r ∈ c.resources, (parts c r).length
      = f ⟨c.name, r.name, r.kind, r.scope, r.operations.length, r.traced.length⟩) :
  (cs.clients.flatMap fun c => c.resources.flatMap (parts c)).length = (cs.rows.map f).sum
  := by
  rw [Clientset.rows, List.map_flatMap, List.length_flatMap, List.flatMap_def, List.sum_flatten,
    List.map_map]
  congr 1
  apply List.map_congr_left
  intro c hc
  rw [List.length_flatMap, Function.comp_apply, List.map_map]
  congr 1
  apply List.map_congr_left
  intro r hr
  apply h c hc r hr

/-- The reports of a file agree with the table of the resources. In a file that counts calls every
operation reports its own name once, so that there are as many reports as operations. In a file with
spans an operation ends a span exactly if it takes a context, so that there are as many ends as
traced operations, and it sets the status of the span exactly if it can also give back an error. No
other method reports anything. -/
theorem reports_of_render {source : SchemaSource} {s : Schema} {ex : Exclusions}
    {cs : Clientset} (hparsed : source.Parsed) (hresolve : source.resolve = .ok s)
    (hwalk : (s.walk ex).outcome = .ok cs) :
  (∀ package o file, (Metrics.instrumentation package).render o cs = .ok file →
    (∀ c ∈ cs.clients, ∀ r ∈ c.resources, List.Forall₂ (CountsOperation (r.wrapper c)) r.operations
      (braced ("func (c *" ++ r.wrapper c ++ ") ") (Text.lines file.body)))
    ∧ (calling "c.recorder.Record" (Text.lines file.body)).length
      = (cs.rows.map ResourceRow.operations).sum)
  ∧ (∀ t component o file, (Traces.instrumentation t component).render o cs = .ok file →
    (∀ c ∈ cs.clients, ∀ r ∈ c.resources, List.Forall₂ (SpansOperation (r.wrapper c)) r.operations
      (braced ("func (c *" ++ r.wrapper c ++ ") ") (Text.lines file.body)))
    ∧ (calling "span.End" (Text.lines file.body)).length = (cs.rows.map ResourceRow.traced).sum)
  ∧ ∀ ins o file, IsTemplate ins → ins.render o cs = .ok file →
    file.text = ofLines (preambleLines file.package file.imports) ++ file.body
    ∧ ∀ wrapper ∈ "clientset" :: cs.clients.map Client.wrapper,
      ∀ block ∈ braced ("func (c *" ++ wrapper ++ ") ") (Text.lines file.body),
      ∀ name ∈ reportNames, calling name block.2 = []
  := by
  obtain ⟨hcs, hnames⟩ := Schema.walk_eq_ok.mp hwalk
  have hproper := hcs.proper (SchemaSource.proper_of_resolve hparsed hresolve)
  and_intros
  · intro package o file h
    have hins := IsTemplate.metrics package
    have hoperation : ∀ c ∈ cs.clients, ∀ r ∈ c.resources, ∀ m ∈ r.operations,
        calling "c.recorder.Record" ((Metrics.instrumentation package).operationFunc c r m).bodyLines
          = ["\tdefer c.recorder.Record(" ++ quoted m.reported ++ ")"] := by
      intro c hc r hr m hm
      apply Metrics.calling_operationBody
      apply (((hproper.client hc).resource hr).operations m hm).valid
    constructor
    · intro c hc r hr
      apply forall₂_operations hins hproper h hcs hnames hc hr
      intro m hm
      exact ⟨opensMethod_operationFunc _ c r m, hoperation c hc r hr m hm⟩
    · rw [calling_of_render hins hproper h (by decide)]
      apply length_eq_sum_rows
      intro c hc r hr
      rw [List.flatMap_congr (hoperation c hc r hr), ← List.map_eq_flatMap, List.length_map]
  · intro t component o file h
    have hins := IsTemplate.traces t component
    have hend : ∀ c ∈ cs.clients, ∀ r ∈ c.resources, ∀ m ∈ r.operations,
        calling "span.End" ((Traces.instrumentation t component).operationFunc c r m).bodyLines
          = if m.TakesContext then ["\tdefer span.End()"] else [] := by
      intro c hc r hr m hm
      apply Traces.calling_end (((hproper.client hc).resource hr).operations m hm)
    constructor
    · intro c hc r hr
      apply forall₂_operations hins hproper h hcs hnames hc hr
      intro m hm
      refine ⟨opensMethod_operationFunc _ c r m, hend c hc r hr m hm, ?_⟩
      apply Traces.length_calling_status (((hproper.client hc).resource hr).operations m hm)
    · rw [calling_of_render hins hproper h (by decide)]
      apply length_eq_sum_rows
      intro c hc r hr
      have htraced : r.traced = r.operations.filter Method.TakesContext := by
        apply List.filter_congr
        intro m hm
        have hcontext := (((hproper.client hc).resource hr).operations m hm).hasContext_iff
        apply Bool.eq_iff_iff.mpr
        rw [hcontext, decide_eq_true_iff]
      rw [List.flatMap_congr (hend c hc r hr), length_flatMap_ite, htraced]
  · intro ins o file hins h
    use file.text_eq
    have hblock : ∀ b ∈ ins.blocks cs, (∀ f ∈ b.funcs, f.ReportsNothing) →
        ∀ block ∈ braced ("func (c *" ++ b.receiver ++ ") ") (Text.lines file.body),
          ∀ name ∈ reportNames, calling name block.2 = [] := by
      intro b hb hnothing block hblock name hname
      rw [braced_of_render hins.printable hproper hcs hnames h hb] at hblock
      obtain ⟨f, hf, rfl⟩ := List.mem_map.mp hblock
      apply calling_eq_nil_of_render hins hproper h (mem_funcs_of_mem_blocks h hb hf)
        (hnothing f hf) hname
    rw [List.forall_mem_cons, List.forall_mem_map]
    constructor
    · apply hblock _ List.mem_cons_self (Instrumentation.clientsetBlock_reportsNothing hproper)
    · intro c hc
      apply hblock _ (Instrumentation.clientBlock_mem_blocks hc)
        (hins.clientBlock_reportsNothing (hproper.client hc))

/-- A clientset with one operation: its call is counted under the words of its name, and it ends one
span. -/
theorem reports_of_render_pod :
  podSource.Parsed
    ∧ ∃ s counted spanned, podSource.resolve = .ok s
      ∧ (s.walk Exclusions.default).outcome = .ok podClientset
      ∧ (Metrics.instrumentation "example.com/metrics").render
        ⟨"wrapped", "example.com/rest", true⟩ podClientset = .ok counted
      ∧ (Traces.instrumentation TracingSettings.default "pods").render
        ⟨"wrapped", "example.com/rest", true⟩ podClientset = .ok spanned
      ∧ (∃ line, (braced "func (c *wrappedCoreV1InterfacePodInterface) "
          (Text.lines counted.body)).map
          (fun block => (block.1, calling "c.recorder.Record" block.2))
        = [(line, ["\tdefer c.recorder.Record(\"update_status\")"])])
      ∧ (calling "c.recorder.Record" (Text.lines counted.body)).length = 1
      ∧ (∃ line, (braced "func (c *wrappedCoreV1InterfacePodInterface) "
          (Text.lines spanned.body)).map
          (fun block => (block.1, calling "span.End" block.2))
        = [(line, ["\tdefer span.End()"])])
      ∧ (calling "span.End" (Text.lines spanned.body)).length = 1
  := by
  have hspanned : ((Traces.instrumentation TracingSettings.default "pods").render
      ⟨"wrapped", "example.com/rest", true⟩ podClientset).toOption.isSome := by decide +kernel
  have hoperations : (podClientset.rows.map ResourceRow.operations).sum = 1 := by decide
  have htraced : (podClientset.rows.map ResourceRow.traced).sum = 1 := by decide
  have hreceiver : "func (c *" ++ podResource.wrapper coreClient ++ ") "
      = "func (c *wrappedCoreV1InterfacePodInterface) " := by decide
  have hline : "\tdefer c.recorder.Record(" ++ quoted updatePodStatus.reported ++ ")"
      = "\tdefer c.recorder.Record(\"update_status\")" := by decide +kernel
  obtain ⟨s, hresolve, hwalk⟩ := walk_podSource
  obtain ⟨counted, hcounted⟩ := exists_render_podClientset
  obtain ⟨spanned, hspanned⟩ := Outcome.exists_of_isSome hspanned
  obtain ⟨hcounts, hspans, -⟩ := reports_of_render parsed_podSource hresolve hwalk
  obtain ⟨hcounts, hcount⟩ := hcounts _ _ counted hcounted
  obtain ⟨hspans, hspan⟩ := hspans _ _ _ spanned hspanned
  have hclient := List.mem_singleton_self coreClient
  have hresource := List.mem_singleton_self podResource
  refine ⟨parsed_podSource, s, counted, spanned, hresolve, hwalk, hcounted, hspanned, ?_, ?_, ?_,
    ?_⟩
  · have hcounts := hcounts coreClient hclient podResource hresource
    obtain ⟨block, ⟨-, hblock⟩, hbraced⟩ := Outcome.exists_of_forall₂_singleton hcounts
    rw [hline] at hblock
    rw [hreceiver] at hbraced
    use block.1
    rw [hbraced, List.map_singleton, hblock]
  · rw [hcount, hoperations]
  · have hspans := hspans coreClient hclient podResource hresource
    obtain ⟨block, ⟨-, hblock, -⟩, hbraced⟩ := Outcome.exists_of_forall₂_singleton hspans
    rw [if_pos (by decide)] at hblock
    rw [hreceiver] at hbraced
    use block.1
    rw [hbraced, List.map_singleton, hblock]
  · rw [hspan, htraced]

end ClientWrap
