import ClientWrap.Proofs.Method.Detection
import ClientWrap.Proofs.Wrapper.Passing

/-!
# Operations with a span

The code of a traced operation starts a span from the context that it is given, calls the wrapped
operation with the context of the span, and checks the last error among the results if there is one
(`Method.IsValid.traces`).
-/

namespace ClientWrap

open ClientWrap.Code ClientWrap.Text Token

namespace Method

/-- The code starts a span from `arg0`, and the context of the span becomes `arg0` before the
call. -/
def StartsSpan (m : Method) (startSpan : String) (ts : List Token) : Prop :=
  ∃ opening before after labels,
    ts = opening ++ [word "arg0", mark '=', word "ctx"] ++ before ++ m.innerTokens ++ after
      ∧ [word "ctx", mark ',', word "span", mark ':', mark '=', word startSpan, mark '('] <+: opening
      ∧ (calls opening).head? = some (startSpan, [word "arg0"] :: labels)
      ∧ opening.count (word "ctx") = 1
      ∧ word "arg0" ∉ before ∧ word "ctx" ∉ before
      ∧ m.forwarded.head? = some [word "arg0"]

/-- The conditions in a sequence of tokens. -/
def conditions : List Token → List (List Token)
  | [] => []
  | t :: rest =>
    if t = word "if" then rest.takeWhile (· ≠ mark '\x7b') :: conditions rest else conditions rest

/-- The code defines the names of all results, and then its only condition is that there is an error
in the result of the index. This error is recorded. -/
def ChecksError (m : Method) (i : ℕ) (ts : List Token) : Prop :=
  ∃ before after, ts = before ++ m.definitionTokens ++ after
    ∧ conditions before = []
    ∧ conditions after = [[word (retName i), mark '!', mark '=', word "nil"]]
    ∧ (calls after).head? = some ("span.RecordError", [[word (retName i)]])

/-- The code puts a span around the call, and it checks the last error among the results, if there
is one. -/
structure Spans (m : Method) (startSpan : String) (ts : List Token) : Prop where
  start : m.StartsSpan startSpan ts
  checked : ∀ i, m.LastError i → m.ChecksError i ts
  unchecked : .builtin "error" ∉ m.results → conditions ts = []

/-! ### Conditions -/

/-- Code without `if` has no conditions. -/
theorem conditions_eq_nil {ts : List Token} (h : word "if" ∉ ts) :
  conditions ts = []
  := by
  induction ts with
  | nil => rfl
  | cons t ts ih =>
      rw [List.mem_cons, not_or] at h
      rw [conditions, if_neg (Ne.symm h.1), ih h.2]

end Method

/-! ### The start of a span -/

namespace Traces

variable (t : TracingSettings) (component : String) (c : Client) (r : Resource) (m : Method)

/-- The tokens in front of what an operation does with the context of its span. -/
def openingTokens : List Token :=
  (startSpan t component c r m).tokens ++ word "defer" :: word "span.End" :: [mark '(', mark ')']

/-- An attribute of a span is readable. -/
theorem readable_label (key value : String) :
  (label t key value).Readable
  := by
  have hid : "String".toList.all isWordChar := by decide
  exact ⟨isWord_selected (all_isWordChar_packageAlias _) hid, trivial, trivial, trivial⟩

/-- The start of a span is readable. -/
theorem readable_startSpan :
  (startSpan t component c r m).Readable
  := by
  have hid : "StartSpan".toList.all isWordChar := by decide
  have hlabel := readable_label t
  refine ⟨by decide, isWord_selected (all_isWordChar_packageAlias _) hid, ?_⟩
  simp only [Expr.ReadableAll, Expr.Readable, hlabel, and_true]
  decide

/-- The name of the function that starts a span. -/
def startName : String :=
  Naming.packageAlias t.package ++ "." ++ "StartSpan"

/-- The arguments of the call that starts a span, after the context. -/
def spanArgs : List (List Token) :=
  [[literal component], [literal (spanName t c r m)], (label t "client" c.name).tokens,
    (label t "resource" r.name).tokens, (label t "kind" r.kind).tokens,
    (label t "operation" m.name).tokens]

/-- The start of a span calls the function for it with `arg0` first, and otherwise makes labels
only. -/
theorem uses_startSpan :
  ∃ us, (startSpan t component c r m).uses
    = .call (startName t) ([word "arg0"] :: spanArgs t component c r m) :: us
      ∧ ∀ u ∈ us, ∃ args, u = .call (Naming.packageAlias t.attributePackage ++ "." ++ "String") args
  := by
  use Expr.usesAll [.name "arg0", .string component, .string (spanName t c r m),
      label t "client" c.name, label t "resource" r.name, label t "kind" r.kind,
      label t "operation" m.name]
  constructor
  · rfl
  · simp [Expr.usesAll, Expr.uses, label, Expr.text]

/-- The words among the further arguments of the start are the function that makes labels. -/
theorem mem_spanArgs {w : String} {ts : List Token} (hts : ts ∈ spanArgs t component c r m)
    (h : word w ∈ ts) :
  w = Naming.packageAlias t.attributePackage ++ "." ++ "String"
  := by
  have hlabel : ∀ key value, word w ∈ (label t key value).tokens →
      w = Naming.packageAlias t.attributePackage ++ "." ++ "String" := by
    intro key value hw
    simpa [label, Expr.tokens, Expr.tokensEach, commaTokens, Expr.text] using hw
  simp only [spanArgs, List.mem_cons, List.not_mem_nil, or_false] at hts
  rcases hts with rfl | rfl | rfl | rfl | rfl | rfl
  · simp at h
  · simp at h
  all_goals apply hlabel _ _ h

/-- The tokens of the opening after the name of the context. -/
def openingTail : List Token :=
  [mark ',', word "span", mark ':', mark '=', word (startName t), mark '(', word "arg0", mark ',']
    ++ (((spanArgs t component c r m).map (· ++ [mark ','])).flatten
      ++ [mark ')', word "defer", word "span.End", mark '(', mark ')'])

/-- The start of a span defines the context of the span first. -/
theorem openingTokens_eq :
  openingTokens t component c r m = word "ctx" :: openingTail t component c r m
  := rfl

/-- No word of the opening begins a return or a condition, and the context is named once. -/
theorem plain_of_mem_openingTail {w : String} (h : word w ∈ openingTail t component c r m) :
  Plain w ∧ w ≠ "ctx"
  := by
  have hqualified : ∀ package id, '.' ∉ id.toList →
      Plain (Naming.packageAlias package ++ "." ++ id)
        ∧ Naming.packageAlias package ++ "." ++ id ≠ "ctx" := by
    intro package id hid
    exact ⟨plain_qualified package hid, qualified_ne package hid (by decide)⟩
  have hfixed : ∀ w ∈ ["span", "arg0", "defer", "span.End"], Plain w ∧ w ≠ "ctx" := by
    intro w hw
    refine ⟨⟨?_, ?_, ?_⟩, ?_⟩ <;> revert w <;> decide
  rw [openingTail, List.mem_append, List.mem_append, List.mem_flatten] at h
  rcases h with h | ⟨_, hts, h⟩ | h
  · have h : w = "span" ∨ w = startName t ∨ w = "arg0" := by simpa using h
    rcases h with rfl | rfl | rfl
    · apply hfixed _ (by decide)
    · apply hqualified _ _ (by decide)
    · apply hfixed _ (by decide)
  · obtain ⟨ts, hspan, rfl⟩ := List.mem_map.mp hts
    have h : word w ∈ ts := by simpa using h
    rw [mem_spanArgs t component c r m hspan h]
    apply hqualified _ _ (by decide)
  · have h : w = "defer" ∨ w = "span.End" := by simpa using h
    rcases h with rfl | rfl <;> apply hfixed _ (by decide)

/-- The start of a span is plain. -/
theorem plainIn_openingTokens :
  PlainIn (openingTokens t component c r m)
  := by
  intro w hw
  rcases List.mem_cons.mp hw with hctx | hw
  · rw [Token.word.inj hctx]
    constructor <;> decide
  · apply (plain_of_mem_openingTail t component c r m hw).1

/-- The start of a span names its context once. -/
theorem count_ctx :
  (openingTokens t component c r m).count (word "ctx") = 1
  := by
  have htail : word "ctx" ∉ openingTail t component c r m := by
    intro h
    apply (plain_of_mem_openingTail t component c r m h).2 rfl
  rw [openingTokens_eq, List.count_cons_self, List.count_eq_zero.mpr htail]

/-- The first call of the opening starts a span from the first argument. -/
theorem head?_calls_openingTokens :
  (calls (openingTokens t component c r m)).head?
    = some (startName t, [word "arg0"] :: spanArgs t component c r m)
  := by
  obtain ⟨us, huses, -⟩ := uses_startSpan t component c r m
  rw [calls, openingTokens, (startSpan t component c r m).uses_tokens (apart_cons.mpr (by decide)),
    huses]
  rfl

end Traces

/-! ### Traced operations -/

namespace Method

/-- The name of a result is a word. -/
theorem isWord_retName (i : ℕ) :
  IsWord (retName i)
  := by
  apply isWord_of_isIdentifier
  change isIdentifier ("ret" ++ i.repr).toList = true
  rw [String.toList_append, Nat.toList_repr]
  apply isIdentifier_append (by decide)
  intro c hc
  have := Nat.isDigit_of_mem_toDigits (by decide) (by decide) hc
  simp [isIdentRest, Char.isAlphanum, this]

end Method

namespace Traces

variable (t : TracingSettings) (component : String) (c : Client) (r : Resource) {m : Method}

/-- The statements of a traced operation up to the call. -/
def openingBody (m : Method) : List Stmt :=
  [startSpan t component c r m, .step (.atReturn (onSpan "End" [])),
    .step (.assign "arg0" (.name "ctx"))]

/-- The statement that records an error. -/
def recordError (i : ℕ) : Stmt :=
  .ifPresent (Method.retName i)
    [.run (onSpan "RecordError" [.name (Method.retName i)]),
      .run (onSpan "SetStatus"
        [.qualified t.codesPackage "Error", .call (.select (.name (Method.retName i)) "Error") []])]

/-- The statements in front of the call are readable. -/
theorem readable_openingBody (m : Method) :
  ∀ s ∈ openingBody t component c r m, s.Readable
  := by
  intro s hs
  simp only [openingBody, List.mem_cons, List.not_mem_nil, or_false] at hs
  rcases hs with rfl | rfl | rfl
  · apply readable_startSpan
  · have hend : IsWord "span.End" := by decide
    exact ⟨hend, trivial⟩
  · have harg : IsWord "arg0" := by decide
    have hctx : IsWord "ctx" := by decide
    exact ⟨harg, hctx⟩

/-- The check of an error is readable. -/
theorem readable_recordError (i : ℕ) :
  (recordError t i).Readable
  := by
  have herr := Method.isWord_retName i
  have hid : "Error".toList.all isWordChar := by decide
  have hrecord : IsWord "span.RecordError" := by decide
  have hset : IsWord "span.SetStatus" := by decide
  have hcode : IsWord (Naming.packageAlias t.codesPackage ++ "." ++ "Error") :=
    isWord_selected (all_isWordChar_packageAlias _) hid
  have hmessage := isWord_selected herr.2 hid
  use herr
  rw [List.forall_mem_cons, List.forall_mem_singleton]
  exact ⟨⟨hrecord, herr, trivial⟩, hset, hcode, ⟨hmessage, trivial⟩, trivial⟩

/-- In front of the call stand the start of the span, its end at the return, and the exchange of the
context. -/
theorem tokens_openingBody (m : Method) :
  (openingBody t component c r m).flatMap Stmt.tokens
    = openingTokens t component c r m ++ [word "arg0", mark '=', word "ctx"]
  := by
  simp only [openingBody, List.flatMap_cons, List.flatMap_nil, Stmt.tokens_step, openingTokens]
  rfl

/-- In front of the call the span is started and its end is arranged, with nothing but labels
between the two. -/
theorem uses_openingBody (m : Method) :
  ∃ us, (openingBody t component c r m).flatMap Stmt.uses
    = .call (startName t) ([word "arg0"] :: spanArgs t component c r m) ::
      (us ++ [.call "span.End" []])
    ∧ ∀ u ∈ us, ∃ args, u = .call (Naming.packageAlias t.attributePackage ++ "." ++ "String") args
  := by
  obtain ⟨us, huses, hlabels⟩ := uses_startSpan t component c r m
  use us
  refine ⟨?_, hlabels⟩
  simp only [openingBody, List.flatMap_cons, List.flatMap_nil, huses, List.cons_append]
  rfl

/-- Nothing of what is wrapped is called in front of the call. -/
theorem innerCalls_openingBody (m : Method) :
  Method.innerCalls ((openingBody t component c r m).flatMap Stmt.uses) = []
  := by
  obtain ⟨us, huses, hlabels⟩ := uses_openingBody t component c r m
  have hstart : ¬ BeginsWith "c.inner." (startName t) := not_beginsWith_qualified _ (by decide)
  have hlabels : Method.innerCalls us = [] := by
    rw [Method.innerCalls, List.filter_eq_nil_iff]
    intro call hcall
    obtain ⟨u, hu, hcall⟩ := List.mem_filterMap.mp hcall
    obtain ⟨args, rfl⟩ := hlabels u hu
    obtain rfl := Option.some.inj hcall
    have hid : '.' ∉ "String".toList := by decide
    simpa using not_beginsWith_qualified t.attributePackage hid
  have hrest : Method.innerCalls [.call "span.End" []] = [] := by decide
  rw [huses, Method.innerCalls_cons hstart, Method.innerCalls_append, hlabels, hrest,
    List.append_nil]

/-- The check of an error records it and sets the status of the span. -/
theorem uses_recordError (i : ℕ) :
  (recordError t i).uses
    = [.call "span.RecordError" [[word (Method.retName i)]],
      .call "span.SetStatus"
        [[word (Naming.packageAlias t.codesPackage ++ "." ++ "Error")],
          [word (Method.retName i ++ "." ++ "Error"), mark '(', mark ')']],
      .call (Method.retName i ++ "." ++ "Error") []]
  := rfl

/-- The tokens of the statement that records an error, after its first word. -/
def recordErrorTail (i : ℕ) : List Token :=
  [word (Method.retName i), mark '!', mark '=', word "nil", mark '\x7b',
    word "span.RecordError", mark '(', word (Method.retName i), mark ')',
    word "span.SetStatus", mark '(', word (Naming.packageAlias t.codesPackage ++ "." ++ "Error"),
    mark ',', word (Method.retName i ++ "." ++ "Error"), mark '(', mark ')', mark ')',
    mark '\x7d']

/-- The check of an error is a condition. -/
theorem tokens_recordError (i : ℕ) :
  (recordError t i).tokens = word "if" :: recordErrorTail t i
  := rfl

/-- What stands behind `if` in the check of an error is plain. -/
theorem plainIn_recordErrorTail (i : ℕ) :
  PlainIn (recordErrorTail t i)
  := by
  have hfixed : ∀ w ∈ ["nil", "span.RecordError", "span.SetStatus"], Plain w := by
    intro w hw
    refine ⟨?_, ?_, ?_⟩ <;> revert w <;> decide
  intro w hw
  have hw : w = Method.retName i ∨ w = "nil" ∨ w = "span.RecordError" ∨ w = Method.retName i
      ∨ w = "span.SetStatus" ∨ w = Naming.packageAlias t.codesPackage ++ "." ++ "Error"
      ∨ w = Method.retName i ++ "." ++ "Error" := by
    simpa [recordErrorTail] using hw
  rcases hw with rfl | rfl | rfl | rfl | rfl | rfl | rfl
  · apply plain_retName
  · apply hfixed _ (by decide)
  · apply hfixed _ (by decide)
  · apply plain_retName
  · apply hfixed _ (by decide)
  · apply plain_qualified _ (by decide)
  · apply plain_selected (((Method.beginsWith_retName i).append ".").append "Error")
    simp

/-- A call with an error defines its results, checks the error and gives the results back. -/
theorem observedCall_of_errorIndex? {i : ℕ} (h : m.errorIndex? = some i) :
  observedCall t m
    = [.step (.define m.rets (m.innerCall m.args)), recordError t i,
      .step (.give (m.rets.map .name))]
  := by
  rw [observedCall, h]
  rfl

/-- A call without an error is passed on. -/
theorem observedCall_of_none (h : m.errorIndex? = none) :
  observedCall t m = [.step m.passOn]
  := by
  rw [observedCall, h]

variable {i : ℕ}

/-- A call with or without an error is readable. -/
theorem readable_observedCall (h : m.IsValid) :
  ∀ s ∈ observedCall t m, s.Readable
  := by
  cases hi : m.errorIndex? with
  | none =>
      rw [observedCall_of_none t hi, List.forall_mem_singleton]
      apply h.readable_passOn
  | some i =>
      have hrets : ∀ name ∈ m.rets, IsWord name := by
        intro name hname
        obtain ⟨i, -, rfl⟩ := List.mem_map.mp hname
        apply Method.isWord_retName
      intro s hs
      simp only [observedCall_of_errorIndex? t hi, List.mem_cons, List.not_mem_nil, or_false] at hs
      rcases hs with rfl | rfl | rfl
      · exact ⟨hrets, h.readable_innerCall⟩
      · apply readable_recordError
      · apply Expr.readableAll_iff.mpr
        rw [List.forall_mem_map]
        apply hrets

/-- A call with an error is read as the definition of its results, the check and the return of the
results. -/
theorem tokens_observedCall (h : m.IsValid) (hi : m.errorIndex? = some i) :
  (observedCall t m).flatMap Stmt.tokens
    = m.definitionTokens ++ (recordError t i).tokens ++ word "return" :: m.retTokens
  := by
  have hdefine : (Step.define m.rets (m.innerCall m.args)).tokens = m.definitionTokens := by
    rw [Step.tokens, Method.tokens_rets, h.tokens_innerCall, Method.definitionTokens]
  have hgive : (Step.give (m.rets.map .name)).tokens = word "return" :: m.retTokens := by
    rw [Step.tokens, ← nameTokens, Method.tokens_rets]
  rw [observedCall_of_errorIndex? t hi, List.flatMap_cons, List.flatMap_cons, List.flatMap_cons,
    List.flatMap_nil, Stmt.tokens_step, Stmt.tokens_step, hdefine, hgive, List.append_nil,
    List.append_assoc]

/-- A call with an error uses the wrapped method and what the check uses. -/
theorem uses_observedCall (h : m.IsValid) (hi : m.errorIndex? = some i) :
  (observedCall t m).flatMap Stmt.uses
    = .call m.innerName m.forwarded :: (recordError t i).uses
  := by
  have hdefine : (Stmt.step (.define m.rets (m.innerCall m.args))).uses
      = [.call m.innerName m.forwarded] := h.uses_innerCall
  have hgive : (Stmt.step (.give (m.rets.map .name))).uses = [] := by
    change Expr.usesAll (m.rets.map .name) = []
    rw [Expr.usesAll_eq_flatMap, List.flatMap_map, List.flatMap_eq_nil_iff]
    intro name _
    rfl
  rw [observedCall_of_errorIndex? t hi, List.flatMap_cons, List.flatMap_cons, List.flatMap_cons,
    List.flatMap_nil, hdefine, hgive, List.append_nil, List.append_nil]
  rfl

/-- The check of an error calls nothing of what is wrapped. -/
theorem innerCalls_recordError (i : ℕ) :
  Method.innerCalls (recordError t i).uses = []
  := by
  have hmessage : ¬ BeginsWith "c.inner." (Method.retName i ++ "." ++ "Error") := by
    have hret := ((Method.beginsWith_retName i).append ".").append "Error"
    apply hret.not_beginsWith (by decide) (by decide)
  have hnone : Method.innerCalls [] = [] := by decide
  rw [uses_recordError, Method.innerCalls_cons (by decide), Method.innerCalls_cons (by decide),
    Method.innerCalls_cons hmessage, hnone]

/-- A traced operation with a context opens a span and makes its call in it. -/
theorem operationBody_of_hasContext (h : m.hasContext) :
  operationBody t component c r m = openingBody t component c r m ++ observedCall t m
  := by
  rw [operationBody, if_pos h]
  rfl

/-- A traced operation without a context passes the call on. -/
theorem operationBody_of_not_hasContext (h : ¬ m.hasContext) :
  operationBody t component c r m = [.step m.passOn]
  := by
  rw [operationBody, if_neg h]

end Traces

/-! ### Bodies with a span -/

namespace Method

variable {m : Method}

/-- A valid method whose first parameter is a context passes `arg0` on as it is. -/
theorem head?_forwarded (h : m.hasContext) :
  m.forwarded.head? = some [word "arg0"]
  := by
  rw [hasContext] at h
  cases hparams : m.params with
  | nil => simp [hparams] at h
  | cons p ps =>
      have hvariadic : ¬ (m.TakesRest ∧ 0 + 1 = (p :: ps).length) := by
        rintro ⟨⟨element, hlast⟩, hlength⟩
        obtain rfl : ps = [] := by simpa using hlength
        obtain rfl : p = .variadic element := by simpa [hparams] using hlast
        have htext : (GoType.variadic element).text = "context.Context" := by
          simpa [hparams] using h
        have := congrArg String.toList htext
        simp [GoType.text] at this
      rw [forwarded, hparams, List.head?_map, List.length_cons, List.head?_range,
        if_neg (Nat.succ_ne_zero ps.length), Option.map_some, ← List.length_cons (a := p),
        if_neg hvariadic]
      rfl

/-- The tokens of a traced operation before the call and what it gives. -/
def spanTokens (t : TracingSettings) (component : String) (c : Client) (r : Resource)
    (m : Method) : List Token :=
  Traces.openingTokens t component c r m ++ [word "arg0", mark '=', word "ctx"]

section

variable (t : TracingSettings) (component : String) (c : Client) (r : Resource)

/-- What stands in front of the call is plain. -/
theorem plainIn_spanTokens :
  PlainIn (spanTokens t component c r m)
  := by
  apply (Traces.plainIn_openingTokens t component c r m).append
  intro w hw
  have hw : w = "arg0" ∨ w = "ctx" := by simpa using hw
  rcases hw with rfl | rfl <;> constructor <;> decide

/-- The span is started before the call if what is between them does not change the context. -/
theorem startsSpan (hcontext : m.hasContext) (before after : List Token)
    (harg : word "arg0" ∉ before) (hctx : word "ctx" ∉ before) :
  m.StartsSpan (Traces.startName t)
    (spanTokens t component c r m ++ before ++ m.innerTokens ++ after)
  := by
  use Traces.openingTokens t component c r m, before, after, Traces.spanArgs t component c r m, rfl
  and_intros
  · rw [Traces.openingTokens_eq, Traces.openingTail]
    exact ⟨_, rfl⟩
  · apply Traces.head?_calls_openingTokens
  · apply Traces.count_ctx
  · apply harg
  · apply hctx
  · apply head?_forwarded hcontext

/-- The first call behind that of the wrapped method records the error. -/
theorem calls_recordError (i : ℕ) (m : Method) :
  (calls ((Traces.recordError t i).tokens ++ word "return" :: m.retTokens)).head?
    = some ("span.RecordError", [[word (retName i)]])
  := by
  rw [calls, Stmt.uses_tokens _ (apart_cons.mpr (by decide)), Traces.uses_recordError]
  rfl

/-- The condition on the error of a result. -/
theorem conditions_recordError (i : ℕ) (m : Method) :
  conditions ((Traces.recordError t i).tokens ++ word "return" :: m.retTokens)
    = [[word (retName i), mark '!', mark '=', word "nil"]]
  := by
  have hif : word "if" ∉ Traces.recordErrorTail t i ++ word "return" :: m.retTokens := by
    have hrecord := (Traces.plainIn_recordErrorTail t i).not_mem_if
    have hrets := (plainIn_retTokens m).not_mem_if
    simp [hrecord, hrets]
  rw [Traces.tokens_recordError, List.cons_append, conditions, if_pos rfl, conditions_eq_nil hif,
    Traces.recordErrorTail]
  simp

end

section

variable {t : TracingSettings} {component : String} {c : Client} {r : Resource} {f : Func}

section

variable (h : m.IsValid) (hcontext : m.hasContext)
  (hf : f.body = Traces.operationBody t component c r m)

include h hcontext hf

/-- The body of a traced operation is readable. -/
theorem IsValid.readable_traced :
  ∀ s ∈ f.body, s.Readable
  := by
  rw [hf, Traces.operationBody_of_hasContext t component c r hcontext, List.forall_mem_append]
  exact ⟨Traces.readable_openingBody t component c r m, Traces.readable_observedCall t h⟩

/-- The code of a traced operation is what opens the span and then the call. -/
theorem IsValid.codeOf_traced :
  codeOf f = spanTokens t component c r m ++ (Traces.observedCall t m).flatMap Stmt.tokens
  := by
  rw [codeOf_eq (h.readable_traced hcontext hf), hf,
    Traces.operationBody_of_hasContext t component c r hcontext, List.flatMap_append,
    Traces.tokens_openingBody, spanTokens]

/-- A traced operation uses what opens the span uses and then what the call uses. -/
theorem IsValid.uses_traced :
  uses (codeOf f)
    = (Traces.openingBody t component c r m).flatMap Stmt.uses
      ++ (Traces.observedCall t m).flatMap Stmt.uses
  := by
  rw [uses_codeOf (h.readable_traced hcontext hf), hf,
    Traces.operationBody_of_hasContext t component c r hcontext, List.flatMap_append]

/-- A traced operation without an error passes the call on. -/
theorem IsValid.traces_passOn (hnone : m.errorIndex? = none) :
  (m.CallsOnce (codeOf f) ∧ m.GivesBack (codeOf f)) ∧ m.Spans (Traces.startName t) (codeOf f)
  := by
  have hcode := h.codeOf_traced hcontext hf
  have huses := h.uses_traced hcontext hf
  have hspan := plainIn_spanTokens (m := m) t component c r
  rw [Traces.observedCall_of_none t hnone, List.flatMap_singleton] at hcode huses
  rw [Stmt.tokens_step] at hcode
  use h.callsOnce_passOn hcode hspan huses (Traces.innerCalls_openingBody t component c r m)
  constructor
  · have hstarts := startsSpan t component c r hcontext
    rw [hcode, h.tokens_passOn]
    split
    · simpa using hstarts [] []
    · simpa using hstarts [word "return"] []
  · intro i hi
    rw [hi.errorIndex?] at hnone
    contradiction
  · intro _
    apply conditions_eq_nil
    have hinner := m.if_not_mem_innerTokens
    rw [hcode, h.tokens_passOn, List.mem_append, not_or]
    use hspan.not_mem_if
    split <;> simp [hinner]

/-- A traced operation with an error checks it before it gives back the results. -/
theorem IsValid.traces_rets {i : ℕ} (hi : m.errorIndex? = some i) :
  (m.CallsOnce (codeOf f) ∧ m.GivesBack (codeOf f)) ∧ m.Spans (Traces.startName t) (codeOf f)
  := by
  have hspan := plainIn_spanTokens (m := m) t component c r
  have hrets := plainIn_retTokens m
  have hrecord := Traces.plainIn_recordErrorTail t i
  have hlast := lastError_of_errorIndex? hi
  have hcode := h.codeOf_traced hcontext hf
  rw [Traces.tokens_observedCall t h hi, ← List.append_assoc, ← List.append_assoc] at hcode
  have hcalled : codeOf f = spanTokens t component c r m ++ (m.retTokens ++ [mark ':', mark '='])
      ++ m.innerTokens ++ ((Traces.recordError t i).tokens ++ word "return" :: m.retTokens) := by
    rw [hcode, definitionTokens]
    simp
  have hdefined : PlainIn (m.retTokens ++ [mark ':', mark '=']) := by
    apply hrets.append
    simp [PlainIn]
  refine ⟨⟨?_, ?_⟩, ?_, ?_, ?_⟩
  · apply callsOnce_of_uses _ _ hcalled (hspan.append hdefined).not_namesInner _
      (h.uses_traced hcontext hf)
    · rw [Traces.uses_observedCall t h hi, innerCalls_append, Traces.innerCalls_openingBody,
        ← List.singleton_append, innerCalls_append, innerCalls_inner, Traces.innerCalls_recordError]
      rfl
    · have hif : ¬ NamesInner (word "if") := by simp +decide [NamesInner]
      have hreturn : ¬ NamesInner (word "return") := by simp +decide [NamesInner]
      rw [Traces.tokens_recordError, List.cons_append, List.forall_mem_cons, List.forall_mem_append,
        List.forall_mem_cons]
      exact ⟨hif, hrecord.not_namesInner, hreturn, hrets.not_namesInner⟩
  · have hresults : m.results ≠ [] := by
      intro hnil
      have herror := hlast.error
      rw [hnil] at herror
      contradiction
    rw [hcode]
    apply givesBack_rets hresults hspan.not_mem_return
    rw [Traces.tokens_recordError, List.mem_cons, not_or]
    exact ⟨by decide, hrecord.not_mem_return⟩
  · rw [hcalled]
    have hret : ∀ w, ¬ BeginsWith "ret" w → word w ∉ m.retTokens ++ [mark ':', mark '='] := by
      intro w hw hmem
      have hmem : word w ∈ m.retTokens := by simpa using hmem
      obtain ⟨i, rfl⟩ := exists_of_mem_retTokens hmem
      apply hw (beginsWith_retName i)
    apply startsSpan t component c r hcontext
    · apply hret _ (by decide)
    · apply hret _ (by decide)
  · intro j hj
    obtain rfl := hlast.unique hj
    use spanTokens t component c r m, (Traces.recordError t i).tokens ++ word "return" :: m.retTokens
    and_intros
    · rw [hcode, List.append_assoc]
    · apply conditions_eq_nil hspan.not_mem_if
    · apply conditions_recordError
    · apply calls_recordError
  · intro hnone
    apply absurd (List.mem_of_getElem? hlast.error) hnone

/-- A traced operation calls the wrapped method once, gives back what it gives, and does both in a
span. -/
theorem IsValid.traces :
  (m.CallsOnce (codeOf f) ∧ m.GivesBack (codeOf f)) ∧ m.Spans (Traces.startName t) (codeOf f)
  := by
  cases hi : m.errorIndex? with
  | none => apply h.traces_passOn hcontext hf hi
  | some i => apply h.traces_rets hcontext hf hi

end

end

end Method

end ClientWrap
