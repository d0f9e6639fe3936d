import ClientWrap.Proofs.Wrapper.Methods
import ClientWrap.Proofs.Wrapper.Spans

/-!
# Methods of wrappers forward their calls

A method of a wrapper calls the wrapped method once, with all its parameters, and gives back what
that call gives (`Method.forwards`). This holds of what is passed through, counted or traced, and a
reader of the tokens of the body finds it.
-/

namespace ClientWrap

open ClientWrap.Code ClientWrap.Text Token

namespace Metrics

/-- The tokens of the report of an operation. -/
def recordTokens (m : Method) : List Token :=
  [word "defer", word "c.recorder.Record", mark '(', literal m.metricName, mark ')']

/-- The body of a counted operation is readable. -/
theorem readable_operationBody {m : Method} (h : m.IsValid) :
  ∀ s ∈ operationBody m, s.Readable
  := by
  intro s hs
  simp only [operationBody, List.mem_cons, List.not_mem_nil, or_false] at hs
  rcases hs with rfl | rfl
  · have hrecord : IsWord "c.recorder.Record" := by decide
    exact ⟨hrecord, trivial, trivial⟩
  · apply h.readable_passOn

/-- The report of an operation is plain. -/
theorem plainIn_recordTokens (m : Method) :
  PlainIn (recordTokens m)
  := by
  intro w hw
  have hw : w = "defer" ∨ w = "c.recorder.Record" := by simpa [recordTokens] using hw
  rcases hw with rfl | rfl <;> constructor <;> decide

/-- A counted operation reports itself and passes the call on. -/
theorem tokens_operationBody (m : Method) :
  (operationBody m).flatMap Stmt.tokens = recordTokens m ++ m.passOn.tokens
  := by
  simp only [operationBody, List.flatMap_cons, List.flatMap_nil, Stmt.tokens_step, List.append_nil]
  rfl

/-- A counted operation uses the recorder and the wrapped method. -/
theorem uses_operationBody (m : Method) :
  (operationBody m).flatMap Stmt.uses
    = .call "c.recorder.Record" [[literal m.metricName]] :: m.passOn.uses
  := by
  simp only [operationBody, List.flatMap_cons, List.flatMap_nil, List.append_nil]
  rfl

end Metrics

namespace Method

variable {m : Method}

/-- A counted operation calls the wrapped method once and gives back what it gives. -/
theorem IsValid.counts (h : m.IsValid) {f : Func} (hf : f.body = Metrics.operationBody m) :
  m.CallsOnce (codeOf f) ∧ m.GivesBack (codeOf f)
  := by
  have hreadable : ∀ s ∈ f.body, s.Readable := by
    rw [hf]
    apply Metrics.readable_operationBody h
  have hrecord : innerCalls [.call "c.recorder.Record" [[literal m.metricName]]] = [] :=
    innerCalls_cons (by decide)
  apply h.callsOnce_passOn _ (Metrics.plainIn_recordTokens m) _ hrecord
  · rw [codeOf_eq hreadable, hf, Metrics.tokens_operationBody]
  · rw [uses_codeOf hreadable, hf, Metrics.uses_operationBody]
    rfl

end Method

end ClientWrap
