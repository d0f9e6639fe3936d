import ClientWrap.Proofs.GoType.Aliased
import ClientWrap.Proofs.Schema.Acceptance

/-!
# Contexts and errors in signatures

Whether a method takes the context of a call, and which of its results is an error, is found from
the text of its types. For parsed types this is exact (`Method.Parsed.detects_exactly`): the text
`context.Context` is that of one type only, although aliases forget much of a path, because an alias
without an underscore is the path itself.
-/

namespace ClientWrap

/-! ### Contexts -/

/-- The first parameter is the context of a call. -/
def Method.TakesContext (m : Method) : Prop :=
  m.params.head? = some (.named "context" "Context")

instance : DecidablePred Method.TakesContext :=
  fun m => inferInstanceAs (Decidable (m.params.head? = some (.named "context" "Context")))

/-- Among parsed types only the context of the package `context` has its text. -/
theorem GoType.Parsed.text_eq_context {t : GoType} (h : t.Parsed) :
  t.text = "context.Context" ↔ t = .named "context" "Context"
  := by
  have hcontext : (named "context" "Context").Parsed := by decide +kernel
  constructor
  · intro htext
    have haliased := (h.text_inj hcontext).mp htext
    cases t with
    | named package name =>
        obtain ⟨hpackage, rfl⟩ : Naming.packageAlias package = "context" ∧ name = "Context" :=
          GoType.named.inj haliased
        have hkept : '_' ∉ (Naming.packageAlias package).toList := by
          rw [hpackage]
          decide
        rw [← Naming.packageAlias_of_not_mem hkept, hpackage]
    | _ => contradiction
  · rintro rfl
    decide

/-- Whether a method takes a context is decided by the text of its first parameter. -/
theorem Method.Parsed.hasContext_iff {m : Method} (h : m.Parsed) :
  m.hasContext = true ↔ m.TakesContext
  := by
  rw [hasContext, TakesContext]
  cases hparams : m.params with
  | nil => simp
  | cons t ts =>
      have ht := h.params t (by rw [hparams]; exact List.mem_cons_self)
      simp [ht.text_eq_context]

/-! ### Errors -/

/-- The text is that of no other type, parsed or not. -/
theorem GoType.text_eq_error {t : GoType} :
  t.text = "error" ↔ t = .builtin "error"
  := by
  constructor
  · intro h
    have hchars := congrArg String.toList h
    cases t with
    | builtin name => rw [← h, text]
    | named package name =>
        have hdot : '.' ∈ "error".toList := by
          rw [← hchars]
          simp [text]
        contradiction
    | _ => simp [text] at hchars
  · rintro rfl
    rfl

namespace Method

variable {m : Method}

/-- The results have an error at the index and none behind it. -/
structure LastError (m : Method) (i : ℕ) : Prop where
  error : m.results[i]? = some (.builtin "error")
  last : ∀ j, i < j → m.results[j]? ≠ some (.builtin "error")

/-- No last error is found exactly if no type of the list is the error type. -/
theorem lastErrorFrom_eq_none {l : List GoType} {n : ℕ} :
  lastErrorFrom n l = none ↔ .builtin "error" ∉ l
  := by
  induction l generalizing n with
  | nil => simp [lastErrorFrom]
  | cons t l ih =>
      rw [lastErrorFrom, List.mem_cons, not_or, ← ih (n := n + 1), ← ne_eq, ne_comm, ne_eq,
        ← GoType.text_eq_error]
      cases lastErrorFrom (n + 1) l <;> simp

/-- The index that is found is that of the last error, counted from `n`. -/
theorem exists_of_lastErrorFrom {l : List GoType} {n i : ℕ} (h : lastErrorFrom n l = some i) :
  ∃ j, i = n + j ∧ l[j]? = some (.builtin "error")
    ∧ ∀ k, j < k → l[k]? ≠ some (.builtin "error")
  := by
  induction l generalizing n with
  | nil => contradiction
  | cons t l ih =>
      rw [lastErrorFrom] at h
      cases hrest : lastErrorFrom (n + 1) l with
      | some i' =>
          rw [hrest] at h
          obtain rfl := Option.some.inj h
          obtain ⟨j, hj, herror, hlast⟩ := ih hrest
          use j + 1, by omega, herror
          intro k hk
          obtain ⟨k, rfl⟩ := Nat.exists_eq_add_of_lt hk
          apply hlast (j + 1 + k) (by omega)
      | none =>
          rw [hrest] at h
          obtain ⟨htext, h⟩ := Option.ite_none_right_eq_some.mp h
          obtain rfl := Option.some.inj h
          have hnone := lastErrorFrom_eq_none.mp hrest
          use 0, rfl
          rw [GoType.text_eq_error.mp (eq_of_beq htext)]
          use rfl
          intro k hk hmem
          obtain ⟨k, rfl⟩ := Nat.exists_eq_succ_of_ne_zero hk.ne'
          apply hnone (List.mem_of_getElem? hmem)

/-- There is at most one last error. -/
theorem LastError.unique {i j : ℕ} (hi : m.LastError i) (hj : m.LastError j) :
  i = j
  := by
  rcases Nat.lt_trichotomy i j with hlt | heq | hlt
  · apply absurd hj.error (hi.last j hlt)
  · apply heq
  · apply absurd hi.error (hj.last i hlt)

/-- The index that is found is that of the last error. -/
theorem lastError_of_errorIndex? {i : ℕ} (h : m.errorIndex? = some i) :
  m.LastError i
  := by
  obtain ⟨j, rfl, herror, hlast⟩ := exists_of_lastErrorFrom h
  rw [Nat.zero_add]
  exact ⟨herror, hlast⟩

/-- The index of the last error is found. -/
theorem LastError.errorIndex? {i : ℕ} (h : m.LastError i) :
  m.errorIndex? = some i
  := by
  cases hindex : m.errorIndex? with
  | none => apply absurd (List.mem_of_getElem? h.error) (lastErrorFrom_eq_none.mp hindex)
  | some j => rw [h.unique (lastError_of_errorIndex? hindex)]

/-- A method with parsed types is found to take a context exactly if its first parameter is the type
`Context` of the package `context`. The index that is found among its results is that of the last
one that is the type `error`, and none is found only if there is none. No other parsed type has the
text of one of the two. -/
theorem Parsed.detects_exactly (h : m.Parsed) :
  (m.hasContext ↔ m.TakesContext)
    ∧ (∀ i, m.errorIndex? = some i ↔ m.LastError i)
    ∧ (m.errorIndex? = none ↔ .builtin "error" ∉ m.results)
    ∧ ∀ t : GoType, t.Parsed →
      (t.text = "context.Context" ↔ t = .named "context" "Context")
        ∧ (t.text = "error" ↔ t = .builtin "error")
  := by
  refine ⟨h.hasContext_iff, ?_, lastErrorFrom_eq_none, ?_⟩
  · intro i
    constructor
    · apply lastError_of_errorIndex?
    · apply LastError.errorIndex?
  · intro t ht
    exact ⟨ht.text_eq_context, GoType.text_eq_error⟩

/-- A method with a second context of another package, and with errors behind pointers and
slices. -/
def mergeErrors : Method :=
  ⟨"Merge", [.named "context" "Context", .named "example.com/context" "Context"],
    [.builtin "error", .pointer (.builtin "error"), .builtin "error", .slice (.builtin "error")]⟩

/-- The last of the four results is no error, and the second of the two errors is the one found. -/
theorem Parsed.detects_exactly_mergeErrors :
  mergeErrors.Parsed ∧ mergeErrors.TakesContext ∧ mergeErrors.LastError 2
  := by
  have hparsed : mergeErrors.Parsed := by decide +kernel
  obtain ⟨hcontext, herror, -⟩ := hparsed.detects_exactly
  use hparsed, hcontext.mp (by decide +kernel)
  apply (herror 2).mp
  decide +kernel

end Method

end ClientWrap
