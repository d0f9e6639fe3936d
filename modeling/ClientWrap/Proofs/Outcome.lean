import ClientWrap.Report
import Mathlib.Data.List.Forall2

/-!
# Outcomes

A computation that may fail succeeds exactly if all its steps do: statements of this form for
sequences of two steps (`bind_eq_ok`), for checks (`guard_eq_ok`), for steps over a list
(`mapM_eq_ok`) and for computations that note events (`outcome_mapM`). Steps over a list fail as the
first of them that fails (`error?_mapM`).
-/

namespace ClientWrap.Outcome

variable {ε α β : Type}

/-- A sequence succeeds exactly if its parts succeed in turn. -/
theorem bind_eq_ok {x : Except ε α} {f : α → Except ε β} {b : β} :
  x >>= f = .ok b ↔ ∃ a, x = .ok a ∧ f a = .ok b
  := by
  cases x <;> simp [bind, Except.bind]

/-- A mapped outcome is a success exactly if the outcome is one. -/
theorem map_eq_ok {x : Except ε α} {f : α → β} {b : β} :
  x.map f = .ok b ↔ ∃ a, x = .ok a ∧ f a = b
  := by
  cases x <;> simp [Except.map]

/-- Putting failures in other terms neither adds nor changes a success. -/
theorem mapError_eq_ok {ε' : Type} {x : Except ε α} {f : ε → ε'} {a : α} :
  x.mapError f = .ok a ↔ x = .ok a
  := by
  cases x <;> simp [Except.mapError]

/-- A computation has a result if something is known of its result. -/
theorem exists_of_toOption {x : Except ε α} {f : α → β} {b : β}
    (h : x.toOption.map f = some b) :
  ∃ a, x = .ok a ∧ f a = b
  := by
  cases x with
  | error _ => contradiction
  | ok a => exact ⟨a, rfl, Option.some.inj h⟩

/-- An outcome that gives some result is a success. -/
theorem exists_of_isSome {x : Except ε α} (h : x.toOption.isSome) :
  ∃ a, x = .ok a
  := by
  cases x with
  | error _ => contradiction
  | ok a => exact ⟨a, rfl⟩

/-- What follows a check is reached if the check finds no fault. -/
theorem guard_eq_ok {c : Prop} [Decidable c] {e : ε} {f : PUnit → Except ε β} {b : β} :
  (if c then (throw e : Except ε PUnit) >>= f else f ⟨⟩) = .ok b ↔ ¬ c ∧ f ⟨⟩ = .ok b
  := by
  split
  · next h => simp [h, throw, throwThe, MonadExceptOf.throw, bind, Except.bind]
  · next h => simp [h]

/-- A computation fails exactly if it has no result. -/
theorem exists_error_iff {x : Except ε α} :
  (∃ e, x = .error e) ↔ ¬ ∃ a, x = .ok a
  := by
  cases x <;> simp

/-- The results of a step for each element of a list. -/
theorem mapM_eq_ok {f : α → Except ε β} {l : List α} {bs : List β} :
  l.mapM f = .ok bs ↔ List.Forall₂ (fun a b => f a = .ok b) l bs
  := by
  induction l generalizing bs with
  | nil =>
      rw [List.mapM_nil, List.forall₂_nil_left_iff]
      constructor
      · intro h
        apply (Except.ok.inj h).symm
      · rintro rfl
        rfl
  | cons a l ih =>
      rw [List.mapM_cons, bind_eq_ok, List.forall₂_cons_left_iff]
      constructor
      · rintro ⟨b, hb, h⟩
        obtain ⟨bs', hbs', h⟩ := bind_eq_ok.mp h
        exact ⟨b, bs', hb, ih.mp hbs', (Except.ok.inj h).symm⟩
      · rintro ⟨b, bs', hb, hbs', rfl⟩
        use b, hb
        apply bind_eq_ok.mpr
        exact ⟨bs', ih.mpr hbs', rfl⟩

/-- Results can be listed if every element has one. -/
theorem exists_forall₂ {R : α → β → Prop} {l : List α} (h : ∀ a ∈ l, ∃ b, R a b) :
  ∃ bs, List.Forall₂ R l bs
  := by
  induction l with
  | nil => exact ⟨[], List.Forall₂.nil⟩
  | cons a l ih =>
      obtain ⟨⟨b, hb⟩, hl⟩ := List.forall_mem_cons.mp h
      obtain ⟨bs, hbs⟩ := ih hl
      exact ⟨b :: bs, List.Forall₂.cons hb hbs⟩

/-- Steps that succeed for each element of a list succeed together. -/
theorem exists_mapM {f : α → Except ε β} {l : List α} (h : ∀ a ∈ l, ∃ b, f a = .ok b) :
  ∃ bs, l.mapM f = .ok bs
  := by
  obtain ⟨bs, hbs⟩ := exists_forall₂ h
  use bs
  apply mapM_eq_ok.mpr hbs

/-- Results that are all described by the elements in one way are determined by them. -/
theorem map_eq_of_forall₂ {γ : Type} {f : α → γ} {g : β → γ} {l : List α} {bs : List β}
    (h : List.Forall₂ (fun a b => g b = f a) l bs) :
  bs.map g = l.map f
  := by
  induction h with
  | nil => rfl
  | cons hab _ ih => rw [List.map_cons, List.map_cons, hab, ih]

/-- A single element has a single result. -/
theorem exists_of_forall₂_singleton {R : α → β → Prop} {a : α} {bs : List β}
    (h : List.Forall₂ R [a] bs) :
  ∃ b, R a b ∧ bs = [b]
  := by
  obtain ⟨b, rest, hb, hrest, rfl⟩ := List.forall₂_cons_left_iff.mp h
  obtain rfl := List.forall₂_nil_left_iff.mp hrest
  exact ⟨b, hb, rfl⟩

/-- Every element has a result. -/
theorem exists_of_mem_left {R : α → β → Prop} {l : List α} {bs : List β}
    (h : List.Forall₂ R l bs) {a : α} (ha : a ∈ l) :
  ∃ b ∈ bs, R a b
  := by
  induction h with
  | nil => contradiction
  | cons hab _ ih =>
      rcases List.mem_cons.mp ha with rfl | ha
      · exact ⟨_, List.mem_cons_self, hab⟩
      · obtain ⟨b, hb, hR⟩ := ih ha
        exact ⟨b, List.mem_cons_of_mem _ hb, hR⟩

/-- Every result is that of an element. -/
theorem exists_of_mem_right {R : α → β → Prop} {l : List α} {bs : List β}
    (h : List.Forall₂ R l bs) {b : β} (hb : b ∈ bs) :
  ∃ a ∈ l, R a b
  := exists_of_mem_left h.flip hb

/-- Steps that agree on all elements of a list give the same sequence. -/
theorem mapM_congr {M : Type → Type} [Monad M] [LawfulMonad M] {f g : α → M β} {l : List α}
    (h : ∀ a ∈ l, f a = g a) :
  l.mapM f = l.mapM g
  := by
  induction l with
  | nil => rfl
  | cons a l ih =>
      obtain ⟨ha, hl⟩ := List.forall_mem_cons.mp h
      rw [List.mapM_cons, List.mapM_cons, ha, ih hl]

/-- The outcome of a step for each element of a list is that of the steps without the events. -/
theorem outcome_mapM (f : α → Report ε β) (l : List α) :
  (l.mapM f).outcome = l.mapM fun a => (f a).outcome
  := by
  induction l with
  | nil => rfl
  | cons a l ih =>
      rw [List.mapM_cons, List.mapM_cons, Report.outcome_bind]
      congr 1
      funext b
      rw [Report.outcome_bind, ih]
      congr 1

/-! ### Errors -/

/-- The error of a computation that fails. -/
def error? : Except ε α → Option ε
  | .ok _ => none
  | .error e => some e

/-- The error of an outcome is the one it fails with. -/
theorem error?_eq_some {x : Except ε α} {e : ε} :
  error? x = some e ↔ x = .error e
  := by
  cases x <;> simp [error?]

/-- An outcome without an error is a success. -/
theorem error?_eq_none {x : Except ε α} :
  error? x = none ↔ ∃ a, x = .ok a
  := by
  cases x <;> simp [error?]

/-- A step for each element of a list fails as the first step that does. -/
theorem error?_mapM (f : α → Except ε β) (l : List α) :
  error? (l.mapM f) = l.findSome? fun a => error? (f a)
  := by
  induction l with
  | nil => rfl
  | cons a l ih =>
      rw [List.mapM_cons, List.findSome?_cons, ← ih]
      cases f a with
      | error e => rfl
      | ok b => cases l.mapM f <;> rfl

end ClientWrap.Outcome
