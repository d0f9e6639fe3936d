import ClientWrap.Proofs.Outcome
import ClientWrap.Proofs.Text.Sorted
import ClientWrap.Schema.Resolve

/-!
# Method sets

The methods of an interface form a set in which every name occurs once. `IsMethodSet set P` says
that `set` lists the methods with the property `P` in ascending order of their names. Such a list
is determined by the property (`IsMethodSet.eq`).

Main statements:

* `foldlM_addMethod_eq_ok`: methods are added to a set exactly if the result is a method set.
* `exists_foldlM_addMethod`: this is so if methods of one name agree.
-/

namespace ClientWrap

open ClientWrap.Text

/-! ### Valid methods -/

/-- The method may be declared: it is exported, only its last parameter stands for the remaining
arguments, and none of its results does. -/
structure Method.IsValid (m : Method) : Prop where
  exported : isExported m.name.toList
  params : ∀ t ∈ m.params.dropLast, ¬ t.isVariadic
  results : ∀ t ∈ m.results, ¬ t.isVariadic

/-- The valid methods are those that are not refused. -/
theorem Method.fault?_eq_none_iff (m : Method) (interface : String) :
  m.fault? interface = none ↔ m.IsValid
  := by
  rw [fault?]
  constructor
  · intro h
    split at h
    · contradiction
    · next hname =>
        split at h
        · contradiction
        · next hparams =>
            split at h
            · contradiction
            · next hresults =>
                constructor
                · simpa using hname
                · simpa using hparams
                · simpa using hresults
  · intro h
    rw [if_neg (by simp [h.exported]), if_neg, if_neg]
    · simpa using h.results
    · simpa using h.params

/-! ### Sets of methods -/

/-- Methods of one name with the property are equal. -/
def Agree (P : Method → Prop) : Prop :=
  ∀ m n, P m → P n → m.name = n.name → m = n

/-- Fewer methods agree if more do. -/
theorem Agree.mono {P Q : Method → Prop} (h : Agree Q) (hPQ : ∀ m, P m → Q m) :
  Agree P
  := by
  intro m n hm hn
  apply h m n (hPQ m hm) (hPQ n hn)

/-- The list holds the methods with the property, each once, in ascending order of names. -/
structure IsMethodSet (set : List Method) (P : Method → Prop) : Prop where
  ascending : AscendingBy Method.name set
  mem_iff : ∀ m, m ∈ set ↔ P m

namespace IsMethodSet

variable {set set' : List Method} {P Q : Method → Prop}

/-- The empty list is the set of no methods. -/
theorem nil :
  IsMethodSet [] fun _ => False
  := by
  constructor
  · apply AscendingBy.nil
  · simp

/-- A method set is one of every equivalent property. -/
theorem congr (h : IsMethodSet set P) (hPQ : ∀ m, P m ↔ Q m) :
  IsMethodSet set Q
  := by
  use h.ascending
  intro m
  rw [h.mem_iff, hPQ]

/-- A method set is determined by the property of its methods. -/
theorem eq (h : IsMethodSet set P) (h' : IsMethodSet set' P) :
  set = set'
  := by
  apply AscendingBy.ext h.ascending h'.ascending
  intro m
  rw [h.mem_iff, h'.mem_iff]

/-- The methods of a set agree. -/
theorem agree (h : IsMethodSet set P) :
  Agree P
  := by
  intro m n hm hn
  apply h.ascending.eq_of_key ((h.mem_iff m).mpr hm) ((h.mem_iff n).mpr hn)

end IsMethodSet

/-! ### One more method -/

/-- A method is put into a set that has no other method of its name. -/
theorem Method.insertInto?_eq_some {m : Method} {set set' : List Method}
    (h : AscendingBy Method.name set) (hset : m.insertInto? set = some set') :
  AscendingBy Method.name set' ∧ ∀ n, n ∈ set' ↔ n ∈ set ∨ n = m
  := by
  induction set generalizing set' with
  | nil =>
      obtain rfl := Option.some.inj hset
      use List.pairwise_singleton _ _
      simp
  | cons k set ih =>
      rw [insertInto?] at hset
      split at hset
      · next hlt =>
          obtain rfl := Option.some.inj hset
          use h.cons_cons hlt
          intro n
          rw [List.mem_cons, or_comm]
      · next hlt =>
          split at hset
          · split at hset
            · next heq =>
                obtain rfl := Option.some.inj hset
                use h
                intro n
                simp only [List.mem_cons, heq]
                tauto
            · contradiction
          · next hne =>
              obtain ⟨rest, hrest, rfl⟩ := Option.map_eq_some_iff.mp hset
              obtain ⟨hascending, hmem⟩ := ih (AscendingBy.cons_iff.mp h).2 hrest
              have hkm := lt_of_le_of_ne (not_lt.mp hlt) (Ne.symm hne)
              constructor
              · apply h.cons_of_mem hkm hascending
                intro n hn
                apply ((hmem n).mp hn).symm
              · intro n
                rw [List.mem_cons, hmem, List.mem_cons, or_assoc]

/-- A method is refused only by a set that has another method of its name. -/
theorem Method.exists_of_insertInto?_eq_none {m : Method} {set : List Method}
    (hset : m.insertInto? set = none) :
  ∃ n ∈ set, n.name = m.name ∧ n ≠ m
  := by
  induction set with
  | nil => contradiction
  | cons k set ih =>
      rw [insertInto?] at hset
      split at hset
      · contradiction
      · split at hset
        · next hname =>
            split at hset
            · contradiction
            · next hne =>
                use k, List.mem_cons_self, hname.symm
                apply Ne.symm hne
        · obtain ⟨n, hn, hname⟩ := ih (Option.map_eq_none_iff.mp hset)
          use n, List.mem_cons_of_mem _ hn

variable {interface : String} {set set' : List Method} {P : Method → Prop}

/-- A method is added to a set exactly if it can be inserted. -/
theorem addMethod_eq_ok {m : Method} :
  addMethod interface set m = .ok set' ↔ m.insertInto? set = some set'
  := by
  rw [addMethod]
  cases m.insertInto? set <;> simp

/-- With a method added to it a set is the set of its methods and that one. -/
theorem isMethodSet_of_addMethod {m : Method} (hset : IsMethodSet set P)
    (h : addMethod interface set m = .ok set') :
  IsMethodSet set' fun n => P n ∨ n = m
  := by
  obtain ⟨hascending, hmem⟩ :=
    Method.insertInto?_eq_some hset.ascending (addMethod_eq_ok.mp h)
  use hascending
  intro n
  rw [hmem, hset.mem_iff]

/-- A method that agrees with those of a set can be added. -/
theorem exists_addMethod {m : Method} (hset : IsMethodSet set P)
    (hagree : Agree fun n => P n ∨ n = m) :
  ∃ set', addMethod interface set m = .ok set'
  := by
  cases h : m.insertInto? set with
  | some set' => exact ⟨set', addMethod_eq_ok.mpr h⟩
  | none =>
      obtain ⟨n, hn, hname, hne⟩ := Method.exists_of_insertInto?_eq_none h
      have hP := (hset.mem_iff n).mp hn
      apply absurd (hagree n m (Or.inl hP) (Or.inr rfl) hname) hne

/-! ### More methods -/

/-- Methods can be added to a set if methods of one name agree. -/
theorem exists_foldlM_addMethod (interface : String) (ms : List Method)
    (hset : IsMethodSet set P) (hagree : Agree fun n => P n ∨ n ∈ ms) :
  ∃ set', ms.foldlM (addMethod interface) set = .ok set'
  := by
  induction ms generalizing set P with
  | nil => exact ⟨set, rfl⟩
  | cons m ms ih =>
      have hfirst : Agree fun n => P n ∨ n = m := by
        apply hagree.mono
        rintro n (hn | rfl)
        · apply Or.inl hn
        · apply Or.inr List.mem_cons_self
      obtain ⟨first, hadd⟩ := exists_addMethod hset hfirst
      obtain ⟨set', hset'⟩ := ih (isMethodSet_of_addMethod hset hadd) <| by
        apply hagree.mono
        rintro n ((hn | rfl) | hn)
        · apply Or.inl hn
        · apply Or.inr List.mem_cons_self
        · apply Or.inr (List.mem_cons_of_mem _ hn)
      use set'
      rw [List.foldlM_cons]
      apply Outcome.bind_eq_ok.mpr
      exact ⟨first, hadd, hset'⟩

/-- Methods are added to a set exactly if there is a set with these methods, which is the
result. -/
theorem foldlM_addMethod_eq_ok {ms : List Method} (hset : IsMethodSet set P) :
  ms.foldlM (addMethod interface) set = .ok set' ↔ IsMethodSet set' fun n => P n ∨ n ∈ ms
  := by
  have hsound : ∀ {set' : List Method}, ms.foldlM (addMethod interface) set = .ok set' →
      IsMethodSet set' fun n => P n ∨ n ∈ ms := by
    intro set' h
    induction ms generalizing set P with
    | nil =>
        obtain rfl := Except.ok.inj h
        apply hset.congr
        simp
    | cons m ms ih =>
        rw [List.foldlM_cons] at h
        obtain ⟨first, hadd, h⟩ := Outcome.bind_eq_ok.mp h
        apply (ih (isMethodSet_of_addMethod hset hadd) h).congr
        intro n
        rw [List.mem_cons, or_assoc]
  constructor
  · apply hsound
  · intro h
    obtain ⟨set'', hset''⟩ := exists_foldlM_addMethod interface ms hset h.agree
    rw [hset'', (hsound hset'').eq h]

/-- The methods that an interface itself declares are added if they are valid. -/
theorem foldlM_addOwnMethod_eq_ok {ms : List Method} :
  ms.foldlM (addOwnMethod interface) set = .ok set'
    ↔ (∀ m ∈ ms, m.IsValid) ∧ ms.foldlM (addMethod interface) set = .ok set'
  := by
  have hstep : ∀ {m : Method} {first set : List Method},
      addOwnMethod interface set m = .ok first
        ↔ m.IsValid ∧ addMethod interface set m = .ok first := by
    intro m first set
    rw [addOwnMethod, ← Method.fault?_eq_none_iff m interface]
    cases m.fault? interface <;> simp
  induction ms generalizing set with
  | nil => simp
  | cons m ms ih =>
      rw [List.foldlM_cons, List.foldlM_cons, Outcome.bind_eq_ok, Outcome.bind_eq_ok,
        List.forall_mem_cons]
      constructor
      · rintro ⟨first, hadd, h⟩
        obtain ⟨hvalid, hadd⟩ := hstep.mp hadd
        obtain ⟨hvalid', h⟩ := ih.mp h
        exact ⟨⟨hvalid, hvalid'⟩, first, hadd, h⟩
      · rintro ⟨⟨hvalid, hvalid'⟩, first, hadd, h⟩
        exact ⟨first, hstep.mpr ⟨hvalid, hadd⟩, ih.mpr ⟨hvalid', h⟩⟩

/-! ### Tables of method sets -/

namespace MethodTable

variable {table table' : MethodTable} {name : String} {methods : List Method}

/-- A table with methods put under a name has these methods under the name and is otherwise the
same. -/
theorem methodsOf?_insert (k : String) :
  (table.insert name methods).methodsOf? k
    = if k = name then some methods else table.methodsOf? k
  := by
  induction table with
  | nil =>
      rw [insert, methodsOf?, methodsOf?]
      by_cases hk : k = name
      · simp [hk]
      · simp [hk, Ne.symm hk]
  | cons entry table ih =>
      rw [insert]
      simp only [methodsOf?] at ih
      split
      · by_cases hk : k = name
        · simp [methodsOf?, hk]
        · simp [methodsOf?, hk, Ne.symm hk]
      · split
        · next hname =>
            by_cases hk : k = name
            · simp [methodsOf?, hk]
            · simp [methodsOf?, hk, Ne.symm hk, ← hname]
        · next hname =>
            rw [methodsOf?, methodsOf?]
            by_cases hentry : entry.1 = k
            · have hk : k ≠ name := by
                rintro rfl
                apply hname hentry.symm
              simp [hentry, hk]
            · simpa [hentry] using ih

/-- The methods that are found under a name are in the table. -/
theorem mem_of_methodsOf? (h : table.methodsOf? name = some methods) :
  (name, methods) ∈ table
  := by
  obtain ⟨⟨k, ms⟩, hfind, rfl⟩ := Option.map_eq_some_iff.mp h
  obtain rfl : k = name := by simpa using List.find?_some hfind
  apply List.mem_of_find?_eq_some hfind

/-- The entries of a table in ascending order of names are what it has under the names. -/
theorem mem_iff_methodsOf? (h : AscendingBy Prod.fst table) :
  (name, methods) ∈ table ↔ table.methodsOf? name = some methods
  := by
  constructor
  · intro hmem
    cases hfind : table.find? (·.1 == name) with
    | none =>
        have := List.find?_eq_none.mp hfind _ hmem
        simp at this
    | some entry =>
        have hname : entry.1 = name := by simpa using List.find?_some hfind
        have := h.eq_of_key (List.mem_of_find?_eq_some hfind) hmem hname
        rw [methodsOf?, hfind, this]
        rfl
  · apply mem_of_methodsOf?

/-- Every entry after an insertion is the new one or one from before. -/
theorem mem_insert {entry : String × List Method} (h : entry ∈ table.insert name methods) :
  entry = (name, methods) ∨ entry ∈ table
  := by
  induction table with
  | nil => apply Or.inl (List.mem_singleton.mp h)
  | cons first table ih =>
      rw [insert] at h
      split at h
      · apply List.mem_cons.mp h
      · split at h
        · rcases List.mem_cons.mp h with rfl | h
          · apply Or.inl rfl
          · apply Or.inr (List.mem_cons_of_mem _ h)
        · rcases List.mem_cons.mp h with rfl | h
          · apply Or.inr List.mem_cons_self
          · apply (ih h).imp_right (List.mem_cons_of_mem _)

/-- Insertion keeps the names of a table in order. -/
theorem ascendingBy_insert (h : AscendingBy Prod.fst table) :
  AscendingBy Prod.fst (table.insert name methods)
  := by
  induction table with
  | nil => apply List.pairwise_singleton _ _
  | cons first table ih =>
      rw [insert]
      split
      · next hlt => apply h.cons_cons hlt
      · next hlt =>
          split
          · next heq =>
              apply AscendingBy.cons_iff.mpr
              obtain ⟨hfirst, hrest⟩ := AscendingBy.cons_iff.mp h
              rw [← heq] at hfirst
              exact ⟨hfirst, hrest⟩
          · next hne =>
              have hlt' := lt_of_le_of_ne (not_lt.mp hlt) (Ne.symm hne)
              apply h.cons_of_mem (a := (name, methods)) hlt' (ih (AscendingBy.cons_iff.mp h).2)
              intro entry hentry
              apply mem_insert hentry

end MethodTable

end ClientWrap
