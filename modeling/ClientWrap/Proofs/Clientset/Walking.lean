import ClientWrap.Clientset.Walk
import ClientWrap.Proofs.Outcome
import Mathlib.Data.List.Nodup

/-!
# Walks

What a walk gives, without reference to the order in which it looks at methods. Every member of the
clientset and of its clients stands for one method of the interface, and every operation of a
resource is a method of the interface of the resource. A walk succeeds exactly if there is a
clientset of this kind whose wrappers have different names (`walk_eq_ok`).
-/

namespace ClientWrap

/-! ### Members -/

namespace Member

variable {α : Type} {m : Method} {member : Member α}

/-- The member stands for the method: it is an item for the interface that the method gives access
to, and the method itself if there is no such interface. -/
inductive StandsFor (m : Method) (given : Option GoType) (IsItem : GoType → α → Prop) :
    Member α → Prop where
  | direct : given = none → StandsFor m given IsItem (.direct m)
  | wrapped {t : GoType} {item : α} :
      given = some t → IsItem t item → StandsFor m given IsItem (.wrapped item)

/-- A method that gives access to nothing is passed through. -/
theorem standsFor_none {IsItem : GoType → α → Prop} :
  StandsFor m none IsItem member ↔ member = .direct m
  := by
  constructor
  · intro h
    cases h with
    | direct _ => rfl
    | wrapped ht _ => contradiction
  · rintro rfl
    apply StandsFor.direct rfl

/-- A method that gives access to an interface is wrapped. -/
theorem standsFor_some {t : GoType} {IsItem : GoType → α → Prop} :
  StandsFor m (some t) IsItem member ↔ ∃ item, IsItem t item ∧ .wrapped item = member
  := by
  constructor
  · intro h
    cases h with
    | direct hnone => contradiction
    | @wrapped u item ht hitem =>
        obtain rfl := Option.some.inj ht
        exact ⟨item, hitem, rfl⟩
  · rintro ⟨item, hitem, rfl⟩
    apply StandsFor.wrapped rfl hitem

/-- An item of members that stand for methods is one for a method and an interface. -/
theorem exists_of_mem_items {given : Method → Option GoType} {R : Method → GoType → α → Prop}
    {ms : List Method} {members : List (Member α)}
    (h : List.Forall₂ (fun m => StandsFor m (given m) (R m)) ms members) {item : α}
    (hitem : item ∈ members.filterMap item?) :
  ∃ m t, R m t item
  := by
  obtain ⟨member, hmember, hitem⟩ := List.mem_filterMap.mp hitem
  obtain ⟨m, -, hm⟩ := Outcome.exists_of_mem_right h hmember
  cases hm with
  | direct _ => contradiction
  | @wrapped t _ _ hR =>
      obtain rfl := Option.some.inj hitem
      exact ⟨m, t, hR⟩

end Member

namespace Schema

variable {s : Schema} {ex : Exclusions} {m : Method} {t : GoType}

/-! ### Accessors -/

/-- A method gives access to an interface if its name is not excluded and the interface is its
only result. -/
theorem accessed?_eq_some {excluded : List String} :
  s.accessed? excluded m = some t
    ↔ m.name ∉ excluded ∧ m.results = [t] ∧ s.isInterface t = true
  := by
  rw [accessed?]
  constructor
  · intro h
    split at h
    · contradiction
    · next hname =>
        split at h
        · next u hu =>
            split at h
            · next hinterface =>
                obtain rfl := Option.some.inj h
                exact ⟨by simpa using hname, hu, hinterface⟩
            · contradiction
        · contradiction
  · rintro ⟨hname, hresults, hinterface⟩
    rw [if_neg (by simpa using hname), hresults]
    apply if_pos hinterface

/-- The methods of an accessed interface are found exactly if they are described. -/
theorem accessedMethods_eq_ok {owner : GoType} {ms : List Method} :
  s.accessedMethods owner m t = .ok ms ↔ s.methods? t = some ms
  := by
  rw [accessedMethods]
  cases s.methods? t <;> simp

/-! ### Resources -/

/-- The resource that the accessor of an interface gives: its operations are the methods of the
interface, and it is namespaced if the accessor has a parameter. -/
structure IsResource (s : Schema) (m : Method) (t : GoType) (r : Resource) : Prop where
  accessor : r.accessor = m
  type : r.type = t
  operations : s.methods? t = some r.operations
  scope : r.scope = .cluster ∧ m.params = []
    ∨ r.scope = .namespaced ∧ ∃ p, m.params = [p] ∧ ¬ p.isVariadic

/-- A resource without parameters is that of the cluster; one with a single parameter is in a
namespace. -/
theorem scopeOf_eq_ok {owner : GoType} {scope : Scope} :
  scopeOf owner m = .ok scope
    ↔ scope = .cluster ∧ m.params = []
      ∨ scope = .namespaced ∧ ∃ p, m.params = [p] ∧ ¬ p.isVariadic
  := by
  rw [scopeOf]
  split
  · next h =>
      constructor
      · intro hscope
        apply Or.inl ⟨(Except.ok.inj hscope).symm, h⟩
      · rintro (⟨rfl, -⟩ | ⟨-, p, hp, -⟩)
        · rfl
        · rw [h] at hp
          contradiction
  · next p h =>
      constructor
      · intro hscope
        split at hscope
        · contradiction
        · next hp => apply Or.inr ⟨(Except.ok.inj hscope).symm, p, h, hp⟩
      · rintro (⟨-, hnil⟩ | ⟨rfl, q, hq, hvariadic⟩)
        · rw [h] at hnil
          contradiction
        · obtain rfl : p = q := by
            rw [h] at hq
            apply (List.cons.inj hq).1
          apply if_neg hvariadic
  · next hnil hone =>
      constructor
      · intro h
        contradiction
      · rintro (⟨-, h⟩ | ⟨-, p, h, -⟩)
        · apply absurd h hnil
        · apply absurd h (hone p)

/-- The walk finds exactly the resource that the accessor gives. -/
theorem resource_eq_ok {owner : GoType} {r : Resource} :
  s.resource owner m t = .ok r ↔ s.IsResource m t r
  := by
  rw [resource, Outcome.bind_eq_ok]
  constructor
  · rintro ⟨scope, hscope, h⟩
    obtain ⟨operations, hoperations, h⟩ := Outcome.bind_eq_ok.mp h
    obtain rfl := Except.ok.inj h
    exact ⟨rfl, rfl, accessedMethods_eq_ok.mp hoperations, scopeOf_eq_ok.mp hscope⟩
  · obtain ⟨accessor, type, scope, operations⟩ := r
    rintro ⟨rfl, rfl, hoperations, hscope⟩
    use scope, scopeOf_eq_ok.mpr hscope
    apply Outcome.bind_eq_ok.mpr
    exact ⟨operations, accessedMethods_eq_ok.mpr hoperations, rfl⟩

/-! ### Clients -/

/-- The member of a client wrapper that stands for a method: a resource if the method gives access
to an interface, and the method itself otherwise. -/
def IsClientMember (s : Schema) (ex : Exclusions) (m : Method) : Member Resource → Prop :=
  Member.StandsFor m (s.accessed? ex.client m) (s.IsResource m)

/-- The walk finds exactly the member of a client that stands for the method. -/
theorem clientMember_eq_ok {owner : GoType} {member : Member Resource} :
  s.clientMember ex owner m = .ok member ↔ s.IsClientMember ex m member
  := by
  rw [clientMember, IsClientMember]
  split
  · next u hu =>
      rw [hu, Member.standsFor_some, Outcome.map_eq_ok]
      simp only [resource_eq_ok]
  · next hu =>
      rw [hu, Member.standsFor_none]
      constructor
      · intro h
        apply (Except.ok.inj h).symm
      · rintro rfl
        rfl

/-- The client that the accessor of an interface gives. The accessor has no parameters, and the
members stand for the methods of the interface in their order. -/
structure IsClient (s : Schema) (ex : Exclusions) (m : Method) (t : GoType) (c : Client) :
    Prop where
  accessor : c.accessor = m
  type : c.type = t
  params : m.params = []
  members : ∃ ms, s.methods? t = some ms ∧ List.Forall₂ (s.IsClientMember ex) ms c.members

/-- The walk finds exactly the client that the accessor gives. -/
theorem client_eq_ok {owner : GoType} {c : Client} :
  s.client ex owner m t = .ok c ↔ s.IsClient ex m t c
  := by
  have hmembers : ∀ {ms members},
      ms.mapM (s.clientMember ex t) = .ok members
        ↔ List.Forall₂ (s.IsClientMember ex) ms members := by
    intro ms members
    rw [Outcome.mapM_eq_ok]
    apply iff_of_eq
    congr
    funext m member
    apply propext
    apply clientMember_eq_ok
  rw [client]
  constructor
  · intro h
    split at h
    · contradiction
    · next hparams =>
        obtain ⟨ms, hms, h⟩ := Outcome.bind_eq_ok.mp h
        obtain ⟨members, hmem, h⟩ := Outcome.bind_eq_ok.mp h
        obtain rfl := Except.ok.inj h
        constructor
        · rfl
        · rfl
        · simpa using hparams
        · exact ⟨ms, accessedMethods_eq_ok.mp hms, hmembers.mp hmem⟩
  · obtain ⟨accessor, type, members⟩ := c
    rintro ⟨rfl, rfl, hparams, ms, hms, hmem⟩
    rw [if_neg (by simpa using hparams)]
    apply Outcome.bind_eq_ok.mpr
    use ms, accessedMethods_eq_ok.mpr hms
    apply Outcome.bind_eq_ok.mpr
    exact ⟨members, hmembers.mpr hmem, rfl⟩

/-! ### Clientsets -/

/-- The member of the clientset wrapper that stands for a method: a client if the method gives
access to an interface, and the method itself otherwise. -/
def IsClientsetMember (s : Schema) (ex : Exclusions) (m : Method) : Member Client → Prop :=
  Member.StandsFor m (s.accessed? ex.clientset m) (s.IsClient ex m)

/-- The walk finds exactly the member of the clientset that stands for the method. -/
theorem clientsetMember_eq_ok {member : Member Client} :
  (s.clientsetMember ex m).outcome = .ok member ↔ s.IsClientsetMember ex m member
  := by
  rw [clientsetMember, IsClientsetMember]
  split
  · next u hu =>
      rw [hu, Member.standsFor_some, Report.outcome_bind, Outcome.bind_eq_ok]
      constructor
      · rintro ⟨c, hc, h⟩
        exact ⟨c, client_eq_ok.mp hc, Except.ok.inj h⟩
      · rintro ⟨c, hc, rfl⟩
        exact ⟨c, client_eq_ok.mpr hc, rfl⟩
  · next hu =>
      rw [hu, Member.standsFor_none]
      constructor
      · intro h
        apply (Except.ok.inj h).symm
      · rintro rfl
        rfl

/-- The clientset of a walk. Its members stand for the methods of the root interface in their
order. -/
structure IsClientset (s : Schema) (ex : Exclusions) (cs : Clientset) : Prop where
  type : cs.type = s.root
  members : ∃ ms, s.methods? s.root = some ms
    ∧ List.Forall₂ (s.IsClientsetMember ex) ms cs.members

/-- Every client of the clientset is given by an accessor. -/
theorem IsClientset.exists_isClient {cs : Clientset} (h : s.IsClientset ex cs) {c : Client}
    (hc : c ∈ cs.clients) :
  ∃ m t, s.IsClient ex m t c
  := by
  obtain ⟨-, ms, -, hmembers⟩ := h
  apply Member.exists_of_mem_items hmembers hc

/-- Every resource of a client is given by an accessor. -/
theorem IsClient.exists_isResource {c : Client} (h : s.IsClient ex m t c) {r : Resource}
    (hr : r ∈ c.resources) :
  ∃ m t, s.IsResource m t r
  := by
  obtain ⟨-, -, -, ms, -, hmembers⟩ := h
  apply Member.exists_of_mem_items hmembers hr

/-- Nothing is found to repeat exactly if no element was seen before and none occurs twice. -/
theorem firstRepeat?_eq_none {α : Type} [DecidableEq α] {seen l : List α} :
  Clientset.firstRepeat? seen l = none ↔ (∀ a ∈ l, a ∉ seen) ∧ l.Nodup
  := by
  induction l generalizing seen with
  | nil => simp [Clientset.firstRepeat?]
  | cons a l ih =>
      rw [Clientset.firstRepeat?]
      split
      · next h =>
          constructor
          · intro h
            contradiction
          · rintro ⟨hseen, -⟩
            apply absurd h (hseen a List.mem_cons_self)
      · next h =>
          rw [ih, List.nodup_cons, List.forall_mem_cons]
          constructor
          · rintro ⟨hseen, hnodup⟩
            and_intros
            · apply h
            · intro b hb hmem
              apply hseen b hb (List.mem_cons_of_mem _ hmem)
            · intro ha
              apply hseen a ha List.mem_cons_self
            · apply hnodup
          · rintro ⟨⟨-, hseen⟩, ha, hnodup⟩
            refine ⟨?_, hnodup⟩
            intro b hb hmem
            rcases List.mem_cons.mp hmem with rfl | hmem
            · apply ha hb
            · apply hseen b hb hmem

/-- A clientset passes the check of its names exactly if they are pairwise different, and stays as
it is. -/
theorem checkNames_eq_ok {cs cs' : Clientset} :
  cs.checkNames = .ok cs' ↔ cs' = cs ∧ cs.names.Nodup
  := by
  have hnone : Clientset.firstRepeat? [] cs.names = none ↔ cs.names.Nodup := by
    rw [firstRepeat?_eq_none]
    simp
  rw [Clientset.checkNames, ← hnone]
  cases Clientset.firstRepeat? [] cs.names <;> simp [eq_comm]

/-- A walk gives a clientset exactly if it is one of the schema whose wrappers and fields have
different names. -/
theorem walk_eq_ok {cs : Clientset} :
  (s.walk ex).outcome = .ok cs ↔ s.IsClientset ex cs ∧ cs.names.Nodup
  := by
  have hmembers : ∀ {ms members},
      (ms.mapM (s.clientsetMember ex)).outcome = .ok members
        ↔ List.Forall₂ (s.IsClientsetMember ex) ms members := by
    intro ms members
    rw [Outcome.outcome_mapM, Outcome.mapM_eq_ok]
    apply iff_of_eq
    congr
    funext m member
    apply propext
    apply clientsetMember_eq_ok
  rw [walk]
  split
  · next hnone =>
      constructor
      · intro h
        contradiction
      · rintro ⟨⟨-, ms, hms, -⟩, -⟩
        rw [hnone] at hms
        contradiction
  · next ms hms =>
      rw [Report.outcome_bind, Outcome.bind_eq_ok]
      constructor
      · rintro ⟨members, hmem, h⟩
        obtain ⟨rfl, hnames⟩ := checkNames_eq_ok.mp h
        exact ⟨⟨rfl, ms, hms, hmembers.mp hmem⟩, hnames⟩
      · obtain ⟨type, members⟩ := cs
        rintro ⟨⟨rfl, ms', hms', hmem⟩, hnames⟩
        obtain rfl : ms = ms' := Option.some.inj (hms.symm.trans hms')
        exact ⟨members, hmembers.mpr hmem, checkNames_eq_ok.mpr ⟨rfl, hnames⟩⟩

end Schema

end ClientWrap
