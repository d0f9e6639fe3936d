import ClientWrap.Proofs.Clientset.Walking
import ClientWrap.Proofs.Schema.Resolution
import Mathlib.Data.List.Perm.Basic

/-!
# Which schemas can be walked

A walk keeps every method of the interfaces that it looks at (`Schema.Represents`), and it fails
exactly if one of the obstacles is there that `Schema.Obstructed` lists: an accessor that takes
parameters which a wrapper cannot pass on, an accessor of an interface whose methods are not
described, or a name that two wrappers would share. The obstacles are conditions on the schema and
the exclusions alone.
-/

namespace ClientWrap

open ClientWrap.Text

/-- The method that a member stands for. -/
def Member.method {α : Type} (accessor : α → Method) : Member α → Method
  | .direct m => m
  | .wrapped item => accessor item

/-- The only parameter, if there is one, is a namespace. -/
structure Method.TakesNamespace (m : Method) : Prop where
  length : m.params.length ≤ 1
  single : ∀ p ∈ m.params, ¬ p.isVariadic

/-- A method has a namespace as its only parameter exactly if it has no parameters or a single one
that stands for no remaining arguments. -/
theorem Method.takesNamespace_iff {m : Method} :
  m.TakesNamespace ↔ m.params = [] ∨ ∃ p, m.params = [p] ∧ ¬ p.isVariadic
  := by
  constructor
  · rintro ⟨hlength, hsingle⟩
    cases hparams : m.params with
    | nil => apply Or.inl rfl
    | cons p ps =>
        rw [hparams] at hlength hsingle
        obtain rfl : ps = [] := by simpa using hlength
        exact Or.inr ⟨p, rfl, hsingle p List.mem_cons_self⟩
  · rintro (hparams | ⟨p, hparams, hp⟩)
    · constructor <;> simp [hparams]
    · constructor
      · simp [hparams]
      · simpa [hparams] using hp

namespace Schema

variable {α : Type} {s : Schema} {ex : Exclusions} {excluded : List String}

/-! ### Members -/

/-- The members stand for the methods in their order. Those are wrapped whose name is not excluded
and whose only result is an interface; the interface is the type of what is wrapped. -/
structure Represents (s : Schema) (excluded : List String) (accessor : α → Method)
    (type : α → GoType) (ms : List Method) (members : List (Member α)) : Prop where
  methods : members.map (Member.method accessor) = ms
  wrapped_iff : ∀ member ∈ members, (∃ item, member = .wrapped item)
    ↔ (member.method accessor).name ∉ excluded
      ∧ ∃ t, (member.method accessor).results = [t] ∧ s.isInterface t
  results : ∀ item ∈ members.filterMap Member.item?, (accessor item).results = [type item]

/-- The accessors among the methods, each with the interface that it gives access to. -/
def accessors (s : Schema) (excluded : List String) (ms : List Method) : List (Method × GoType) :=
  ms.filterMap fun m => (s.accessed? excluded m).map fun t => (m, t)

/-- An accessor is one of the methods that gives access to an interface. -/
theorem mem_accessors {ms : List Method} {m : Method} {t : GoType} :
  (m, t) ∈ s.accessors excluded ms ↔ m ∈ ms ∧ s.accessed? excluded m = some t
  := by
  rw [accessors, List.mem_filterMap]
  constructor
  · rintro ⟨m', hm', h⟩
    obtain ⟨t', ht', h⟩ := Option.map_eq_some_iff.mp h
    obtain ⟨rfl, rfl⟩ := Prod.mk.inj h
    exact ⟨hm', ht'⟩
  · rintro ⟨hm, ht⟩
    use m, hm
    rw [ht, Option.map_some]

section

variable {R : Method → GoType → α → Prop} {accessor : α → Method} {type : α → GoType}
  (hR : ∀ {m t item}, R m t item → accessor item = m ∧ type item = t)
  {ms : List Method} {members : List (Member α)}
  (h : List.Forall₂ (fun m => Member.StandsFor m (s.accessed? excluded m) (R m)) ms members)

include hR h

/-- Members that stand for the methods one by one represent them. -/
theorem represents_of_forall₂ :
  s.Represents excluded accessor type ms members
  := by
  constructor
  · induction h with
    | nil => rfl
    | @cons m member ms members hm _ ih =>
        rw [List.map_cons, ih]
        congr 1
        cases hm with
        | direct _ => rfl
        | wrapped _ hitem => apply (hR hitem).1
  · intro member hmember
    obtain ⟨m, -, hm⟩ := Outcome.exists_of_mem_right h hmember
    cases hm with
    | direct hnone =>
        constructor
        · rintro ⟨item, hitem⟩
          contradiction
        · rintro ⟨hname, t, hresults, ht⟩
          have := accessed?_eq_some.mpr ⟨hname, hresults, ht⟩
          rw [Member.method, hnone] at this
          contradiction
    | @wrapped t item ht hitem =>
        obtain ⟨hname, hresults, hinterface⟩ := accessed?_eq_some.mp ht
        rw [Member.method, (hR hitem).1]
        constructor
        · intro _
          exact ⟨hname, t, hresults, hinterface⟩
        · intro _
          exact ⟨item, rfl⟩
  · intro item hitem
    obtain ⟨member, hmember, hitem⟩ := List.mem_filterMap.mp hitem
    obtain ⟨m, -, hm⟩ := Outcome.exists_of_mem_right h hmember
    cases hm with
    | direct _ => contradiction
    | wrapped ht hm =>
        obtain rfl := Option.some.inj hitem
        obtain ⟨rfl, rfl⟩ := hR hm
        apply (accessed?_eq_some.mp ht).2.1

/-- The items of the members are those of the accessors. -/
theorem map_items_of_forall₂ :
  (members.filterMap Member.item?).map (fun item => (accessor item, type item))
    = s.accessors excluded ms
  := by
  induction h with
  | nil => rfl
  | @cons m member ms members hm _ ih =>
      rw [accessors, List.filterMap_cons, List.filterMap_cons]
      cases hm with
      | direct hnone =>
          rw [hnone]
          apply ih
      | wrapped ht hitem =>
          obtain ⟨rfl, rfl⟩ := hR hitem
          rw [ht]
          apply congrArg (List.cons _) ih

end

/-- A resource knows its accessor and its type. -/
theorem IsResource.accessor_type {m : Method} {t : GoType} {r : Resource}
    (h : s.IsResource m t r) :
  r.accessor = m ∧ r.type = t
  := ⟨h.accessor, h.type⟩

/-- A client knows its accessor and its type. -/
theorem IsClient.accessor_type {m : Method} {t : GoType} {c : Client} (h : s.IsClient ex m t c) :
  c.accessor = m ∧ c.type = t
  := ⟨h.accessor, h.type⟩

/-- The members of a client represent the methods of its type. -/
theorem IsClient.represents {m : Method} {t : GoType} {c : Client} (h : s.IsClient ex m t c) :
  ∃ ms, s.methods? c.type = some ms
    ∧ s.Represents ex.client Resource.accessor Resource.type ms c.members
  := by
  obtain ⟨-, rfl, -, ms, hms, hmembers⟩ := h
  use ms, hms
  apply represents_of_forall₂ (R := s.IsResource) IsResource.accessor_type hmembers

/-- The members of a clientset represent the methods of the root interface. -/
theorem IsClientset.represents {cs : Clientset} (h : s.IsClientset ex cs) :
  ∃ ms, s.methods? s.root = some ms
    ∧ s.Represents ex.clientset Client.accessor Client.type ms cs.members
  := by
  obtain ⟨-, ms, hms, hmembers⟩ := h
  use ms, hms
  apply represents_of_forall₂ (R := s.IsClient ex) IsClient.accessor_type hmembers

/-! ### Obstacles -/

/-- The accessors of clients, each with the interface of its client. -/
def clientAccessors (s : Schema) (ex : Exclusions) : List (Method × GoType) :=
  s.accessors ex.clientset ((s.methods? s.root).getD [])

/-- The accessors of resources of a client interface, each with the interface of its resource. -/
def resourceAccessors (s : Schema) (ex : Exclusions) (t : GoType) : List (Method × GoType) :=
  s.accessors ex.client ((s.methods? t).getD [])

/-- The fields of a clientset wrapper: what it wraps and the clients. -/
def fieldNames (s : Schema) (ex : Exclusions) : List String :=
  "inner" :: (s.clientAccessors ex).map fun c => lowerString c.1.name

/-- The types that wrap the clients and resources. -/
def wrapperNames (s : Schema) (ex : Exclusions) : List String :=
  (s.clientAccessors ex).flatMap fun c => ("wrapped" ++ c.2.shortName) ::
    (s.resourceAccessors ex c.2).map fun r => "wrapped" ++ c.2.shortName ++ r.2.shortName

/-- The type is an interface whose methods are not described. -/
def IsOpaque (s : Schema) (t : GoType) : Prop :=
  t = .builtin "error" ∨ ∃ a ∈ s.externals, t.key? = some a

/-- What keeps a schema from being walked. -/
inductive Obstructed (s : Schema) (ex : Exclusions) : Prop where
  | clientParameters {m : Method} {t : GoType} :
      (m, t) ∈ s.clientAccessors ex → m.params ≠ [] → Obstructed s ex
  | opaqueClient {m : Method} {t : GoType} :
      (m, t) ∈ s.clientAccessors ex → s.IsOpaque t → Obstructed s ex
  | resourceParameters {m n : Method} {t u : GoType} :
      (m, t) ∈ s.clientAccessors ex → (n, u) ∈ s.resourceAccessors ex t →
      ¬ n.TakesNamespace → Obstructed s ex
  | opaqueResource {m n : Method} {t u : GoType} :
      (m, t) ∈ s.clientAccessors ex → (n, u) ∈ s.resourceAccessors ex t →
      s.IsOpaque u → Obstructed s ex
  | sharedField : ¬ (s.fieldNames ex).Nodup → Obstructed s ex
  | sharedWrapper : ¬ (s.wrapperNames ex).Nodup → Obstructed s ex

/-! ### Opaque interfaces -/

/-- In the schema of a description, an interface is opaque exactly if its methods are not
described. -/
theorem isOpaque_iff {source : SchemaSource} (hresolve : source.resolve = .ok s) {t : GoType}
    (ht : s.isInterface t) :
  s.IsOpaque t ↔ s.methods? t = none
  := by
  obtain ⟨hacceptable, hdescribes⟩ := SchemaSource.describes_of_resolve hresolve
  constructor
  · rintro (rfl | ⟨a, ha, hkey⟩)
    · rfl
    · obtain ⟨u, hu, hukey⟩ := (hdescribes.mem_externals a).mp ha
      obtain ⟨b, hb, hnew⟩ := hacceptable.external u hu
      obtain rfl := Option.some.inj (hukey.symm.trans hb)
      rw [methods?, hkey, Option.bind_some, Option.eq_none_iff_forall_ne_some]
      intro ms hms
      apply hnew (hdescribes.sound a ms hms).1
  · intro hnone
    cases t with
    | builtin name =>
        left
        rw [isInterface, beq_iff_eq] at ht
        rw [ht]
    | named package name =>
        right
        rw [methods?, GoType.key?, Option.bind_some] at hnone
        rw [isInterface, hnone, Option.isSome_none, Bool.false_or, List.contains_iff_mem] at ht
        exact ⟨_, ht, rfl⟩
    | _ => contradiction

/-- An accessor gives access to an interface. -/
theorem isInterface_of_mem_accessors {ms : List Method} {m : Method} {t : GoType}
    (h : (m, t) ∈ s.accessors excluded ms) :
  s.isInterface t
  := (accessed?_eq_some.mp (mem_accessors.mp h).2).2.2

/-! ### The clientset -/

/-- The clients of a clientset are those that the root interface gives access to. -/
theorem IsClientset.map_clients {cs : Clientset} (h : s.IsClientset ex cs) :
  cs.clients.map (fun c => (c.accessor, c.type)) = s.clientAccessors ex
  := by
  obtain ⟨-, ms, hms, hmembers⟩ := h
  rw [clientAccessors, hms, Option.getD_some]
  apply map_items_of_forall₂ (R := s.IsClient ex) IsClient.accessor_type hmembers

/-- The resources of a client are those that its type gives access to. -/
theorem IsClient.map_resources {m : Method} {t : GoType} {c : Client} (h : s.IsClient ex m t c) :
  c.resources.map (fun r => (r.accessor, r.type)) = s.resourceAccessors ex c.type
  := by
  obtain ⟨-, rfl, -, ms, hms, hmembers⟩ := h
  rw [resourceAccessors, hms, Option.getD_some]
  apply map_items_of_forall₂ (R := s.IsResource) IsResource.accessor_type hmembers

/-- The fields of a clientset wrapper are the one for what it wraps and one for each client. -/
theorem IsClientset.fieldNames_eq {cs : Clientset} (h : s.IsClientset ex cs) :
  s.fieldNames ex = "inner" :: cs.clients.map Client.field
  := by
  rw [fieldNames, ← h.map_clients, List.map_map]
  rfl

/-- The names of a clientset differ exactly if its fields and its wrapper types do. The names list
the wrapper types of each client after its field, so they are these two lists in another order. -/
theorem IsClientset.nodup_names_iff {cs : Clientset} (h : s.IsClientset ex cs) :
  cs.names.Nodup ↔ (s.fieldNames ex).Nodup ∧ (s.wrapperNames ex).Nodup
  := by
  have hwrappers : s.wrapperNames ex
      = cs.clients.flatMap fun c => c.wrapper :: c.resources.map fun r => r.wrapper c := by
    rw [wrapperNames, ← h.map_clients, List.flatMap_map]
    apply List.flatMap_congr
    intro c hc
    obtain ⟨m, t, hclient⟩ := h.exists_isClient hc
    rw [← hclient.map_resources, List.map_map]
    rfl
  have hperm : cs.names.Perm ((s.fieldNames ex).map SharedName.field
      ++ (s.wrapperNames ex).map SharedName.wrapper) := by
    rw [h.fieldNames_eq, hwrappers, List.map_cons, List.cons_append, List.map_map, List.map_flatMap,
      Clientset.names]
    apply List.Perm.cons
    simp only [List.map_cons, List.map_map]
    symm
    apply List.map_append_flatMap_perm
  rw [hperm.nodup_iff, List.nodup_append']
  rw [List.nodup_map_iff fun _ _ => SharedName.field.inj,
    List.nodup_map_iff fun _ _ => SharedName.wrapper.inj]
  constructor
  · rintro ⟨hf, hw, -⟩
    exact ⟨hf, hw⟩
  · rintro ⟨hf, hw⟩
    refine ⟨hf, hw, ?_⟩
    intro name hname hname'
    obtain ⟨_, -, rfl⟩ := List.mem_map.mp hname
    obtain ⟨_, -, h⟩ := List.mem_map.mp hname'
    contradiction

/-! ### What can be put together -/

/-- Members can be put together exactly if there is an item for every accessor. -/
theorem exists_members_iff {R : Method → GoType → α → Prop} {ms : List Method} :
  (∃ members, List.Forall₂ (fun m => Member.StandsFor m (s.accessed? excluded m) (R m)) ms members)
    ↔ ∀ m t, (m, t) ∈ s.accessors excluded ms → ∃ item, R m t item
  := by
  constructor
  · rintro ⟨members, h⟩ m t hm
    obtain ⟨hm, ht⟩ := mem_accessors.mp hm
    obtain ⟨member, -, hmember⟩ := Outcome.exists_of_mem_left h hm
    rw [ht, Member.standsFor_some] at hmember
    obtain ⟨item, hitem, -⟩ := hmember
    exact ⟨item, hitem⟩
  · intro h
    apply Outcome.exists_forall₂
    intro m hm
    cases ht : s.accessed? excluded m with
    | none => exact ⟨.direct m, Member.StandsFor.direct rfl⟩
    | some t =>
        obtain ⟨item, hitem⟩ := h m t (mem_accessors.mpr ⟨hm, ht⟩)
        exact ⟨.wrapped item, Member.StandsFor.wrapped rfl hitem⟩

/-- A resource can be put together exactly if its accessor takes a namespace and its methods are
described. -/
theorem exists_isResource_iff {m : Method} {t : GoType} :
  (∃ r, s.IsResource m t r) ↔ m.TakesNamespace ∧ ∃ ms, s.methods? t = some ms
  := by
  rw [Method.takesNamespace_iff]
  constructor
  · rintro ⟨r, -, -, hoperations, hscope⟩
    refine ⟨?_, r.operations, hoperations⟩
    apply hscope.imp (fun h => h.2) fun h => h.2
  · rintro ⟨hnil | hone, ms, hms⟩
    · exact ⟨⟨m, t, .cluster, ms⟩, rfl, rfl, hms, Or.inl ⟨rfl, hnil⟩⟩
    · exact ⟨⟨m, t, .namespaced, ms⟩, rfl, rfl, hms, Or.inr ⟨rfl, hone⟩⟩

/-- The accessor of a resource takes a namespace. -/
theorem IsResource.takesNamespace {m : Method} {t : GoType} {r : Resource}
    (h : s.IsResource m t r) :
  r.accessor.TakesNamespace
  := by
  rw [h.accessor]
  apply (exists_isResource_iff.mp ⟨r, h⟩).1

/-- A client can be put together exactly if its accessor has no parameters, its methods are
described and all its resources can be put together. -/
theorem exists_isClient_iff {m : Method} {t : GoType} :
  (∃ c, s.IsClient ex m t c)
    ↔ m.params = [] ∧ (∃ ms, s.methods? t = some ms)
      ∧ ∀ n u, (n, u) ∈ s.resourceAccessors ex t → ∃ r, s.IsResource n u r
  := by
  constructor
  · rintro ⟨c, -, -, hparams, ms, hms, hmembers⟩
    use hparams, ⟨ms, hms⟩
    rw [resourceAccessors, hms]
    apply exists_members_iff.mp ⟨c.members, hmembers⟩
  · rintro ⟨hparams, ⟨ms, hms⟩, hresources⟩
    rw [resourceAccessors, hms] at hresources
    obtain ⟨members, hmembers⟩ := exists_members_iff.mpr hresources
    exact ⟨⟨m, t, members⟩, rfl, rfl, hparams, ms, hms, hmembers⟩

/-- A clientset can be put together exactly if the methods of the root are described and all its
clients can be put together. -/
theorem exists_isClientset_iff :
  (∃ cs, s.IsClientset ex cs)
    ↔ (∃ ms, s.methods? s.root = some ms)
      ∧ ∀ m t, (m, t) ∈ s.clientAccessors ex → ∃ c, s.IsClient ex m t c
  := by
  constructor
  · rintro ⟨cs, -, ms, hms, hmembers⟩
    use ⟨ms, hms⟩
    rw [clientAccessors, hms]
    apply exists_members_iff.mp ⟨cs.members, hmembers⟩
  · rintro ⟨⟨ms, hms⟩, hclients⟩
    rw [clientAccessors, hms] at hclients
    obtain ⟨members, hmembers⟩ := exists_members_iff.mpr hclients
    exact ⟨⟨s.root, members⟩, rfl, ms, hms, hmembers⟩

/-! ### The walk -/

section

variable {source : SchemaSource} (hresolve : source.resolve = .ok s)

include hresolve

/-- The root of the schema of a description is described. -/
theorem exists_methods?_root :
  ∃ ms, s.methods? s.root = some ms
  := by
  obtain ⟨hacceptable, hdescribes⟩ := SchemaSource.describes_of_resolve hresolve
  obtain ⟨a, ha, hdeclared⟩ := hacceptable.root
  obtain ⟨ms, hms⟩ := hdescribes.complete a hdeclared
  use ms
  rw [methods?, hdescribes.root, ha]
  apply hms

/-- An interface that an accessor gives access to is described unless it is opaque. -/
theorem exists_methods?_iff {ms : List Method} {m : Method} {t : GoType}
    (h : (m, t) ∈ s.accessors excluded ms) :
  (∃ ms, s.methods? t = some ms) ↔ ¬ s.IsOpaque t
  := by
  rw [isOpaque_iff hresolve (isInterface_of_mem_accessors h), ← ne_eq, Option.ne_none_iff_exists']

/-- A clientset can be put together, and its names differ, unless the schema is obstructed. -/
theorem exists_clientset_iff :
  (∃ cs, s.IsClientset ex cs ∧ cs.names.Nodup) ↔ ¬ s.Obstructed ex
  := by
  constructor
  · rintro ⟨cs, hcs, hnames⟩ hobstructed
    obtain ⟨hfields, hwrappers⟩ := hcs.nodup_names_iff.mp hnames
    obtain ⟨-, hclients⟩ := exists_isClientset_iff.mp ⟨cs, hcs⟩
    cases hobstructed with
    | clientParameters hm hparams => apply hparams (exists_isClient_iff.mp (hclients _ _ hm)).1
    | opaqueClient hm ht =>
        obtain ⟨-, hmethods, -⟩ := exists_isClient_iff.mp (hclients _ _ hm)
        apply (exists_methods?_iff hresolve hm).mp hmethods ht
    | resourceParameters hm hn hparams =>
        obtain ⟨-, -, hresources⟩ := exists_isClient_iff.mp (hclients _ _ hm)
        apply hparams (exists_isResource_iff.mp (hresources _ _ hn)).1
    | opaqueResource hm hn hu =>
        obtain ⟨-, -, hresources⟩ := exists_isClient_iff.mp (hclients _ _ hm)
        obtain ⟨-, hmethods⟩ := exists_isResource_iff.mp (hresources _ _ hn)
        apply (exists_methods?_iff hresolve hn).mp hmethods hu
    | sharedField h => apply h hfields
    | sharedWrapper h => apply h hwrappers
  · intro h
    have hclients : ∀ m t, (m, t) ∈ s.clientAccessors ex → ∃ c, s.IsClient ex m t c := by
      intro m t hm
      apply exists_isClient_iff.mpr
      and_intros
      · by_contra hparams
        apply h (.clientParameters hm hparams)
      · rw [exists_methods?_iff hresolve hm]
        intro ht
        apply h (.opaqueClient hm ht)
      · intro n u hn
        apply exists_isResource_iff.mpr
        constructor
        · by_contra hparams
          apply h (.resourceParameters hm hn hparams)
        · rw [exists_methods?_iff hresolve hn]
          intro hu
          apply h (.opaqueResource hm hn hu)
    obtain ⟨cs, hcs⟩ := exists_isClientset_iff.mpr ⟨exists_methods?_root hresolve, hclients⟩
    refine ⟨cs, hcs, hcs.nodup_names_iff.mpr ⟨?_, ?_⟩⟩
    · by_contra hfields
      apply h (.sharedField hfields)
    · by_contra hwrappers
      apply h (.sharedWrapper hwrappers)

end

/-- A walk of the schema of a description keeps all methods of the root, of every client and of
every resource, and wraps those that give access to an interface under a name that is not excluded.
Accessors of clients have no parameters, those of resources a namespace at most, and the scope says
which of the two. The walk fails exactly if the schema is obstructed. -/
theorem walk_outcome {source : SchemaSource} (hresolve : source.resolve = .ok s)
    (ex : Exclusions) :
  (∀ cs, (s.walk ex).outcome = .ok cs →
    cs.type = s.root
    ∧ (∃ ms, s.methods? s.root = some ms
      ∧ s.Represents ex.clientset Client.accessor Client.type ms cs.members)
    ∧ ∀ c ∈ cs.clients, c.accessor.params = []
      ∧ (∃ ms, s.methods? c.type = some ms
        ∧ s.Represents ex.client Resource.accessor Resource.type ms c.members)
      ∧ ∀ r ∈ c.resources, s.methods? r.type = some r.operations
        ∧ r.accessor.TakesNamespace
        ∧ (r.scope = .namespaced ↔ r.accessor.params.length = 1))
  ∧ ((∃ e, (s.walk ex).outcome = .error e) ↔ s.Obstructed ex)
  := by
  constructor
  · intro cs hwalk
    obtain ⟨hcs, -⟩ := walk_eq_ok.mp hwalk
    refine ⟨hcs.type, hcs.represents, ?_⟩
    intro c hc
    obtain ⟨m, t, hclient⟩ := hcs.exists_isClient hc
    refine ⟨hclient.accessor ▸ hclient.params, hclient.represents, ?_⟩
    intro r hr
    obtain ⟨n, u, hresource⟩ := hclient.exists_isResource hr
    have htakes := hresource.takesNamespace
    obtain ⟨rfl, rfl, hoperations, hscope⟩ := hresource
    use hoperations, htakes
    rcases hscope with ⟨hscope, hparams⟩ | ⟨hscope, p, hparams, -⟩ <;> simp [hscope, hparams]
  · rw [Outcome.exists_error_iff, not_iff_comm, ← exists_clientset_iff hresolve]
    simp only [walk_eq_ok]

/-- A clientset with the clients `A` and `AB`, whose resources are `BC` and `C`. -/
def crossingSource : SchemaSource where
  root := .named "example.com/letters" "Interface"
  interfaces :=
    [⟨.named "example.com/letters" "Interface", [],
        [⟨"First", [], [.named "example.com/letters" "A"]⟩,
          ⟨"Second", [], [.named "example.com/letters" "AB"]⟩]⟩,
      ⟨.named "example.com/letters" "A", [],
        [⟨"Rest", [], [.named "example.com/letters" "BC"]⟩]⟩,
      ⟨.named "example.com/letters" "AB", [],
        [⟨"Last", [.builtin "string"], [.named "example.com/letters" "C"]⟩]⟩,
      ⟨.named "example.com/letters" "BC", [], []⟩,
      ⟨.named "example.com/letters" "C", [], [⟨"Get", [], [.builtin "error"]⟩]⟩]
  externals := []

/-- The two resources share the wrapper type `wrappedABC`, unless one of them is excluded. -/
theorem walk_outcome_crossing :
  ∃ s, crossingSource.resolve = .ok s ∧ s.Obstructed ⟨[], []⟩ ∧ ¬ s.Obstructed ⟨[], ["Last"]⟩
  := by
  have hwalk : crossingSource.resolve.toOption.map (fun s =>
      ((s.walk ⟨[], []⟩).outcome.toOption.isSome, (s.walk ⟨[], ["Last"]⟩).outcome.toOption.isSome))
      = some (false, true) := by decide +kernel
  obtain ⟨s, hresolve, hwalk⟩ := Outcome.exists_of_toOption hwalk
  obtain ⟨hshared, hexcluded⟩ := Prod.mk.inj hwalk
  use s, hresolve
  rw [← (walk_outcome hresolve _).2, ← (walk_outcome hresolve _).2]
  constructor
  · cases h : (s.walk ⟨[], []⟩).outcome with
    | error e => exact ⟨e, rfl⟩
    | ok cs =>
        rw [h] at hshared
        contradiction
  · rintro ⟨e, he⟩
    rw [he] at hexcluded
    contradiction

end Schema

end ClientWrap
