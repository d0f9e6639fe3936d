import ClientWrap.Proofs.Clientset.Walking
import Mathlib.Data.List.Flatten

/-!
# More exclusions

A walk that succeeds still succeeds when further names are excluded. Its clientset is the same but
for the accessors of these names, which are passed through in their places
(`Schema.walk_excluding`): with the client of an excluded accessor its resources go, and a name that
is excluded in clients is so in all of them. What is left has no more names than before, so no two
of them are the same.
-/

namespace ClientWrap

/-! ### Exclusions -/

namespace Exclusions

/-- What is excluded at either level is also excluded there by the other exclusions. -/
structure Within (ex ex' : Exclusions) : Prop where
  clientset : ex.clientset ⊆ ex'.clientset
  client : ex.client ⊆ ex'.client

/-- The names that are excluded at either level, but not by the other exclusions. -/
def beyond (ex' ex : Exclusions) : Exclusions where
  clientset := ex'.clientset.filter (· ∉ ex.clientset)
  client := ex'.client.filter (· ∉ ex.client)

end Exclusions

/-! ### Members that are passed through -/

/-- The member with its method in place of an item whose accessor has one of the names. -/
def Member.excluding {α β : Type} (accessor : α → Method) (names : List String) (kept : α → β) :
    Member α → Member β
  | .direct m => .direct m
  | .wrapped item =>
    if (accessor item).name ∈ names then .direct (accessor item) else .wrapped (kept item)

/-- The client with the accessors of the names passed through. -/
def Client.excluding (names : List String) (c : Client) : Client :=
  { c with members := c.members.map (Member.excluding Resource.accessor names id) }

/-- The clientset with the accessors of the names passed through at either level. -/
def Clientset.excluding (ex : Exclusions) (cs : Clientset) : Clientset :=
  { cs with
    members := cs.members.map
      (Member.excluding Client.accessor ex.clientset (Client.excluding ex.client)) }

namespace Member

variable {α β : Type} {accessor : α → Method} {names : List String} {kept : α → β}

/-- The items that are left are those of other names. -/
theorem items_excluding (members : List (Member α)) :
  (members.map (excluding accessor names kept)).filterMap item?
    = ((members.filterMap item?).filter fun item => (accessor item).name ∉ names).map kept
  := by
  induction members with
  | nil => rfl
  | cons member members ih =>
      cases member with
      | direct m => apply ih
      | wrapped item =>
          by_cases hname : (accessor item).name ∈ names
          all_goals simpa [excluding, item?, List.filterMap_cons, hname] using ih

/-- A member of a method that gives no access any more is the method. -/
theorem StandsFor.excluding {m : Method} {given given' : Option GoType}
    {IsItem : GoType → α → Prop} {IsItem' : GoType → β → Prop} {member : Member α}
    (h : StandsFor m given IsItem member)
    (hgiven : given' = if m.name ∈ names then none else given)
    (haccessor : ∀ t item, IsItem t item → accessor item = m)
    (hkept : ∀ t item, IsItem t item → IsItem' t (kept item)) :
  StandsFor m given' IsItem' (member.excluding accessor names kept)
  := by
  cases h with
  | direct hnone =>
      apply StandsFor.direct
      rw [hgiven, hnone, ite_self]
  | @wrapped t item ht hitem =>
      rw [Member.excluding, haccessor t item hitem]
      by_cases hname : m.name ∈ names
      · rw [if_pos hname] at hgiven ⊢
        apply StandsFor.direct hgiven
      · rw [if_neg hname] at hgiven ⊢
        apply StandsFor.wrapped (hgiven.trans ht) (hkept t item hitem)

end Member

/-! ### Names -/

/-- The resources that stay are those without an excluded name. -/
theorem Client.resources_excluding (names : List String) (c : Client) :
  (c.excluding names).resources = c.resources.filter fun r => r.name ∉ names
  := by
  rw [resources, excluding, Member.items_excluding, List.map_id]
  rfl

namespace Clientset

/-- The clients that stay are those without an excluded name, each with the resources that stay. -/
theorem clients_excluding (ex : Exclusions) (cs : Clientset) :
  (cs.excluding ex).clients
    = (cs.clients.filter fun c => c.name ∉ ex.clientset).map (Client.excluding ex.client)
  := Member.items_excluding cs.members

/-- No names are added when accessors are passed through. -/
theorem names_excluding_sublist (ex : Exclusions) (cs : Clientset) :
  (cs.excluding ex).names.Sublist cs.names
  := by
  rw [names, names, clients_excluding, List.flatMap_map]
  apply List.Sublist.cons_cons
  refine List.Sublist.trans (List.Sublist.flatMap_right _ ?_) (List.filter_sublist.flatMap _)
  intro c _
  apply List.Sublist.cons_cons
  apply List.Sublist.cons_cons
  rw [Client.resources_excluding]
  apply List.filter_sublist.map

end Clientset

/-! ### The walk -/

namespace Schema

variable {s : Schema} {ex ex' : Exclusions} {m : Method} {t : GoType}

/-- With more names excluded a method gives access to what it did, unless its own name is a new
one. -/
theorem accessed?_of_subset {names names' : List String} (h : names ⊆ names') (m : Method) :
  s.accessed? names' m
    = if m.name ∈ names'.filter (· ∉ names) then none else s.accessed? names m
  := by
  rw [accessed?, accessed?]
  by_cases hname' : m.name ∈ names'
  · by_cases hname : m.name ∈ names <;> simp [hname', hname]
  · have hname : m.name ∉ names := fun hname => hname' (h hname)
    simp [hname', hname]

section

variable (h : ex.Within ex')

include h

/-- With more exclusions the same client is found, with the newly excluded resources passed
through. -/
theorem IsClient.excluding {c : Client} (hc : s.IsClient ex m t c) :
  s.IsClient ex' m t (c.excluding (ex'.beyond ex).client)
  := by
  obtain ⟨haccessor, htype, hparams, ms, hms, hmembers⟩ := hc
  refine ⟨haccessor, htype, hparams, ms, hms, ?_⟩
  rw [Client.excluding, List.forall₂_map_right_iff]
  apply hmembers.imp
  intro n member hmember
  apply hmember.excluding (accessed?_of_subset h.client n)
  · intro u r hr
    apply hr.accessor
  · intro u r hr
    apply hr

/-- With more exclusions the same clientset is found, with what is newly excluded passed through. -/
theorem IsClientset.excluding {cs : Clientset} (hcs : s.IsClientset ex cs) :
  s.IsClientset ex' (cs.excluding (ex'.beyond ex))
  := by
  obtain ⟨htype, ms, hms, hmembers⟩ := hcs
  refine ⟨htype, ms, hms, ?_⟩
  rw [Clientset.excluding, List.forall₂_map_right_iff]
  apply hmembers.imp
  intro n member hmember
  apply hmember.excluding (accessed?_of_subset h.clientset n)
  · intro u c hc
    apply hc.accessor
  · intro u c hc
    apply hc.excluding h

end

/-- What a method gives access to depends on the set of excluded names only. -/
theorem accessed?_congr {names names' : List String} (h : names ⊆ names') (h' : names' ⊆ names) :
  s.accessed? names' = s.accessed? names
  := by
  funext m
  rw [accessed?_of_subset h, if_neg]
  simpa using fun hname => h' hname

section

variable (h : ex.Within ex') (h' : ex'.Within ex)

include h h'

/-- The member of a client depends on the sets of excluded names only. -/
theorem clientMember_congr :
  s.clientMember ex' = s.clientMember ex
  := by
  funext owner m
  rw [clientMember, clientMember, accessed?_congr h.client h'.client]

/-- The member of a clientset depends on the sets of excluded names only. -/
theorem clientsetMember_congr :
  s.clientsetMember ex' = s.clientsetMember ex
  := by
  have hclient : s.client ex' = s.client ex := by
    funext owner m t
    rw [client, client, clientMember_congr h h']
  funext m
  rw [clientsetMember, clientsetMember, accessed?_congr h.clientset h'.clientset, hclient]

/-- A walk depends on the sets of the excluded names only. -/
theorem walk_congr :
  s.walk ex' = s.walk ex
  := by
  rw [walk, walk, clientsetMember_congr h h']

end

/-- If more names are excluded a walk that succeeds still does, and its clientset is the same but
for the wrapped members whose accessors have newly excluded names: in their places these accessors
are passed through. The order and the repetition of excluded names do not change the walk at all. -/
theorem walk_excluding (h : ex.Within ex') :
  (∀ cs, (s.walk ex).outcome = .ok cs →
    (s.walk ex').outcome = .ok (cs.excluding (ex'.beyond ex)))
  ∧ (ex'.Within ex → s.walk ex' = s.walk ex)
  := by
  constructor
  · intro cs hwalk
    obtain ⟨hcs, hnames⟩ := walk_eq_ok.mp hwalk
    apply walk_eq_ok.mpr
    exact ⟨hcs.excluding h, hnames.sublist (cs.names_excluding_sublist _)⟩
  · intro h'
    apply walk_congr h h'

/-- A schema with three clients, of which two give access to events. -/
def eventSchema : Schema where
  root := .named "example.com/kubernetes" "Interface"
  interfaces :=
    [("example.com/apps.Apps", [⟨"Deployments", [], [.named "example.com/apps" "Deployment"]⟩]),
      ("example.com/apps.Deployment", []),
      ("example.com/batch.Batch",
        [⟨"Events", [], [.named "example.com/events" "Event"]⟩,
          ⟨"Jobs", [.builtin "string"], [.named "example.com/batch" "Job"]⟩]),
      ("example.com/batch.Job", [⟨"Get", [], [.builtin "error"]⟩]),
      ("example.com/core.Core", [⟨"Events", [], [.named "example.com/events" "Event"]⟩]),
      ("example.com/events.Event", []),
      ("example.com/kubernetes.Interface",
        [⟨"Apps", [], [.named "example.com/apps" "Apps"]⟩,
          ⟨"Batch", [], [.named "example.com/batch" "Batch"]⟩,
          ⟨"Core", [], [.named "example.com/core" "Core"]⟩])]
  externals := []

/-- A client is excluded and, in all clients, the events. -/
def eventExclusions : Exclusions :=
  ⟨["Apps"], ["Events", "Events"]⟩

/-- One client is passed through, and the jobs of another one are the only resource left. -/
theorem walk_excluding_events :
  ∃ cs, (eventSchema.walk ⟨[], []⟩).outcome = .ok cs ∧ cs.resourceCount = 4
    ∧ Exclusions.Within ⟨[], []⟩ eventExclusions
    ∧ (eventSchema.walk eventExclusions).outcome
      = .ok (cs.excluding (eventExclusions.beyond ⟨[], []⟩))
    ∧ (cs.excluding eventExclusions).clients.map (fun c => (c.name, c.resources.map Resource.name))
      = [("Batch", ["Jobs"]), ("Core", [])]
  := by
  have hwalk : (eventSchema.walk ⟨[], []⟩).outcome.toOption.map (fun cs => (cs.resourceCount,
      (cs.excluding eventExclusions).clients.map (fun c => (c.name, c.resources.map Resource.name))))
      = some (4, [("Batch", ["Jobs"]), ("Core", [])]) := by decide +kernel
  have hwithin : Exclusions.Within ⟨[], []⟩ eventExclusions :=
    ⟨List.nil_subset _, List.nil_subset _⟩
  obtain ⟨cs, hwalk, hcs⟩ := Outcome.exists_of_toOption hwalk
  obtain ⟨hcount, hclients⟩ := Prod.mk.inj hcs
  exact ⟨cs, hwalk, hcount, hwithin, (walk_excluding hwithin).1 cs hwalk, hclients⟩

end Schema

end ClientWrap
