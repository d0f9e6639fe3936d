import ClientWrap.Proofs.Clientset.Walking
import ClientWrap.Proofs.Schema.Acceptance

/-!
# Names and types of a clientset

The methods of a schema that a description with parsed types stands for are valid, and their types
are parsed (`Schema.Proper`). The clientset of a walk takes its methods and types from the schema
(`Schema.IsClientset.proper`), so the wrapper types that are named after them have identifiers as
names.
-/

namespace ClientWrap

open ClientWrap.Text

/-- The method is valid and its types are parsed. -/
structure Method.Proper (m : Method) : Prop where
  valid : m.IsValid
  parsed : m.Parsed

/-- The type is parsed and the qualified name of an interface. -/
structure GoType.NamesInterface (t : GoType) : Prop where
  parsed : t.Parsed
  qualified : t.IsQualified

/-- The root of the schema is parsed, and its methods are proper. -/
structure Schema.Proper (s : Schema) : Prop where
  root : s.root.Parsed
  methods : ∀ t ms, s.methods? t = some ms → ∀ m ∈ ms, m.Proper

/-- A description with parsed types stands for a proper schema. -/
theorem SchemaSource.proper_of_resolve {source : SchemaSource} {s : Schema}
    (hparsed : source.Parsed) (h : source.resolve = .ok s) :
  s.Proper
  := by
  obtain ⟨hacceptable, hdescribes⟩ := describes_of_resolve h
  constructor
  · rw [hdescribes.root]
    apply hparsed.root
  · intro t ms hms m hm
    obtain ⟨a, -, ha⟩ := Option.bind_eq_some_iff.mp hms
    obtain ⟨⟨d, hd, rfl⟩, hset⟩ := hdescribes.sound a ms ha
    have hoffers := (hset.mem_iff m).mp hm
    constructor
    · apply (hacceptable.resolvable d hd).valid m hoffers
    · obtain ⟨d', hd', -, hm'⟩ := hoffers
      apply (hparsed.interfaces d' hd').methods m hm'

/-- Only a qualified name has described methods. -/
theorem Schema.isQualified_of_methods? {s : Schema} {t : GoType} {ms : List Method}
    (h : s.methods? t = some ms) :
  t.IsQualified
  := by
  obtain ⟨a, ha, -⟩ := Option.bind_eq_some_iff.mp h
  rw [GoType.isQualified_iff, GoType.spelling_of_key? ha, ha]

/-! ### The clientset of a walk -/

/-- The method or the item of the member is as it should be. -/
def Member.All {α : Type} (P : Method → Prop) (Q : α → Prop) : Member α → Prop
  | .direct m => P m
  | .wrapped item => Q item

/-- What holds of all members holds of the items among them. -/
theorem Member.of_mem_items {α : Type} {P : Method → Prop} {Q : α → Prop}
    {members : List (Member α)} (h : ∀ member ∈ members, member.All P Q) {item : α}
    (hitem : item ∈ members.filterMap Member.item?) :
  Q item
  := by
  obtain ⟨member, hmember, hitem⟩ := List.mem_filterMap.mp hitem
  have hall := h member hmember
  cases member with
  | direct _ => contradiction
  | wrapped _ =>
      obtain rfl := Option.some.inj hitem
      apply hall

/-- The methods and the type of the resource are proper. -/
structure Resource.Proper (r : Resource) : Prop where
  accessor : r.accessor.Proper
  type : r.type.NamesInterface
  operations : ∀ m ∈ r.operations, m.Proper

/-- The methods and types of the client and its resources are proper. -/
structure Client.Proper (c : Client) : Prop where
  accessor : c.accessor.Proper
  type : c.type.NamesInterface
  members : ∀ member ∈ c.members, member.All Method.Proper Resource.Proper

/-- The methods and types of the clientset, its clients and their resources are proper. -/
structure Clientset.Proper (cs : Clientset) : Prop where
  type : cs.type.NamesInterface
  members : ∀ member ∈ cs.members, member.All Method.Proper Client.Proper

namespace Schema

variable {s : Schema} {ex : Exclusions} {m : Method} {t : GoType}

/-- What a proper method gives access to is the qualified name of an interface. -/
theorem namesInterface_of_accessed {excluded : List String} {ms : List Method} (hm : m.Proper)
    (ht : s.accessed? excluded m = some t) (hms : s.methods? t = some ms) :
  t.NamesInterface
  := by
  obtain ⟨-, hresults, -⟩ := accessed?_eq_some.mp ht
  constructor
  · apply hm.parsed.results
    rw [hresults]
    apply List.mem_singleton_self
  · apply isQualified_of_methods? hms

/-- The members of a client wrapper are proper in a proper schema. -/
theorem IsClientMember.proper (hs : s.Proper) {member : Member Resource} (hm : m.Proper)
    (h : s.IsClientMember ex m member) :
  member.All Method.Proper Resource.Proper
  := by
  cases h with
  | direct _ => apply hm
  | wrapped ht hr =>
      obtain ⟨rfl, rfl, hoperations, -⟩ := hr
      constructor
      · apply hm
      · apply namesInterface_of_accessed hm ht hoperations
      · apply hs.methods _ _ hoperations

/-- The members of a clientset wrapper are proper in a proper schema. -/
theorem IsClientsetMember.proper (hs : s.Proper) {member : Member Client} (hm : m.Proper)
    (h : s.IsClientsetMember ex m member) :
  member.All Method.Proper Client.Proper
  := by
  cases h with
  | direct _ => apply hm
  | wrapped ht hc =>
      obtain ⟨rfl, rfl, -, ms, hms, hmembers⟩ := hc
      constructor
      · apply hm
      · apply namesInterface_of_accessed hm ht hms
      · intro member hmember
        obtain ⟨m, hm', hmember⟩ := Outcome.exists_of_mem_right hmembers hmember
        apply hmember.proper hs (hs.methods _ _ hms m hm')

/-- The clientset of a walk of a proper schema is proper. -/
theorem IsClientset.proper (hs : s.Proper) {cs : Clientset} (h : s.IsClientset ex cs) :
  cs.Proper
  := by
  obtain ⟨htype, ms, hms, hmembers⟩ := h
  constructor
  · rw [htype]
    exact ⟨hs.root, isQualified_of_methods? hms⟩
  · intro member hmember
    obtain ⟨m, hm, hmember⟩ := Outcome.exists_of_mem_right hmembers hmember
    apply hmember.proper hs (hs.methods _ _ hms m hm)

end Schema

/-! ### Names -/

/-- The name of a proper method is an identifier. -/
theorem Method.Proper.isIdentifier_name {m : Method} (h : m.Proper) :
  isIdentifier m.name.toList
  := isIdentifier_of_isExported h.valid.exported

/-- The name of an interface without its package is an identifier. -/
theorem GoType.NamesInterface.isIdentifier_shortName {t : GoType} (h : t.NamesInterface) :
  isIdentifier t.shortName.toList
  := by
  obtain ⟨hparsed, package, name, rfl⟩ := h
  apply hparsed.of_named.2

/-- The clients of a proper clientset are proper. -/
theorem Clientset.Proper.client {cs : Clientset} (h : cs.Proper) {c : Client}
    (hc : c ∈ cs.clients) :
  c.Proper
  := Member.of_mem_items h.members hc

/-- The resources of a proper client are proper. -/
theorem Client.Proper.resource {c : Client} (h : c.Proper) {r : Resource}
    (hr : r ∈ c.resources) :
  r.Proper
  := Member.of_mem_items h.members hr

/-- The field of a proper client is an identifier. -/
theorem Client.Proper.isIdentifier_field {c : Client} (h : c.Proper) :
  isIdentifier c.field.toList
  := isIdentifier_lowerString h.accessor.isIdentifier_name

/-- All methods of a proper clientset are proper. -/
theorem Clientset.Proper.method {cs : Clientset} (h : cs.Proper) {m : Method}
    (hm : m ∈ cs.allMethods) :
  m.Proper
  := by
  obtain ⟨member, hmember, hm⟩ := List.mem_flatMap.mp hm
  have hall := h.members member hmember
  cases member with
  | direct _ =>
      obtain rfl := List.mem_singleton.mp hm
      apply hall
  | wrapped c =>
      rcases List.mem_cons.mp hm with rfl | hm
      · apply Client.Proper.accessor hall
      · obtain ⟨member, hmember, hm⟩ := List.mem_flatMap.mp hm
        have hall := Client.Proper.members hall member hmember
        cases member with
        | direct _ =>
            obtain rfl := List.mem_singleton.mp hm
            apply hall
        | wrapped r =>
            rcases List.mem_cons.mp hm with rfl | hm
            · apply Resource.Proper.accessor hall
            · apply Resource.Proper.operations hall m hm

/-- An identifier in front of another one is an identifier. -/
theorem isIdentifier_lead {lead s : String} (hlead : isIdentifier lead.toList)
    (hs : isIdentifier s.toList) :
  isIdentifier (lead ++ s).toList
  := by
  rw [String.toList_append]
  apply isIdentifier_append hlead (all_isIdentRest_of_isIdentifier hs)

/-- The wrapper of a proper client has an identifier as its name. -/
theorem Client.Proper.isIdentifier_wrapper {c : Client} (h : c.Proper) :
  isIdentifier c.wrapper.toList
  := isIdentifier_lead (by decide) h.type.isIdentifier_shortName

/-- The constructor of a proper client has an identifier as its name. -/
theorem Client.Proper.isIdentifier_constructor {c : Client} (h : c.Proper) :
  isIdentifier c.constructor.toList
  := isIdentifier_lead (by decide) h.type.isIdentifier_shortName

/-- The wrapper of a proper resource has an identifier as its name. -/
theorem Resource.Proper.isIdentifier_wrapper {r : Resource} (h : r.Proper) {c : Client}
    (hc : c.Proper) :
  isIdentifier (r.wrapper c).toList
  := isIdentifier_lead hc.isIdentifier_wrapper h.type.isIdentifier_shortName

/-- The constructor of a proper resource has an identifier as its name. -/
theorem Resource.Proper.isIdentifier_constructor {r : Resource} (h : r.Proper) {c : Client}
    (hc : c.Proper) :
  isIdentifier (r.constructor c).toList
  := isIdentifier_lead hc.isIdentifier_constructor h.type.isIdentifier_shortName

end ClientWrap
