import ClientWrap.Proofs.Schema.Acceptance
import ClientWrap.Wrapper.Render
import Mathlib.Data.List.Perm.Basic

/-!
# The order of a description

The order of the declarations, of the external interfaces and, within a declaration, of the methods
and the embeddings makes no difference: reordered descriptions stand for one schema or for none
(`resolve_reordered`). The order decides only which of several faults is reported.
-/

namespace ClientWrap

open ClientWrap.Code

/-- The declarations differ in the order of their embeddings and methods only. -/
structure InterfaceDecl.Reordered (d d' : InterfaceDecl) : Prop where
  name : d.name = d'.name
  embeds : d.embeds.Perm d'.embeds
  methods : d.methods.Perm d'.methods

/-- A declaration in another order is one the other way round too. -/
theorem InterfaceDecl.Reordered.symm {d d' : InterfaceDecl} (h : d.Reordered d') :
  d'.Reordered d
  := ⟨h.name.symm, h.embeds.symm, h.methods.symm⟩

/-- A declaration in another order is of the same interface. -/
theorem InterfaceDecl.Reordered.key {d d' : InterfaceDecl} (h : d.Reordered d') :
  d.key = d'.key
  := congrArg GoType.spelling h.name

instance : DecidableRel InterfaceDecl.Reordered :=
  fun d d' => decidable_of_iff
    (d.name = d'.name ∧ d.embeds.Perm d'.embeds ∧ d.methods.Perm d'.methods)
    ⟨fun h => ⟨h.1, h.2.1, h.2.2⟩, fun h => ⟨h.name, h.embeds, h.methods⟩⟩

namespace SchemaSource

/-- The descriptions differ in the order of their lists only, at all levels. -/
structure Reordered (s s' : SchemaSource) : Prop where
  root : s.root = s'.root
  interfaces : ∃ decls, s.interfaces.Perm decls
    ∧ List.Forall₂ InterfaceDecl.Reordered decls s'.interfaces
  externals : s.externals.Perm s'.externals

namespace Reordered

variable {s s' : SchemaSource}

/-- A description in another order is one the other way round too. -/
theorem symm (h : s.Reordered s') :
  s'.Reordered s
  := by
  obtain ⟨decls, hperm, hdecls⟩ := h.interfaces
  have hback : List.Forall₂ InterfaceDecl.Reordered s'.interfaces decls :=
    List.Forall₂.flip (hdecls.imp fun _ _ hd => hd.symm)
  have hcomp : Relation.Comp (List.Forall₂ InterfaceDecl.Reordered) List.Perm
      s'.interfaces s.interfaces := ⟨decls, hback, hperm.symm⟩
  rw [List.forall₂_comp_perm_eq_perm_comp_forall₂] at hcomp
  obtain ⟨decls', hperm', hdecls'⟩ := hcomp
  exact ⟨h.root.symm, ⟨decls', hperm', hdecls'⟩, h.externals.symm⟩

/-- Every declaration has a reordered one in the other description. -/
theorem exists_decl (h : s.Reordered s') {d : InterfaceDecl} (hd : d ∈ s.interfaces) :
  ∃ d' ∈ s'.interfaces, d.Reordered d'
  := by
  obtain ⟨decls, hperm, hdecls⟩ := h.interfaces
  apply Outcome.exists_of_mem_left hdecls (hperm.mem_iff.mp hd)

/-- The same interfaces are declared in another order. -/
theorem keys_perm (h : s.Reordered s') :
  (s.interfaces.map InterfaceDecl.key).Perm (s'.interfaces.map InterfaceDecl.key)
  := by
  obtain ⟨decls, hperm, hdecls⟩ := h.interfaces
  apply (hperm.map InterfaceDecl.key).trans
  apply List.Perm.of_eq
  rw [← List.forall₂_eq_eq_eq, List.forall₂_map_left_iff, List.forall₂_map_right_iff]
  apply hdecls.imp
  intro d d' hd
  apply hd.key

/-! ### What the search goes by -/

/-- What is declared stays declared in another order. -/
theorem declares (h : s.Reordered s') {a : String} (ha : Declares s.interfaces a) :
  Declares s'.interfaces a
  := by
  obtain ⟨d, hd, rfl⟩ := ha
  obtain ⟨d', hd', hdd'⟩ := h.exists_decl hd
  exact ⟨d', hd', hdd'.key.symm⟩

/-- What an interface embeds it embeds in another order too. -/
theorem embeds (h : s.Reordered s') {a b : String} (hab : Embeds s.interfaces a b) :
  Embeds s'.interfaces a b
  := by
  obtain ⟨d, hd, rfl, e, he, hb⟩ := hab
  obtain ⟨d', hd', hdd'⟩ := h.exists_decl hd
  exact ⟨d', hd', hdd'.key.symm, e, hdd'.embeds.mem_iff.mp he, hb⟩

/-- What an interface leads to it leads to in another order too. -/
theorem reaches (h : s.Reordered s') {a b : String} (hab : Reaches s.interfaces a b) :
  Reaches s'.interfaces a b
  := Relation.ReflTransGen.mono (fun _ _ => h.embeds) a b hab

/-- What an interface offers it offers in another order too. -/
theorem offers (h : s.Reordered s') {a : String} {m : Method} (hm : Offers s.interfaces a m) :
  Offers s'.interfaces a m
  := by
  obtain ⟨d, hd, hreach, hm⟩ := hm
  obtain ⟨d', hd', hdd'⟩ := h.exists_decl hd
  use d', hd'
  rw [← hdd'.key]
  exact ⟨h.reaches hreach, hdd'.methods.mem_iff.mp hm⟩

/-- An interface that can be resolved can be resolved in another order too. -/
theorem resolvable (h : s.Reordered s') {a : String} (ha : Resolvable s.interfaces a) :
  Resolvable s'.interfaces a
  := by
  constructor
  · intro b hreach
    apply h.declares
    apply ha.declared b (h.symm.reaches hreach)
  · intro d' hd' hreach e he
    obtain ⟨d, hd, hdd'⟩ := h.symm.exists_decl hd'
    rw [hdd'.key] at hreach
    apply ha.qualified d hd (h.symm.reaches hreach) e (hdd'.embeds.mem_iff.mp he)
  · intro b hreach hcycle
    apply ha.acyclic b (h.symm.reaches hreach)
    apply Relation.TransGen.mono (fun _ _ => h.symm.embeds) b b hcycle
  · intro m hm
    apply ha.valid m (h.symm.offers hm)
  · apply ha.agree.mono
    intro m hm
    apply h.symm.offers hm

/-! ### What is described -/

/-- An acceptable description is acceptable in another order too. -/
theorem acceptable (h : s.Reordered s') (hs : s.Acceptable) :
  s'.Acceptable
  := by
  constructor
  · intro d' hd'
    obtain ⟨d, hd, hdd'⟩ := h.symm.exists_decl hd'
    rw [hdd'.name, hdd'.key]
    apply hs.named d hd
  · apply h.keys_perm.nodup_iff.mp hs.distinct
  · intro t ht
    obtain ⟨a, hkey, hnew⟩ := hs.external t (h.externals.mem_iff.mpr ht)
    use a, hkey
    intro ha
    apply hnew (h.symm.declares ha)
  · obtain ⟨a, hkey, ha⟩ := hs.root
    rw [h.root] at hkey
    exact ⟨a, hkey, h.declares ha⟩
  · intro d' hd'
    obtain ⟨d, hd, hdd'⟩ := h.symm.exists_decl hd'
    rw [hdd'.key]
    apply h.resolvable (hs.resolvable d hd)

/-- In another order the same schema is described. -/
theorem describes (h : s.Reordered s') {schema : Schema} (hs : s.Describes schema) :
  s'.Describes schema
  := by
  constructor
  · apply hs.root.trans h.root
  · apply hs.ascending
  · intro a ms hms
    obtain ⟨ha, hset⟩ := hs.sound a ms hms
    use h.declares ha
    apply hset.congr
    intro m
    exact ⟨h.offers, h.symm.offers⟩
  · intro a ha
    apply hs.complete a (h.symm.declares ha)
  · apply hs.externals_ascending
  · intro a
    rw [hs.mem_externals]
    simp only [h.externals.mem_iff]

/-- In another order a description is resolved to the same schema. -/
theorem resolve_eq_ok (h : s.Reordered s') {schema : Schema} (hs : s.resolve = .ok schema) :
  s'.resolve = .ok schema
  := by
  obtain ⟨hacceptable, hdescribes⟩ := SchemaSource.resolve_eq_ok.mp hs
  apply SchemaSource.resolve_eq_ok.mpr
  exact ⟨h.acceptable hacceptable, h.describes hdescribes⟩

end Reordered

/-- Reordered descriptions both have no schema, or they have one schema. The clientset, the text of
the emitted file and the listed resources are therefore the same. -/
theorem resolve_reordered (s s' : SchemaSource) (h : s.Reordered s') :
  s.resolve.toOption = s'.resolve.toOption
    ∧ ∀ ex : Exclusions,
      s.resolve.toOption.map (fun schema => schema.walk ex)
          = s'.resolve.toOption.map (fun schema => schema.walk ex)
        ∧ (∀ (ins : Instrumentation) (o : RenderOptions),
          s.resolve.toOption.map (fun schema => do
              let file ← ins.render o (← (schema.walk ex).outcome)
              return file.text)
            = s'.resolve.toOption.map (fun schema => do
              let file ← ins.render o (← (schema.walk ex).outcome)
              return file.text))
        ∧ s.resolve.toOption.map (fun schema => (schema.walk ex).outcome.map Clientset.rows)
          = s'.resolve.toOption.map (fun schema => (schema.walk ex).outcome.map Clientset.rows)
  := by
  have hresolve : s.resolve.toOption = s'.resolve.toOption := by
    cases hs : s.resolve with
    | ok schema => rw [h.resolve_eq_ok hs]
    | error e =>
        cases hs' : s'.resolve with
        | ok schema =>
            rw [h.symm.resolve_eq_ok hs'] at hs
            contradiction
        | error e' => rfl
  use hresolve
  intro ex
  rw [hresolve]
  exact ⟨rfl, fun _ _ => rfl, rfl⟩

/-- The diamond with its lists in other orders. -/
def reorderedDiamond : SchemaSource where
  root := .named "example.com/api.v1" "Store"
  interfaces :=
    [⟨.named "example.com/api.v1" "Closer", [], [⟨"Close", [], [.builtin "error"]⟩]⟩,
      ⟨.named "example.com/api.v1" "Writer", [.named "example.com/api.v1" "Closer"],
        [⟨"Put", [.variadic (.builtin "byte")], []⟩]⟩,
      ⟨.named "example.com/api.v1" "Store",
        [.named "example.com/api.v1" "Reader", .named "example.com/api.v1" "Writer"], []⟩,
      ⟨.named "example.com/api.v1" "Reader", [.named "example.com/api.v1" "Closer"],
        [⟨"Get", [.builtin "string"], [.builtin "error"]⟩]⟩]
  externals := []

/-- The diamond of embeddings in another order gives the same schema. -/
theorem resolve_reorderedDiamond :
  diamond.Reordered reorderedDiamond
    ∧ reorderedDiamond.resolve.toOption = some diamondSchema
  := by
  have hreordered : diamond.Reordered reorderedDiamond := by
    use rfl
    · use [diamond.interfaces[3], diamond.interfaces[2], diamond.interfaces[0],
        diamond.interfaces[1]]
      decide +kernel
    · decide
  use hreordered
  rw [← (resolve_reordered diamond reorderedDiamond hreordered).1]
  decide +kernel

end SchemaSource

end ClientWrap
