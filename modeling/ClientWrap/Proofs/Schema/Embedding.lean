import ClientWrap.Proofs.Schema.MethodSet
import Mathlib.Logic.Relation

/-!
# Embeddings

The declarations of a description form a graph on the qualified names of interfaces, with an edge
for every embedding. `Offers decls a m` says that the interface `a` has the method `m`, because it
is declared in `a` or in an interface that `a` embeds at any depth. `Resolvable decls a` says what
the declarations below `a` must be like for `a` to have a method set.
-/

namespace ClientWrap

open ClientWrap.Text

variable (decls : List InterfaceDecl)

/-- An interface of the name is declared. -/
def Declares (a : String) : Prop :=
  ∃ d ∈ decls, d.key = a

/-- The interface with the first name embeds the interface with the second. -/
def Embeds (a b : String) : Prop :=
  ∃ d ∈ decls, d.key = a ∧ ∃ e ∈ d.embeds, e.key? = some b

/-- The second interface is the first or embedded in it at any depth. -/
def Reaches : String → String → Prop :=
  Relation.ReflTransGen (Embeds decls)

/-- The interface or one that it embeds at any depth declares the method. -/
def Offers (a : String) (m : Method) : Prop :=
  ∃ d ∈ decls, Reaches decls a d.key ∧ m ∈ d.methods

/-- One of the embedded interfaces has the method. -/
def Inherits (embeds : List GoType) (m : Method) : Prop :=
  ∃ e ∈ embeds, ∃ b, e.key? = some b ∧ Offers decls b m

/-- All interfaces below an interface are declared, embed interfaces that have a qualified name,
do not embed themselves and declare valid methods that agree with each other. -/
structure Resolvable (a : String) : Prop where
  declared : ∀ b, Reaches decls a b → Declares decls b
  qualified : ∀ d ∈ decls, Reaches decls a d.key → ∀ e ∈ d.embeds, ∃ b, e.key? = some b
  acyclic : ∀ b, Reaches decls a b → ¬ Relation.TransGen (Embeds decls) b b
  valid : ∀ m, Offers decls a m → m.IsValid
  agree : Agree (Offers decls a)

variable {decls}

/-- An interface offers what those that it leads to offer. -/
theorem Offers.of_reaches {a b : String} {m : Method} (hab : Reaches decls a b)
    (h : Offers decls b m) :
  Offers decls a m
  := by
  obtain ⟨d, hd, hreach, hm⟩ := h
  exact ⟨d, hd, hab.trans hreach, hm⟩

/-- What is below a resolvable interface is resolvable. -/
theorem Resolvable.of_reaches {a b : String} (hab : Reaches decls a b)
    (h : Resolvable decls a) :
  Resolvable decls b
  := by
  constructor
  · intro c hc
    apply h.declared c (hab.trans hc)
  · intro d hd hreach
    apply h.qualified d hd (hab.trans hreach)
  · intro c hc
    apply h.acyclic c (hab.trans hc)
  · intro m hm
    apply h.valid m (hm.of_reaches hab)
  · apply h.agree.mono
    intro m hm
    apply hm.of_reaches hab

/-- What a declaration embeds its interface embeds. -/
theorem embeds_of_mem {d : InterfaceDecl} {e : GoType} {b : String} (hd : d ∈ decls)
    (he : e ∈ d.embeds) (hb : e.key? = some b) :
  Embeds decls d.key b
  := ⟨d, hd, rfl, e, he, hb⟩

/-- A declaration below a resolvable embedded interface is not the embedding one. -/
theorem Resolvable.ne_of_embeds {a b c : String} (h : Resolvable decls a)
    (hab : Embeds decls a b) (hbc : Reaches decls b c) :
  c ≠ a
  := by
  rintro rfl
  apply h.acyclic c Relation.ReflTransGen.refl
  apply Relation.TransGen.head' hab hbc

section

variable (hkeys : (decls.map InterfaceDecl.key).Nodup)

include hkeys

/-- Declarations of one name are equal if no name is declared twice. -/
theorem eq_of_key {d d' : InterfaceDecl} (hd : d ∈ decls) (hd' : d' ∈ decls)
    (h : d.key = d'.key) :
  d = d'
  := List.inj_on_of_nodup_map hkeys hd hd' h

/-- If names are declared once, an interface embeds only what its declaration does. -/
theorem exists_embed_of_embeds {d : InterfaceDecl} {b : String} (hd : d ∈ decls)
    (h : Embeds decls d.key b) :
  ∃ e ∈ d.embeds, e.key? = some b
  := by
  obtain ⟨d', hd', hkey, he⟩ := h
  rwa [eq_of_key hkeys hd' hd hkey] at he

/-- An interface has the methods that it declares and those that it inherits. -/
theorem offers_iff {d : InterfaceDecl} {m : Method} (hd : d ∈ decls) :
  Offers decls d.key m ↔ Inherits decls d.embeds m ∨ m ∈ d.methods
  := by
  constructor
  · rintro ⟨d', hd', hreach, hm⟩
    rcases hreach.cases_head with hkey | ⟨b, hembeds, hreach⟩
    · rw [eq_of_key hkeys hd hd' hkey]
      apply Or.inr hm
    · obtain ⟨e, he, hb⟩ := exists_embed_of_embeds hkeys hd hembeds
      apply Or.inl ⟨e, he, b, hb, d', hd', hreach, hm⟩
  · rintro (⟨e, he, b, hb, h⟩ | hm)
    · apply h.of_reaches
      apply Relation.ReflTransGen.single (embeds_of_mem hd he hb)
    · exact ⟨d, hd, Relation.ReflTransGen.refl, hm⟩

/-- An interface is resolvable if those that it embeds are and if all its methods are valid and
agree with each other. -/
theorem Resolvable.of_embeds {d : InterfaceDecl} (hd : d ∈ decls)
    (hembeds : ∀ e ∈ d.embeds, ∃ b, e.key? = some b ∧ Resolvable decls b)
    (hvalid : ∀ m ∈ d.methods, m.IsValid) (hagree : Agree (Offers decls d.key)) :
  Resolvable decls d.key
  := by
  have hbelow : ∀ b, Embeds decls d.key b → Resolvable decls b := by
    intro b hb
    obtain ⟨e, he, hkey⟩ := exists_embed_of_embeds hkeys hd hb
    obtain ⟨c, hkey', hc⟩ := hembeds e he
    obtain rfl : c = b := Option.some.inj (hkey'.symm.trans hkey)
    apply hc
  constructor
  · intro c hreach
    rcases hreach.cases_head with rfl | ⟨b, hb, hreach⟩
    · exact ⟨d, hd, rfl⟩
    · apply (hbelow b hb).declared c hreach
  · intro d' hd' hreach
    rcases hreach.cases_head with hkey | ⟨b, hb, hreach⟩
    · rw [← eq_of_key hkeys hd hd' hkey]
      intro e he
      obtain ⟨b, hb, -⟩ := hembeds e he
      exact ⟨b, hb⟩
    · apply (hbelow b hb).qualified d' hd' hreach
  · intro c hreach hcycle
    rcases hreach.cases_head with rfl | ⟨b, hb, hreach⟩
    · obtain ⟨b, hb, hback⟩ := Relation.TransGen.head'_iff.mp hcycle
      apply (hbelow b hb).acyclic _ hback hcycle
    · apply (hbelow b hb).acyclic c hreach hcycle
  · intro m hm
    rcases (offers_iff hkeys hd).mp hm with ⟨e, he, b, hb, hm⟩ | hm
    · apply (hbelow b (embeds_of_mem hd he hb)).valid m hm
    · apply hvalid m hm
  · apply hagree

end

end ClientWrap
