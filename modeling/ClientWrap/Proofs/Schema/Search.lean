import ClientWrap.Proofs.Schema.Embedding

/-!
# The search for methods

`methodsFrom` finds the method sets of the interfaces that can be resolved and of no others
(`finds_methodsFrom`). The table that it carries holds method sets of resolvable interfaces only
(`IsTable`) and never loses one. The search gets to every resolvable interface whose declarations
are all usable, because the declarations below an embedded interface never include the one on whose
behalf it is searched.
-/

namespace ClientWrap

open ClientWrap.Text

/-! ### Tables -/

/-- The second table has what the first has. -/
def MethodTable.Extends (table table' : MethodTable) : Prop :=
  ∀ a ms, table.methodsOf? a = some ms → table'.methodsOf? a = some ms

/-- A table extends itself. -/
theorem MethodTable.Extends.refl (table : MethodTable) :
  table.Extends table
  := fun _ _ h => h

/-- Extensions of extensions are extensions. -/
theorem MethodTable.Extends.trans {table₁ table₂ table₃ : MethodTable}
    (h : table₁.Extends table₂) (h' : table₂.Extends table₃) :
  table₁.Extends table₃
  := fun a ms ha => h' a ms (h a ms ha)

/-- The table has method sets of resolvable interfaces, in ascending order of their names. -/
structure IsTable (decls : List InterfaceDecl) (table : MethodTable) : Prop where
  ascending : AscendingBy Prod.fst table
  sound : ∀ a ms, table.methodsOf? a = some ms →
    Resolvable decls a ∧ IsMethodSet ms (Offers decls a)

variable {decls : List InterfaceDecl} {table table' : MethodTable}

/-- The empty table has no wrong entries. -/
theorem IsTable.nil :
  IsTable decls []
  := by
  use AscendingBy.nil
  intro a ms h
  contradiction

/-- A table may be given the method set of a resolvable interface. -/
theorem IsTable.insert {a : String} {ms : List Method} (h : IsTable decls table)
    (ha : Resolvable decls a) (hms : IsMethodSet ms (Offers decls a)) :
  IsTable decls (table.insert a ms)
  := by
  use MethodTable.ascendingBy_insert h.ascending
  intro b ns hb
  rw [MethodTable.methodsOf?_insert] at hb
  split at hb
  · next hba =>
      obtain rfl := Option.some.inj hb
      rw [hba]
      exact ⟨ha, hms⟩
  · apply h.sound b ns hb

/-- Putting a method set into a table loses none, since an interface has one method set only. -/
theorem IsTable.extends_insert {a : String} {ms : List Method} (h : IsTable decls table)
    (hms : IsMethodSet ms (Offers decls a)) :
  table.Extends (table.insert a ms)
  := by
  intro b ns hb
  rw [MethodTable.methodsOf?_insert]
  split
  · next hba =>
      rw [hba] at hb
      rw [(h.sound a ns hb).2.eq hms]
  · apply hb

/-! ### What a search is to find -/

/-- The search finds method sets of resolvable interfaces only, and it finds that of every
resolvable interface in its range. -/
structure Finds (decls : List InterfaceDecl)
    (search : MethodTable → String → Except Error (List Method × MethodTable))
    (range : String → Prop) : Prop where
  sound : ∀ table a ms table', IsTable decls table → search table a = .ok (ms, table') →
    IsTable decls table' ∧ table.Extends table' ∧ table'.methodsOf? a = some ms
  complete : ∀ table a, IsTable decls table → Resolvable decls a → range a →
    ∃ r, search table a = .ok r

/-- A type is read as a name exactly if this is its key. -/
theorem qualified_eq_ok {t : GoType} {a : String} :
  qualified t = .ok a ↔ t.key? = some a
  := by
  rw [qualified]
  cases t.key? <;> simp

section

variable {search : MethodTable → String → Except Error (List Method × MethodTable)}
  {range : String → Prop} {set set' : List Method} {P : Method → Prop}

/-- The methods of an embedded interface are added to those found before. -/
theorem Finds.inherit_sound (hsearch : Finds decls search range) {interface : String}
    {e : GoType}
    (hset : IsMethodSet set P) (htable : IsTable decls table)
    (h : inherit interface search (set, table) e = .ok (set', table')) :
  (∃ b, e.key? = some b ∧ Resolvable decls b)
    ∧ IsMethodSet set' (fun m => P m ∨ Inherits decls [e] m)
    ∧ IsTable decls table' ∧ table.Extends table'
  := by
  obtain ⟨b, hb, h⟩ := Outcome.bind_eq_ok.mp h
  obtain ⟨⟨ms, table₁⟩, hfound, h⟩ := Outcome.bind_eq_ok.mp h
  obtain ⟨set₁, hadd, h⟩ := Outcome.bind_eq_ok.mp h
  obtain ⟨rfl, rfl⟩ := Prod.mk.inj (Except.ok.inj h)
  obtain ⟨htable₁, hextends, hms⟩ := hsearch.sound table b ms table₁ htable hfound
  obtain ⟨hb', hmethods⟩ := htable₁.sound b ms hms
  have hkey := qualified_eq_ok.mp hb
  and_intros
  · exact ⟨b, hkey, hb'⟩
  · apply ((foldlM_addMethod_eq_ok hset).mp hadd).congr
    intro m
    simp [Inherits, hkey, hmethods.mem_iff]
  · apply htable₁
  · apply hextends

/-- What is inherited from embedded interfaces is inherited from the first one or from the
others. -/
theorem inherits_cons (e : GoType) (embeds : List GoType) (m : Method) :
  Inherits decls (e :: embeds) m ↔ Inherits decls [e] m ∨ Inherits decls embeds m
  := by
  simp [Inherits]

/-- The methods of all embedded interfaces are added, and these interfaces are resolvable. -/
theorem Finds.foldlM_inherit_sound (hsearch : Finds decls search range) {interface : String}
    {embeds : List GoType}
    (hset : IsMethodSet set P) (htable : IsTable decls table)
    (h : embeds.foldlM (inherit interface search) (set, table) = .ok (set', table')) :
  (∀ e ∈ embeds, ∃ b, e.key? = some b ∧ Resolvable decls b)
    ∧ IsMethodSet set' (fun m => P m ∨ Inherits decls embeds m)
    ∧ IsTable decls table' ∧ table.Extends table'
  := by
  induction embeds generalizing set table P with
  | nil =>
      obtain ⟨rfl, rfl⟩ := Prod.mk.inj (Except.ok.inj h)
      and_intros
      · apply List.forall_mem_nil
      · apply hset.congr
        simp [Inherits]
      · apply htable
      · apply MethodTable.Extends.refl
  | cons e embeds ih =>
      rw [List.foldlM_cons] at h
      obtain ⟨⟨set₁, table₁⟩, hfirst, h⟩ := Outcome.bind_eq_ok.mp h
      obtain ⟨he, hset₁, htable₁, hextends⟩ := hsearch.inherit_sound hset htable hfirst
      obtain ⟨hembeds, hset', htable', hextends'⟩ := ih hset₁ htable₁ h
      and_intros
      · exact List.forall_mem_cons.mpr ⟨he, hembeds⟩
      · apply hset'.congr
        intro m
        rw [inherits_cons e embeds, or_assoc]
      · apply htable'
      · apply hextends.trans hextends'

/-- The methods of a resolvable embedded interface can be added if they agree with those found
before. -/
theorem Finds.exists_inherit (hsearch : Finds decls search range) (interface : String)
    {e : GoType} {b : String} (hset : IsMethodSet set P) (htable : IsTable decls table)
    (hkey : e.key? = some b) (hb : Resolvable decls b) (hrange : range b)
    (hagree : Agree fun m => P m ∨ Inherits decls [e] m) :
  ∃ r, inherit interface search (set, table) e = .ok r
  := by
  obtain ⟨⟨ms, table₁⟩, hfound⟩ := hsearch.complete table b htable hb hrange
  obtain ⟨htable₁, -, hms⟩ := hsearch.sound table b ms table₁ htable hfound
  have hmethods := (htable₁.sound b ms hms).2
  have hadd : ∃ set₁, ms.foldlM (addMethod interface) set = .ok set₁ := by
    apply exists_foldlM_addMethod interface ms hset
    apply hagree.mono
    rintro m (hm | hm)
    · apply Or.inl hm
    · apply Or.inr ⟨e, List.mem_cons_self, b, hkey, (hmethods.mem_iff m).mp hm⟩
  obtain ⟨set₁, hadd⟩ := hadd
  use (set₁, table₁)
  apply Outcome.bind_eq_ok.mpr
  use b, qualified_eq_ok.mpr hkey
  apply Outcome.bind_eq_ok.mpr
  use (ms, table₁), hfound
  apply Outcome.bind_eq_ok.mpr
  exact ⟨set₁, hadd, rfl⟩

/-- Resolvable embedded interfaces are found, and their methods can be added if all of them
agree. -/
theorem Finds.exists_foldlM_inherit (hsearch : Finds decls search range) (interface : String)
    {embeds : List GoType}
    (hset : IsMethodSet set P) (htable : IsTable decls table)
    (hembeds : ∀ e ∈ embeds, ∃ b, e.key? = some b ∧ Resolvable decls b ∧ range b)
    (hagree : Agree fun m => P m ∨ Inherits decls embeds m) :
  ∃ r, embeds.foldlM (inherit interface search) (set, table) = .ok r
  := by
  induction embeds generalizing set table P with
  | nil => exact ⟨(set, table), rfl⟩
  | cons e embeds ih =>
      obtain ⟨⟨b, hkey, hb, hrange⟩, hembeds⟩ := List.forall_mem_cons.mp hembeds
      have hagree : Agree fun m => (P m ∨ Inherits decls [e] m) ∨ Inherits decls embeds m := by
        apply hagree.mono
        intro m hm
        rwa [inherits_cons e embeds, ← or_assoc]
      obtain ⟨⟨set₁, table₁⟩, hfirst⟩ :=
        hsearch.exists_inherit interface hset htable hkey hb hrange
          (hagree.mono fun m => Or.inl)
      obtain ⟨-, hset₁, htable₁, -⟩ := hsearch.inherit_sound hset htable hfirst
      obtain ⟨r, hr⟩ := ih hset₁ htable₁ hembeds hagree
      use r
      rw [List.foldlM_cons]
      apply Outcome.bind_eq_ok.mpr
      exact ⟨(set₁, table₁), hfirst, hr⟩

end

/-! ### The search from an interface -/

/-- All declarations below the interface may be used. -/
def UsableBelow (decls usable : List InterfaceDecl) (a : String) : Prop :=
  ∀ d ∈ decls, Reaches decls a d.key → d ∈ usable

/-- Below an embedded interface the declaration of the embedding one is not needed. -/
theorem UsableBelow.others {usable : List InterfaceDecl} {a b : String}
    (h : UsableBelow decls usable a) (ha : Resolvable decls a) (hab : Embeds decls a b) :
  UsableBelow decls (InterfaceDecl.others usable a) b
  := by
  intro d hd hbelow
  have husable := h d hd (Relation.ReflTransGen.head hab hbelow)
  have hne := ha.ne_of_embeds hab hbelow
  simpa [InterfaceDecl.others] using ⟨husable, hne⟩

/-- The interfaces that a resolvable interface embeds are resolvable without its declaration. -/
theorem UsableBelow.exists_embedded {usable : List InterfaceDecl} {d : InterfaceDecl}
    (h : UsableBelow decls usable d.key) (hresolvable : Resolvable decls d.key) (hd : d ∈ decls) :
  ∀ e ∈ d.embeds, ∃ b, e.key? = some b ∧ Resolvable decls b
    ∧ UsableBelow decls (InterfaceDecl.others usable d.key) b
  := by
  intro e he
  obtain ⟨b, hb⟩ := hresolvable.qualified d hd Relation.ReflTransGen.refl e he
  have hedge := embeds_of_mem hd he hb
  use b, hb, hresolvable.of_reaches (Relation.ReflTransGen.single hedge)
  apply h.others hresolvable hedge

section

variable {usable : List InterfaceDecl} (hkeys : (decls.map InterfaceDecl.key).Nodup)
  (declared : List String) (husable : ∀ d ∈ usable, d ∈ decls)
  (hbelow : ∀ a d, usable.find? (·.key == a) = some d →
    Finds decls (methodsFrom declared (InterfaceDecl.others usable a))
      (UsableBelow decls (InterfaceDecl.others usable a)))

include husable in
/-- A usable declaration that is found by a name is a declaration of that name. -/
theorem mem_of_find? {a : String} {d : InterfaceDecl}
    (hfind : usable.find? (·.key == a) = some d) :
  d ∈ decls ∧ d.key = a
  := by
  use husable d (List.mem_of_find?_eq_some hfind)
  simpa using List.find?_some hfind

include hkeys husable hbelow

/-- What the search finds is the method set of a resolvable interface, if this is so below the
interface. -/
theorem methodsFrom_sound {a : String} {ms : List Method} (htable : IsTable decls table)
    (h : methodsFrom declared usable table a = .ok (ms, table')) :
  IsTable decls table' ∧ table.Extends table' ∧ table'.methodsOf? a = some ms
  := by
  rw [methodsFrom] at h
  split at h
  · next hms =>
      obtain ⟨rfl, rfl⟩ := Prod.mk.inj (Except.ok.inj h)
      exact ⟨htable, MethodTable.Extends.refl _, hms⟩
  · split at h
    · split at h <;> contradiction
    · next d hfind =>
        obtain ⟨hd, rfl⟩ := mem_of_find? husable hfind
        obtain ⟨⟨inherited, table₁⟩, hinherit, h⟩ := Outcome.bind_eq_ok.mp h
        obtain ⟨set, hown, h⟩ := Outcome.bind_eq_ok.mp h
        obtain ⟨rfl, rfl⟩ := Prod.mk.inj (Except.ok.inj h)
        obtain ⟨hembeds, hset, htable₁, hextends⟩ :=
          (hbelow _ _ hfind).foldlM_inherit_sound IsMethodSet.nil htable hinherit
        obtain ⟨hvalid, hadd⟩ := foldlM_addOwnMethod_eq_ok.mp hown
        have hmethods : IsMethodSet set (Offers decls d.key) := by
          apply ((foldlM_addMethod_eq_ok hset).mp hadd).congr
          intro m
          rw [offers_iff hkeys hd, false_or]
        have hresolvable := Resolvable.of_embeds hkeys hd hembeds hvalid hmethods.agree
        and_intros
        · apply htable₁.insert hresolvable hmethods
        · apply hextends.trans (htable₁.extends_insert hmethods)
        · rw [MethodTable.methodsOf?_insert, if_pos rfl]

/-- The search finds a method set for every resolvable interface below which all declarations are
usable, if this is so below the interface. -/
theorem exists_methodsFrom {a : String} (htable : IsTable decls table)
    (ha : Resolvable decls a) (hrange : UsableBelow decls usable a) :
  ∃ r, methodsFrom declared usable table a = .ok r
  := by
  rw [methodsFrom]
  split
  · next ms hms => exact ⟨(ms, table), rfl⟩
  · split
    · next hfind =>
        obtain ⟨d, hd, rfl⟩ := ha.declared a Relation.ReflTransGen.refl
        have hd := List.find?_eq_none.mp hfind d (hrange d hd Relation.ReflTransGen.refl)
        simp at hd
    · next d hfind =>
        obtain ⟨hd, rfl⟩ := mem_of_find? husable hfind
        have hagree := ha.agree.mono fun m hm => (offers_iff hkeys hd).mpr hm
        obtain ⟨⟨inherited, table₁⟩, hinherit⟩ :=
          (hbelow _ _ hfind).exists_foldlM_inherit d.key IsMethodSet.nil htable
            (hrange.exists_embedded ha hd) (hagree.mono fun m hm => Or.inl (hm.resolve_left id))
        obtain ⟨-, hset, -, -⟩ :=
          (hbelow _ _ hfind).foldlM_inherit_sound IsMethodSet.nil htable hinherit
        obtain ⟨set, hadd⟩ := exists_foldlM_addMethod d.key d.methods hset <| by
          apply hagree.mono
          intro m hm
          rwa [false_or] at hm
        have hvalid : ∀ m ∈ d.methods, m.IsValid := by
          intro m hm
          apply ha.valid m
          apply (offers_iff hkeys hd).mpr (Or.inr hm)
        use (set, table₁.insert d.key set)
        apply Outcome.bind_eq_ok.mpr
        use (inherited, table₁), hinherit
        apply Outcome.bind_eq_ok.mpr
        exact ⟨set, foldlM_addOwnMethod_eq_ok.mpr ⟨hvalid, hadd⟩, rfl⟩

end

/-- The search finds the method sets of the resolvable interfaces below which all declarations are
usable. The induction is on their number: below an embedded interface there is one usable
declaration fewer. -/
theorem finds_methodsFrom (hkeys : (decls.map InterfaceDecl.key).Nodup) (declared : List String)
    {usable : List InterfaceDecl} (husable : ∀ d ∈ usable, d ∈ decls) :
  Finds decls (methodsFrom declared usable) (UsableBelow decls usable)
  := by
  induction hn : usable.length using Nat.strongRecOn generalizing usable with
  | _ n ih =>
      have hbelow : ∀ a d, usable.find? (·.key == a) = some d →
          Finds decls (methodsFrom declared (InterfaceDecl.others usable a))
            (UsableBelow decls (InterfaceDecl.others usable a)) := by
        intro a d hfind
        apply ih _ (hn ▸ InterfaceDecl.length_others_lt hfind) _ rfl
        intro d' hd'
        apply husable d' (List.mem_of_mem_filter hd')
      constructor
      · intro table a ms table'
        apply methodsFrom_sound hkeys declared husable hbelow
      · intro table a
        apply exists_methodsFrom hkeys declared husable hbelow

end ClientWrap
