import ClientWrap.Proofs.Schema.Search

/-!
# What a description stands for

`SchemaSource.Acceptable` is the condition under which a description has a schema, and
`SchemaSource.Describes` says what the schema is, without reference to the search for methods. The
two characterise `resolve` (`resolve_eq_ok`).
-/

namespace ClientWrap

open ClientWrap.Text

namespace SchemaSource

/-- All names of the description can be qualified, no interface is declared twice or both declared
and external, the root is declared, and every declared interface is resolvable. -/
structure Acceptable (s : SchemaSource) : Prop where
  named : ∀ d ∈ s.interfaces, d.name.key? = some d.key
  distinct : (s.interfaces.map InterfaceDecl.key).Nodup
  external : ∀ t ∈ s.externals, ∃ a, t.key? = some a ∧ ¬ Declares s.interfaces a
  root : ∃ a, s.root.key? = some a ∧ Declares s.interfaces a
  resolvable : ∀ d ∈ s.interfaces, Resolvable s.interfaces d.key

/-- The schema has the root of the description, the method set of every declared interface and the
set of the external interfaces. -/
structure Describes (s : SchemaSource) (schema : Schema) : Prop where
  root : schema.root = s.root
  ascending : AscendingBy Prod.fst schema.interfaces
  sound : ∀ a ms, schema.methodsOf? a = some ms →
    Declares s.interfaces a ∧ IsMethodSet ms (Offers s.interfaces a)
  complete : ∀ a, Declares s.interfaces a → ∃ ms, schema.methodsOf? a = some ms
  externals_ascending : AscendingBy id schema.externals
  mem_externals : ∀ a, a ∈ schema.externals ↔ ∃ t ∈ s.externals, t.key? = some a

/-- A schema has the method sets of declared interfaces and no others. -/
theorem Describes.methodsOf?_iff {s : SchemaSource} {schema : Schema} (h : s.Describes schema)
    (a : String) (ms : List Method) :
  schema.methodsOf? a = some ms
    ↔ Declares s.interfaces a ∧ IsMethodSet ms (Offers s.interfaces a)
  := by
  constructor
  · apply h.sound
  · rintro ⟨ha, hms⟩
    obtain ⟨ms', hms'⟩ := h.complete a ha
    rw [hms', (h.sound a ms' hms').2.eq hms]

/-- A description describes one schema at most. -/
theorem Describes.eq {s : SchemaSource} {schema schema' : Schema} (h : s.Describes schema)
    (h' : s.Describes schema') :
  schema = schema'
  := by
  obtain ⟨root, interfaces, externals⟩ := schema
  obtain ⟨root', interfaces', externals'⟩ := schema'
  obtain rfl : root = root' := h.root.trans h'.root.symm
  obtain rfl : interfaces = interfaces' := by
    apply AscendingBy.ext h.ascending h'.ascending
    rintro ⟨a, ms⟩
    rw [MethodTable.mem_iff_methodsOf? h.ascending, MethodTable.mem_iff_methodsOf? h'.ascending]
    apply (h.methodsOf?_iff a ms).trans (h'.methodsOf?_iff a ms).symm
  obtain rfl : externals = externals' := by
    apply AscendingBy.ext h.externals_ascending h'.externals_ascending
    intro a
    rw [h.mem_externals, h'.mem_externals]
  rfl

/-! ### Names -/

/-- The declared names are found if every interface has a qualified name that no other has. -/
theorem declaredNames_eq_ok {decls : List InterfaceDecl} {seen names : List String}
    (hseen : seen.Nodup) :
  declaredNames seen decls = .ok names
    ↔ (∀ d ∈ decls, d.name.key? = some d.key)
      ∧ (seen ++ decls.map InterfaceDecl.key).Nodup
      ∧ names = seen ++ decls.map InterfaceDecl.key
  := by
  induction decls generalizing seen with
  | nil => simp [declaredNames, hseen, eq_comm]
  | cons d decls ih =>
      have happend : seen ++ (d :: decls).map InterfaceDecl.key
          = (seen ++ [d.key]) ++ decls.map InterfaceDecl.key := by simp
      rw [declaredNames, Outcome.bind_eq_ok, happend, List.forall_mem_cons]
      constructor
      · rintro ⟨a, ha, h⟩
        have hkey := qualified_eq_ok.mp ha
        obtain rfl : a = d.key := (GoType.spelling_of_key? hkey).symm
        split at h
        · contradiction
        · next hnew =>
            have hseen' : (seen ++ [d.key]).Nodup := by
              rw [← List.concat_eq_append]
              apply hseen.concat
              simpa using hnew
            obtain ⟨hdecls, hnodup, hnames⟩ := (ih hseen').mp h
            exact ⟨⟨hkey, hdecls⟩, hnodup, hnames⟩
      · rintro ⟨⟨hkey, hdecls⟩, hnodup, hnames⟩
        have hseen' : (seen ++ [d.key]).Nodup := hnodup.of_append_left
        have hnew : d.key ∉ seen := by
          intro hmem
          apply List.disjoint_of_nodup_append hseen' hmem (List.mem_singleton_self _)
        use d.key, qualified_eq_ok.mpr hkey
        rw [if_neg (by simpa using hnew)]
        apply (ih hseen').mpr ⟨hdecls, hnodup, hnames⟩

/-- An external interface is accepted exactly if it has a qualified name that is not declared. -/
theorem externalName_eq_ok {declared : List String} {t : GoType} {a : String} :
  externalName declared t = .ok a ↔ t.key? = some a ∧ a ∉ declared
  := by
  rw [externalName, Outcome.bind_eq_ok]
  constructor
  · rintro ⟨b, hb, h⟩
    split at h
    · contradiction
    · next hnew =>
        obtain rfl := Except.ok.inj h
        use qualified_eq_ok.mp hb
        simpa using hnew
  · rintro ⟨ha, hnew⟩
    use a, qualified_eq_ok.mpr ha
    rw [if_neg (by simpa using hnew)]
    rfl

/-- The names of external interfaces are the qualified names of their types. -/
theorem mem_externals_iff {decls : List InterfaceDecl} {ts : List GoType} {names : List String}
    (h : List.Forall₂ (fun t a => t.key? = some a ∧ ¬ Declares decls a) ts names) {a : String} :
  a ∈ names ↔ ∃ t ∈ ts, t.key? = some a
  := by
  constructor
  · intro ha
    obtain ⟨t, ht, hta⟩ := Outcome.exists_of_mem_right h ha
    exact ⟨t, ht, hta.1⟩
  · rintro ⟨t, ht, hta⟩
    obtain ⟨b, hb, htb⟩ := Outcome.exists_of_mem_left h ht
    obtain rfl : a = b := Option.some.inj (hta.symm.trans htb.1)
    apply hb

/-! ### The table of all interfaces -/

section

variable {decls : List InterfaceDecl} (hkeys : (decls.map InterfaceDecl.key).Nodup)
  (declared : List String) {names : List String} {table table' : MethodTable}

include hkeys

/-- Interfaces that are put into a table are resolvable and have their method sets there. -/
theorem isTable_of_foldlM_tabulate (htable : IsTable decls table)
    (h : names.foldlM (tabulate decls declared) table = .ok table') :
  IsTable decls table' ∧ table.Extends table'
    ∧ ∀ a ∈ names, ∃ ms, table'.methodsOf? a = some ms
  := by
  induction names generalizing table with
  | nil =>
      obtain rfl := Except.ok.inj h
      use htable, MethodTable.Extends.refl _
      apply List.forall_mem_nil
  | cons a names ih =>
      rw [List.foldlM_cons] at h
      obtain ⟨table₁, ha, h⟩ := Outcome.bind_eq_ok.mp h
      obtain ⟨⟨ms, _⟩, hfound, rfl⟩ := Outcome.map_eq_ok.mp ha
      have hfinds := finds_methodsFrom hkeys declared fun d (hd : d ∈ decls) => hd
      obtain ⟨htable₁, hextends, hms⟩ := hfinds.sound _ _ _ _ htable hfound
      obtain ⟨htable', hextends', hnames⟩ := ih htable₁ h
      use htable', hextends.trans hextends'
      intro b hb
      rcases List.mem_cons.mp hb with rfl | hb
      · exact ⟨ms, hextends' b ms hms⟩
      · apply hnames b hb

/-- Resolvable interfaces can be put into a table. -/
theorem exists_foldlM_tabulate (names : List String) (htable : IsTable decls table)
    (hnames : ∀ a ∈ names, Resolvable decls a) :
  ∃ table', names.foldlM (tabulate decls declared) table = .ok table'
  := by
  induction names generalizing table with
  | nil => exact ⟨table, rfl⟩
  | cons a names ih =>
      obtain ⟨ha, hnames⟩ := List.forall_mem_cons.mp hnames
      have hfinds := finds_methodsFrom hkeys declared fun d (hd : d ∈ decls) => hd
      obtain ⟨⟨ms, table₁⟩, hfound⟩ := hfinds.complete table a htable ha fun d hd _ => hd
      obtain ⟨htable₁, -, -⟩ := hfinds.sound _ _ _ _ htable hfound
      obtain ⟨table', htable'⟩ := ih htable₁ hnames
      use table'
      rw [List.foldlM_cons]
      apply Outcome.bind_eq_ok.mpr
      exact ⟨table₁, Outcome.map_eq_ok.mpr ⟨_, hfound, rfl⟩, htable'⟩

end

/-! ### The schema -/

variable {s : SchemaSource} {schema : Schema}

/-- The keys of the declarations are the declared names. -/
theorem mem_keys {decls : List InterfaceDecl} {a : String} :
  a ∈ decls.map InterfaceDecl.key ↔ Declares decls a
  := List.mem_map

/-- The checks of a description, and what its schema is put together from. -/
theorem resolve_eq_ok_iff :
  s.resolve = .ok schema
    ↔ (∀ d ∈ s.interfaces, d.name.key? = some d.key)
      ∧ (s.interfaces.map InterfaceDecl.key).Nodup
      ∧ ∃ externals root table,
        List.Forall₂ (fun t a => t.key? = some a ∧ ¬ Declares s.interfaces a)
          s.externals externals
        ∧ s.root.key? = some root ∧ Declares s.interfaces root
        ∧ (ascending (s.interfaces.map InterfaceDecl.key)).foldlM
          (tabulate s.interfaces (s.interfaces.map InterfaceDecl.key)) [] = .ok table
        ∧ schema = ⟨s.root, table, ascending externals⟩
  := by
  simp only [← mem_keys, ← externalName_eq_ok]
  constructor
  · intro h
    obtain ⟨declared, hdeclared, h⟩ := Outcome.bind_eq_ok.mp h
    obtain ⟨externals, hexternals, h⟩ := Outcome.bind_eq_ok.mp h
    obtain ⟨root, hroot, h⟩ := Outcome.bind_eq_ok.mp h
    obtain ⟨hnamed, hkeys, rfl⟩ := (declaredNames_eq_ok List.nodup_nil).mp hdeclared
    rw [List.nil_append] at hkeys hexternals h
    split at h
    · contradiction
    · next hmem =>
        obtain ⟨table, htable, h⟩ := Outcome.bind_eq_ok.mp h
        obtain rfl := Except.ok.inj h
        use hnamed, hkeys, externals, root, table, Outcome.mapM_eq_ok.mp hexternals,
          qualified_eq_ok.mp hroot
        refine ⟨?_, htable, rfl⟩
        simpa using hmem
  · rintro ⟨hnamed, hkeys, externals, root, table, hexternals, hroot, hmem, htable, rfl⟩
    apply Outcome.bind_eq_ok.mpr
    use s.interfaces.map InterfaceDecl.key,
      (declaredNames_eq_ok List.nodup_nil).mpr ⟨hnamed, hkeys, rfl⟩
    apply Outcome.bind_eq_ok.mpr
    use externals, Outcome.mapM_eq_ok.mpr hexternals
    apply Outcome.bind_eq_ok.mpr
    use root, qualified_eq_ok.mpr hroot
    rw [if_neg (by simpa using hmem)]
    apply Outcome.bind_eq_ok.mpr
    exact ⟨table, htable, rfl⟩

/-- A description that stands for a schema is acceptable and describes the schema. -/
theorem describes_of_resolve (h : s.resolve = .ok schema) :
  s.Acceptable ∧ s.Describes schema
  := by
  obtain ⟨hnamed, hkeys, externals, root, table, hexternals, hroot, hmem, htable, rfl⟩ :=
    resolve_eq_ok_iff.mp h
  obtain ⟨htable, -, hall⟩ := isTable_of_foldlM_tabulate hkeys _ IsTable.nil htable
  have hentry : ∀ a, Declares s.interfaces a → ∃ ms, table.methodsOf? a = some ms := by
    intro a ha
    apply hall a
    rwa [mem_ascending, mem_keys]
  constructor
  · constructor
    · apply hnamed
    · apply hkeys
    · intro t ht
      obtain ⟨a, -, ha⟩ := Outcome.exists_of_mem_left hexternals ht
      exact ⟨a, ha⟩
    · exact ⟨root, hroot, hmem⟩
    · intro d hd
      obtain ⟨ms, hms⟩ := hentry d.key ⟨d, hd, rfl⟩
      apply (htable.sound _ _ hms).1
  · constructor
    · rfl
    · apply htable.ascending
    · intro a ms hms
      obtain ⟨ha, hms⟩ := htable.sound a ms hms
      exact ⟨ha.declared a Relation.ReflTransGen.refl, hms⟩
    · apply hentry
    · apply ascendingBy_ascending
    · intro a
      rw [mem_ascending, mem_externals_iff hexternals]

/-- An acceptable description stands for a schema. -/
theorem Acceptable.exists_resolve (h : s.Acceptable) :
  ∃ schema, s.resolve = .ok schema
  := by
  obtain ⟨externals, hexternals⟩ : ∃ externals,
      externalNames (s.interfaces.map InterfaceDecl.key) s.externals = .ok externals := by
    apply Outcome.exists_mapM
    intro t ht
    obtain ⟨a, ha⟩ := h.external t ht
    use a
    rwa [externalName_eq_ok, mem_keys]
  have hexternals := Outcome.mapM_eq_ok.mp hexternals
  simp only [externalName_eq_ok, mem_keys] at hexternals
  obtain ⟨root, hroot, hmem⟩ := h.root
  obtain ⟨table, htable⟩ := exists_foldlM_tabulate h.distinct
    (s.interfaces.map InterfaceDecl.key) (ascending (s.interfaces.map InterfaceDecl.key))
    IsTable.nil <| by
      intro a ha
      rw [mem_ascending, mem_keys] at ha
      obtain ⟨d, hd, rfl⟩ := ha
      apply h.resolvable d hd
  use ⟨s.root, table, ascending externals⟩
  apply resolve_eq_ok_iff.mpr
  exact ⟨h.named, h.distinct, externals, root, table, hexternals, hroot, hmem, htable, rfl⟩

/-- A description stands for a schema exactly if it is acceptable and describes the schema. -/
theorem resolve_eq_ok :
  s.resolve = .ok schema ↔ s.Acceptable ∧ s.Describes schema
  := by
  constructor
  · apply describes_of_resolve
  · rintro ⟨hacceptable, hdescribes⟩
    obtain ⟨schema', hschema'⟩ := hacceptable.exists_resolve
    rw [hschema', (describes_of_resolve hschema').2.eq hdescribes]

end SchemaSource

end ClientWrap
