import ClientWrap.Proofs.GoType.Parsed
import ClientWrap.Proofs.Schema.Resolution

/-!
# Which descriptions are accepted

A description whose types are parsed is accepted exactly if it is well-formed
(`resolve_iff_wellFormed`). Being well-formed is a condition on types, while the search goes by the
qualified names of interfaces; for parsed types the graph of embeddings is the same for both
(`reaches_iff`, `transGen_iff`).
-/

namespace ClientWrap

open ClientWrap.Text

/-! ### Descriptions with parsed types -/

/-- The types of the signature are parsed. -/
structure Method.Parsed (m : Method) : Prop where
  params : ∀ t ∈ m.params, t.Parsed
  results : ∀ t ∈ m.results, t.Parsed

/-- All types of the declaration are parsed. -/
structure InterfaceDecl.Parsed (d : InterfaceDecl) : Prop where
  name : d.name.Parsed
  embeds : ∀ e ∈ d.embeds, e.Parsed
  methods : ∀ m ∈ d.methods, m.Parsed

/-- All types of the description are parsed. -/
structure SchemaSource.Parsed (s : SchemaSource) : Prop where
  root : s.root.Parsed
  interfaces : ∀ d ∈ s.interfaces, d.Parsed
  externals : ∀ t ∈ s.externals, t.Parsed

instance : DecidablePred Method.Parsed :=
  fun m => decidable_of_iff ((∀ t ∈ m.params, t.Parsed) ∧ ∀ t ∈ m.results, t.Parsed)
    ⟨fun h => ⟨h.1, h.2⟩, fun h => ⟨h.params, h.results⟩⟩

instance : DecidablePred InterfaceDecl.Parsed :=
  fun d => decidable_of_iff
    (d.name.Parsed ∧ (∀ e ∈ d.embeds, e.Parsed) ∧ ∀ m ∈ d.methods, m.Parsed)
    ⟨fun h => ⟨h.1, h.2.1, h.2.2⟩, fun h => ⟨h.name, h.embeds, h.methods⟩⟩

instance : DecidablePred SchemaSource.Parsed :=
  fun s => decidable_of_iff
    (s.root.Parsed ∧ (∀ d ∈ s.interfaces, d.Parsed) ∧ ∀ t ∈ s.externals, t.Parsed)
    ⟨fun h => ⟨h.1, h.2.1, h.2.2⟩, fun h => ⟨h.root, h.interfaces, h.externals⟩⟩

/-- The type is the name of an interface with the package that declares it. -/
def GoType.IsQualified (t : GoType) : Prop :=
  ∃ package name, t = .named package name

/-- A type is a qualified name exactly if its spelling is its key. -/
theorem GoType.isQualified_iff {t : GoType} :
  t.IsQualified ↔ t.key? = some t.spelling
  := by
  cases t <;> simp [IsQualified, key?, spelling]

namespace SchemaSource

variable (s : SchemaSource)

/-- An interface of the type is declared. -/
def IsDeclared (t : GoType) : Prop :=
  ∃ d ∈ s.interfaces, d.name = t

/-- The first interface embeds the second. -/
def IsEmbedding (t u : GoType) : Prop :=
  ∃ d ∈ s.interfaces, d.name = t ∧ u ∈ d.embeds

/-- The method is declared in the interface or in one that is reachable from it through
embeddings. -/
def HasMethod (t : GoType) (m : Method) : Prop :=
  ∃ d ∈ s.interfaces, Relation.ReflTransGen s.IsEmbedding t d.name ∧ m ∈ d.methods

/-- The conditions on a description, in terms of its types. -/
structure WellFormed : Prop where
  names_qualified : ∀ d ∈ s.interfaces, d.name.IsQualified
  names_distinct : (s.interfaces.map InterfaceDecl.name).Nodup
  externals : ∀ t ∈ s.externals, t.IsQualified ∧ ¬ s.IsDeclared t
  root : s.root.IsQualified ∧ s.IsDeclared s.root
  embeds : ∀ d ∈ s.interfaces, ∀ e ∈ d.embeds, e.IsQualified ∧ s.IsDeclared e
  acyclic : ∀ t, ¬ Relation.TransGen s.IsEmbedding t t
  valid : ∀ d ∈ s.interfaces, ∀ m ∈ d.methods, m.IsValid
  agree : ∀ d ∈ s.interfaces, ∀ m n, s.HasMethod d.name m → s.HasMethod d.name n →
    m.name = n.name → m.params = n.params ∧ m.results = n.results

variable {s}

/-! ### Types and their qualified names -/

/-- An embedding of types is one of their qualified names. -/
theorem isEmbedding_embeds (hembeds : ∀ d ∈ s.interfaces, ∀ e ∈ d.embeds, e.IsQualified)
    {t u : GoType} (h : s.IsEmbedding t u) :
  Embeds s.interfaces t.spelling u.spelling
  := by
  obtain ⟨d, hd, rfl, hu⟩ := h
  exact ⟨d, hd, rfl, u, hu, GoType.isQualified_iff.mp (hembeds d hd u hu)⟩

section

variable (hparsed : s.Parsed) (hnames : ∀ d ∈ s.interfaces, d.name.IsQualified)

include hparsed hnames

/-- The declaration whose qualified name is that of a parsed type has that type. -/
theorem name_eq_of_key {d : InterfaceDecl} (hd : d ∈ s.interfaces) {t : GoType} (ht : t.Parsed)
    (hkey : t.key? = some d.key) :
  d.name = t
  := by
  have hname := GoType.isQualified_iff.mp (hnames d hd)
  apply (hparsed.interfaces d hd).name.eq_of_key? ht hname hkey

/-- A name is declared exactly if the type with this name is. -/
theorem declares_iff_isDeclared {t : GoType} (ht : t.Parsed) {a : String}
    (hkey : t.key? = some a) :
  Declares s.interfaces a ↔ s.IsDeclared t
  := by
  constructor
  · rintro ⟨d, hd, rfl⟩
    exact ⟨d, hd, name_eq_of_key hparsed hnames hd ht hkey⟩
  · rintro ⟨d, hd, rfl⟩
    exact ⟨d, hd, GoType.spelling_of_key? hkey⟩

/-- An embedding between qualified names is one between the types. -/
theorem exists_isEmbedding {t : GoType} (ht : t.Parsed) {a b : String} (hkey : t.key? = some a)
    (h : Embeds s.interfaces a b) :
  ∃ u, s.IsEmbedding t u ∧ u.Parsed ∧ u.key? = some b
  := by
  obtain ⟨d, hd, rfl, u, hu, hb⟩ := h
  use u, ⟨d, hd, name_eq_of_key hparsed hnames hd ht hkey, hu⟩
  exact ⟨(hparsed.interfaces d hd).embeds u hu, hb⟩

/-- What is reachable by qualified names is reachable by types. -/
theorem exists_reflTransGen {t : GoType} (ht : t.Parsed) {a b : String} (hkey : t.key? = some a)
    (h : Reaches s.interfaces a b) :
  ∃ u, Relation.ReflTransGen s.IsEmbedding t u ∧ u.Parsed ∧ u.key? = some b
  := by
  induction h with
  | refl => exact ⟨t, Relation.ReflTransGen.refl, ht, hkey⟩
  | tail _ hstep ih =>
      obtain ⟨u, hreach, hu, hkeyu⟩ := ih
      obtain ⟨v, hembedding, hv⟩ := exists_isEmbedding hparsed hnames hu hkeyu hstep
      exact ⟨v, hreach.tail hembedding, hv⟩

variable (hembeds : ∀ d ∈ s.interfaces, ∀ e ∈ d.embeds, e.IsQualified)

include hembeds

/-- Reachability is the same for declared types and for their qualified names. -/
theorem reaches_iff {d d' : InterfaceDecl} (hd : d ∈ s.interfaces) (hd' : d' ∈ s.interfaces) :
  Reaches s.interfaces d.key d'.key ↔ Relation.ReflTransGen s.IsEmbedding d.name d'.name
  := by
  constructor
  · intro h
    have hkey := GoType.isQualified_iff.mp (hnames d hd)
    obtain ⟨u, hreach, hu, hkeyu⟩ :=
      exists_reflTransGen hparsed hnames (hparsed.interfaces d hd).name hkey h
    rwa [name_eq_of_key hparsed hnames hd' hu hkeyu]
  · apply Relation.ReflTransGen.lift GoType.spelling
    intro t u
    apply isEmbedding_embeds hembeds

/-- Cycles are the same for declared types and for their qualified names. -/
theorem transGen_iff {d : InterfaceDecl} (hd : d ∈ s.interfaces) :
  Relation.TransGen (Embeds s.interfaces) d.key d.key
    ↔ Relation.TransGen s.IsEmbedding d.name d.name
  := by
  have hkey := GoType.isQualified_iff.mp (hnames d hd)
  have hname := (hparsed.interfaces d hd).name
  constructor
  · intro h
    obtain ⟨b, hstep, hback⟩ := Relation.TransGen.head'_iff.mp h
    obtain ⟨t, hembedding, ht, hkeyt⟩ := exists_isEmbedding hparsed hnames hname hkey hstep
    obtain ⟨u, hreach, hu, hkeyu⟩ := exists_reflTransGen hparsed hnames ht hkeyt hback
    rw [← name_eq_of_key hparsed hnames hd hu hkeyu] at hreach
    apply Relation.TransGen.head' hembedding hreach
  · apply Relation.TransGen.lift GoType.spelling
    intro t u
    apply isEmbedding_embeds hembeds

/-- An interface offers a method exactly if it or one that it leads to declares the method. -/
theorem offers_iff_hasMethod {d : InterfaceDecl} (hd : d ∈ s.interfaces) {m : Method} :
  Offers s.interfaces d.key m ↔ s.HasMethod d.name m
  := by
  constructor
  · rintro ⟨d', hd', hreach, hm⟩
    exact ⟨d', hd', (reaches_iff hparsed hnames hembeds hd hd').mp hreach, hm⟩
  · rintro ⟨d', hd', hreach, hm⟩
    exact ⟨d', hd', (reaches_iff hparsed hnames hembeds hd hd').mpr hreach, hm⟩

end

/-! ### The two conditions -/

/-- What is reachable from a declared interface is declared if all embedded interfaces are. -/
theorem declares_of_reaches {decls : List InterfaceDecl}
    (hembeds : ∀ d ∈ decls, ∀ e ∈ d.embeds, ∀ b, e.key? = some b → Declares decls b)
    {a b : String} (ha : Declares decls a) (h : Reaches decls a b) :
  Declares decls b
  := by
  rcases h.cases_tail with rfl | ⟨c, -, d, hd, -, e, he, hb⟩
  · apply ha
  · apply hembeds d hd e he b hb

/-- In a well-formed description only qualified names are embedded. -/
theorem WellFormed.embeds_qualified (h : s.WellFormed) :
  ∀ d ∈ s.interfaces, ∀ e ∈ d.embeds, e.IsQualified
  := fun d hd e he => (h.embeds d hd e he).1

/-- Declared interfaces that differ in their types differ in their qualified names. -/
theorem WellFormed.nodup_keys (hparsed : s.Parsed) (h : s.WellFormed) :
  (s.interfaces.map InterfaceDecl.key).Nodup
  := by
  have hkeys := h.names_distinct.map_on (f := GoType.spelling) <| by
    intro t ht u hu heq
    obtain ⟨d, hd, rfl⟩ := List.mem_map.mp ht
    obtain ⟨d', hd', rfl⟩ := List.mem_map.mp hu
    apply name_eq_of_key hparsed h.names_qualified hd (hparsed.interfaces d' hd').name
    rw [GoType.isQualified_iff.mp (h.names_qualified d' hd')]
    apply congrArg some heq.symm
  rwa [List.map_map] at hkeys

/-- The declared interfaces of a well-formed description are resolvable. -/
theorem WellFormed.resolvable (hparsed : s.Parsed) (h : s.WellFormed) {d : InterfaceDecl}
    (hd : d ∈ s.interfaces) :
  Resolvable s.interfaces d.key
  := by
  have hdeclared : ∀ d ∈ s.interfaces, ∀ e ∈ d.embeds, ∀ b, e.key? = some b →
      Declares s.interfaces b := by
    intro d hd e he b hb
    have hparsed' := (hparsed.interfaces d hd).embeds e he
    rw [declares_iff_isDeclared hparsed h.names_qualified hparsed' hb]
    apply (h.embeds d hd e he).2
  constructor
  · intro b hreach
    apply declares_of_reaches hdeclared ⟨d, hd, rfl⟩ hreach
  · intro d' hd' _ e he
    exact ⟨e.spelling, GoType.isQualified_iff.mp (h.embeds_qualified d' hd' e he)⟩
  · intro b hreach hcycle
    obtain ⟨d', hd', rfl⟩ := declares_of_reaches hdeclared ⟨d, hd, rfl⟩ hreach
    apply h.acyclic d'.name
    apply (transGen_iff hparsed h.names_qualified h.embeds_qualified hd').mp hcycle
  · rintro m ⟨d', hd', -, hm⟩
    apply h.valid d' hd' m hm
  · intro m n hm hn hname
    rw [offers_iff_hasMethod hparsed h.names_qualified h.embeds_qualified hd] at hm hn
    obtain ⟨hparams, hresults⟩ := h.agree d hd m n hm hn hname
    cases m
    cases n
    simp_all

/-- A well-formed description is acceptable. -/
theorem WellFormed.acceptable (hparsed : s.Parsed) (h : s.WellFormed) :
  s.Acceptable
  := by
  have hnames := h.names_qualified
  constructor
  · intro d hd
    apply GoType.isQualified_iff.mp (hnames d hd)
  · apply h.nodup_keys hparsed
  · intro t ht
    obtain ⟨hqualified, hnew⟩ := h.externals t ht
    have hkey := GoType.isQualified_iff.mp hqualified
    use t.spelling, hkey
    rwa [declares_iff_isDeclared hparsed hnames (hparsed.externals t ht) hkey]
  · have hkey := GoType.isQualified_iff.mp h.root.1
    use s.root.spelling, hkey
    rw [declares_iff_isDeclared hparsed hnames hparsed.root hkey]
    apply h.root.2
  · intro d hd
    apply h.resolvable hparsed hd

/-- In an acceptable description all interfaces have qualified names. -/
theorem Acceptable.names_qualified (h : s.Acceptable) :
  ∀ d ∈ s.interfaces, d.name.IsQualified
  := by
  intro d hd
  apply GoType.isQualified_iff.mpr (h.named d hd)

/-- In an acceptable description only qualified names are embedded. -/
theorem Acceptable.embeds_qualified (h : s.Acceptable) :
  ∀ d ∈ s.interfaces, ∀ e ∈ d.embeds, e.IsQualified
  := by
  intro d hd e he
  obtain ⟨b, hb⟩ := (h.resolvable d hd).qualified d hd Relation.ReflTransGen.refl e he
  rw [GoType.isQualified_iff, GoType.spelling_of_key? hb, hb]

/-- An acceptable description is well-formed. -/
theorem Acceptable.wellFormed (hparsed : s.Parsed) (h : s.Acceptable) :
  s.WellFormed
  := by
  have hnames := h.names_qualified
  have hembeds := h.embeds_qualified
  constructor
  · apply hnames
  · apply List.Nodup.of_map GoType.spelling
    rw [List.map_map]
    apply h.distinct
  · intro t ht
    obtain ⟨a, hkey, hnew⟩ := h.external t ht
    rw [declares_iff_isDeclared hparsed hnames (hparsed.externals t ht) hkey] at hnew
    rw [GoType.isQualified_iff, GoType.spelling_of_key? hkey]
    exact ⟨hkey, hnew⟩
  · obtain ⟨a, hkey, hroot⟩ := h.root
    rw [declares_iff_isDeclared hparsed hnames hparsed.root hkey] at hroot
    rw [GoType.isQualified_iff, GoType.spelling_of_key? hkey]
    exact ⟨hkey, hroot⟩
  · intro d hd e he
    have hqualified := hembeds d hd e he
    have hkey := GoType.isQualified_iff.mp hqualified
    use hqualified
    rw [← declares_iff_isDeclared hparsed hnames ((hparsed.interfaces d hd).embeds e he) hkey]
    apply (h.resolvable d hd).declared
    apply Relation.ReflTransGen.single (embeds_of_mem hd he hkey)
  · intro t hcycle
    obtain ⟨u, ⟨d, hd, rfl, -⟩, -⟩ := Relation.TransGen.head'_iff.mp hcycle
    apply (h.resolvable d hd).acyclic d.key Relation.ReflTransGen.refl
    apply (transGen_iff hparsed hnames hembeds hd).mpr hcycle
  · intro d hd m hm
    apply (h.resolvable d hd).valid m
    exact ⟨d, hd, Relation.ReflTransGen.refl, hm⟩
  · intro d hd m n hm hn hname
    rw [← offers_iff_hasMethod hparsed hnames hembeds hd] at hm hn
    obtain rfl := (h.resolvable d hd).agree m n hm hn hname
    exact ⟨rfl, rfl⟩

/-! ### Acceptance -/

/-- A description with parsed types is accepted exactly if it is well-formed. Every declared
interface then has the methods declared in it and in the interfaces reachable through embeddings,
each name once and in ascending order of the bytes of the names. -/
theorem resolve_iff_wellFormed (s : SchemaSource) (hparsed : s.Parsed) :
  ((∃ schema, s.resolve = .ok schema) ↔ s.WellFormed)
    ∧ ∀ schema, s.resolve = .ok schema → ∀ d ∈ s.interfaces,
      ∃ methods, schema.methods? d.name = some methods
        ∧ (∀ m, m ∈ methods ↔ s.HasMethod d.name m)
        ∧ methods.Pairwise fun m n => bytes m.name < bytes n.name
  := by
  constructor
  · constructor
    · rintro ⟨schema, h⟩
      apply (describes_of_resolve h).1.wellFormed hparsed
    · intro h
      apply (h.acceptable hparsed).exists_resolve
  · intro schema h d hd
    obtain ⟨hacceptable, hdescribes⟩ := describes_of_resolve h
    obtain ⟨methods, hmethods⟩ := hdescribes.complete d.key ⟨d, hd, rfl⟩
    have hset := (hdescribes.sound d.key methods hmethods).2
    use methods
    and_intros
    · rw [Schema.methods?, hacceptable.named d hd]
      apply hmethods
    · intro m
      rw [hset.mem_iff]
      apply offers_iff_hasMethod hparsed hacceptable.names_qualified
        hacceptable.embeds_qualified hd
    · apply hset.ascending.pairwise_bytes

/-- Two interfaces that embed a third, embedded together. -/
def diamond : SchemaSource where
  root := .named "example.com/api.v1" "Store"
  interfaces :=
    [⟨.named "example.com/api.v1" "Store",
        [.named "example.com/api.v1" "Writer", .named "example.com/api.v1" "Reader"], []⟩,
      ⟨.named "example.com/api.v1" "Reader", [.named "example.com/api.v1" "Closer"],
        [⟨"Get", [.builtin "string"], [.builtin "error"]⟩]⟩,
      ⟨.named "example.com/api.v1" "Writer", [.named "example.com/api.v1" "Closer"],
        [⟨"Put", [.variadic (.builtin "byte")], []⟩]⟩,
      ⟨.named "example.com/api.v1" "Closer", [], [⟨"Close", [], [.builtin "error"]⟩]⟩]
  externals := []

/-- The schema of the diamond. -/
def diamondSchema : Schema where
  root := .named "example.com/api.v1" "Store"
  interfaces :=
    let close : Method := ⟨"Close", [], [.builtin "error"]⟩
    let get : Method := ⟨"Get", [.builtin "string"], [.builtin "error"]⟩
    let put : Method := ⟨"Put", [.variadic (.builtin "byte")], []⟩
    [("example.com/api.v1.Closer", [close]), ("example.com/api.v1.Reader", [close, get]),
      ("example.com/api.v1.Store", [close, get, put]),
      ("example.com/api.v1.Writer", [close, put])]
  externals := []

/-- The description of a diamond of embeddings is well formed. -/
theorem diamond_wellFormed :
  diamond.Parsed ∧ diamond.resolve = .ok diamondSchema ∧ diamond.WellFormed
  := by
  have hparsed : diamond.Parsed := by decide +kernel
  have hresolve : diamond.resolve = .ok diamondSchema := by decide +kernel
  use hparsed, hresolve
  apply (resolve_iff_wellFormed diamond hparsed).1.mp ⟨diamondSchema, hresolve⟩

end SchemaSource

end ClientWrap
