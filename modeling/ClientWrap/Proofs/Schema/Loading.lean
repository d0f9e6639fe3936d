import ClientWrap.Project.Basic
import ClientWrap.Proofs.Document.Records
import ClientWrap.Proofs.Schema.Acceptance
import ClientWrap.Schema.Read

/-!
# Descriptions that are read

The types of a description that is read from a document are parsed (`SchemaSource.parsed_of_read`).
What holds of the clientsets of descriptions with parsed types therefore holds of every clientset
that a project loads (`Project.exists_parsed_of_loadClientset`).
-/

namespace ClientWrap

open Outcome

variable {format : Format} {d : Document}

/-- A type that is read is a parsed one. -/
theorem GoType.parsed_of_read {t : GoType} (h : GoType.read d = .ok t) :
  t.Parsed
  := by
  obtain ⟨expr, -, h⟩ := bind_eq_ok.mp h
  exact ⟨expr, mapError_eq_ok.mp h⟩

/-- Types that are read are parsed ones. -/
theorem GoType.parsed_of_readList {ts : List GoType} (h : d.readList GoType.read = .ok ts) :
  ∀ t ∈ ts, t.Parsed
  := by
  intro t ht
  obtain ⟨item, hitem⟩ := Document.exists_of_mem_readList h ht
  apply parsed_of_read hitem

/-! ### Methods -/

/-- Every field of a method keeps the types parsed that are read so far. -/
theorem Method.keeps_reader :
  Method.reader.Keeps fun _ m => m.Parsed
  := by
  intro f hf seen m d m' hm hread
  simp only [reader, List.mem_cons, List.not_mem_nil, or_false] at hf
  rcases hf with rfl | rfl | rfl
  · obtain ⟨name, -, hread⟩ := bind_eq_ok.mp hread
    obtain rfl := Except.ok.inj hread
    exact ⟨hm.params, hm.results⟩
  · obtain ⟨params, hparams, hread⟩ := bind_eq_ok.mp hread
    obtain rfl := Except.ok.inj hread
    exact ⟨GoType.parsed_of_readList hparams, hm.results⟩
  · obtain ⟨results, hresults, hread⟩ := bind_eq_ok.mp hread
    obtain rfl := Except.ok.inj hread
    exact ⟨hm.params, GoType.parsed_of_readList hresults⟩

/-- A method that is read has parsed types. -/
theorem Method.parsed_of_read {m : Method} (h : Method.read format d = .ok m) :
  m.Parsed
  := by
  have hstart : Method.Parsed ⟨"", [], []⟩ := ⟨List.forall_mem_nil _, List.forall_mem_nil _⟩
  obtain ⟨seen, hm, -⟩ := keeps_reader.read h hstart
  apply hm

/-! ### Interfaces -/

/-- The types of a declaration of which some fields have been read are parsed. -/
structure InterfaceDecl.ReadSoFar (seen : List String) (i : InterfaceDecl) : Prop where
  name : "name" ∈ seen → i.name.Parsed
  embeds : ∀ e ∈ i.embeds, e.Parsed
  methods : ∀ m ∈ i.methods, m.Parsed

/-- Every field of a declaration keeps the types parsed that are read so far. -/
theorem InterfaceDecl.keeps_reader :
  (InterfaceDecl.reader format).Keeps ReadSoFar
  := by
  intro f hf seen i d i' hi hread
  simp only [reader, List.mem_cons, List.not_mem_nil, or_false] at hf
  rcases hf with rfl | rfl | rfl
  · obtain ⟨name, hname, hread⟩ := bind_eq_ok.mp hread
    obtain rfl := Except.ok.inj hread
    exact ⟨fun _ => GoType.parsed_of_read hname, hi.embeds, hi.methods⟩
  · obtain ⟨embeds, hembeds, hread⟩ := bind_eq_ok.mp hread
    obtain rfl := Except.ok.inj hread
    exact ⟨fun h => hi.name (by simpa using h), GoType.parsed_of_readList hembeds, hi.methods⟩
  · obtain ⟨methods, hmethods, hread⟩ := bind_eq_ok.mp hread
    obtain rfl := Except.ok.inj hread
    refine ⟨fun h => hi.name (by simpa using h), hi.embeds, fun m hm => ?_⟩
    obtain ⟨item, hitem⟩ := Document.exists_of_mem_readList hmethods hm
    apply Method.parsed_of_read hitem

/-- A declaration that is read has parsed types. -/
theorem InterfaceDecl.parsed_of_read {i : InterfaceDecl} (h : InterfaceDecl.read format d = .ok i) :
  i.Parsed
  := by
  have hstart : ReadSoFar [] ⟨.builtin "", [], []⟩ :=
    ⟨fun h => absurd h List.not_mem_nil, List.forall_mem_nil _, List.forall_mem_nil _⟩
  obtain ⟨seen, hi, hseen⟩ := keeps_reader.read h hstart
  exact ⟨hi.name (hseen _ List.mem_cons_self rfl), hi.embeds, hi.methods⟩

/-! ### Descriptions -/

namespace SchemaSource

/-- The types of a description of which some fields have been read are parsed. -/
structure ReadSoFar (seen : List String) (s : SchemaSource) : Prop where
  root : "root" ∈ seen → s.root.Parsed
  interfaces : ∀ i ∈ s.interfaces, i.Parsed
  externals : ∀ t ∈ s.externals, t.Parsed

/-- Every field of a description keeps the types parsed that are read so far. -/
theorem keeps_reader :
  (reader format).Keeps ReadSoFar
  := by
  intro f hf seen s d s' hs hread
  simp only [reader, List.mem_cons, List.not_mem_nil, or_false] at hf
  rcases hf with rfl | rfl | rfl
  · obtain ⟨root, hroot, hread⟩ := bind_eq_ok.mp hread
    obtain rfl := Except.ok.inj hread
    exact ⟨fun _ => GoType.parsed_of_read hroot, hs.interfaces, hs.externals⟩
  · obtain ⟨interfaces, hinterfaces, hread⟩ := bind_eq_ok.mp hread
    obtain rfl := Except.ok.inj hread
    refine ⟨fun h => hs.root (by simpa using h), fun i hi => ?_, hs.externals⟩
    obtain ⟨item, hitem⟩ := Document.exists_of_mem_readList hinterfaces hi
    apply InterfaceDecl.parsed_of_read hitem
  · obtain ⟨externals, hexternals, hread⟩ := bind_eq_ok.mp hread
    obtain rfl := Except.ok.inj hread
    exact ⟨fun h => hs.root (by simpa using h), hs.interfaces,
      GoType.parsed_of_readList hexternals⟩

/-- The types of a description that is read are parsed. -/
theorem parsed_of_read {s : SchemaSource} (h : SchemaSource.read format d = .ok s) :
  s.Parsed
  := by
  have hstart : ReadSoFar [] ⟨.builtin "", [], []⟩ :=
    ⟨fun h => absurd h List.not_mem_nil, List.forall_mem_nil _, List.forall_mem_nil _⟩
  obtain ⟨seen, hs, hseen⟩ := keeps_reader.read h hstart
  exact ⟨hs.root (hseen _ List.mem_cons_self rfl), hs.interfaces, hs.externals⟩

end SchemaSource

/-! ### Schemas -/

/-- The readers give descriptions with parsed types only. -/
structure SchemaReaders.Parsing (readers : SchemaReaders) : Prop where
  json : ∀ text source, readers.json text = .ok source → source.Parsed
  yaml : ∀ text source, readers.yaml text = .ok source → source.Parsed

/-- The readers of documents give descriptions with parsed types. -/
theorem SchemaReaders.parsing_standard :
  SchemaReaders.standard.Parsing
  := by
  constructor
  · intro text source h
    change Json.readWith (SchemaSource.read .json) text = .ok source at h
    rw [Json.readWith] at h
    dsimp only at h
    split at h
    · contradiction
    · next hread =>
        split at h
        · obtain rfl := Except.ok.inj h
          apply SchemaSource.parsed_of_read hread
        · contradiction
  · intro text source h
    rw [standard] at h
    dsimp only at h
    split at h
    · contradiction
    · apply SchemaSource.parsed_of_read h

variable {readers : SchemaReaders}

/-- A schema that is loaded by such readers comes from a description with parsed types. -/
theorem Schema.exists_parsed_of_load (hreaders : readers.Parsing) {files : FileTree} {path : Path}
    {s : Schema} (h : (load readers files path).outcome = .ok s) :
  ∃ source : SchemaSource, source.Parsed ∧ source.resolve = .ok s
  := by
  rw [load, Report.outcome_bind] at h
  obtain ⟨text, -, h⟩ := bind_eq_ok.mp h
  rw [Report.outcome_bind] at h
  obtain ⟨s', hs', h⟩ := bind_eq_ok.mp h
  obtain rfl := Except.ok.inj h
  rw [Report.outcome_ofExcept] at hs'
  split at hs'
  · obtain ⟨source, hsource, hresolve⟩ := bind_eq_ok.mp hs'
    exact ⟨source, hreaders.json _ _ (mapError_eq_ok.mp hsource), hresolve⟩
  · obtain ⟨source, hsource, hresolve⟩ := bind_eq_ok.mp hs'
    exact ⟨source, hreaders.yaml _ _ (mapError_eq_ok.mp hsource), hresolve⟩

/-- The clientset of a target is that of a description with parsed types. -/
theorem Project.exists_parsed_of_loadClientset (hreaders : readers.Parsing) {p : Project}
    {files : FileTree} {t : TargetSettings} {cs : Clientset}
    (h : (p.loadClientset readers files t).outcome = .ok cs) :
  ∃ (source : SchemaSource) (s : Schema), source.Parsed ∧ source.resolve = .ok s
    ∧ (s.walk p.settings.exclusions).outcome = .ok cs
  := by
  rw [loadClientset, Report.outcome_bind] at h
  obtain ⟨s, hload, h⟩ := bind_eq_ok.mp h
  obtain ⟨source, hparsed, hresolve⟩ := Schema.exists_parsed_of_load hreaders hload
  rw [Report.outcome_bind] at h
  obtain ⟨cs', hwalk, h⟩ := bind_eq_ok.mp h
  obtain rfl := Except.ok.inj h
  exact ⟨source, s, hparsed, hresolve, hwalk⟩

end ClientWrap
