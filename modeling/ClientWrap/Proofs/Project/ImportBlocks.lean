import ClientWrap.Proofs.Code.ImportBlock
import ClientWrap.Proofs.Project.Identifiers
import ClientWrap.Proofs.Wrapper.Imports

/-!
# Import blocks of emitted files

The import block of an emitted file is read back as the imports of the file, and no reference to a
package is without the name of the package, exactly if the packages that the settings name for the
file are not empty and their paths can stand in literals (`Project.importBlock_of_renderOutput`).
The packages that a schema mentions always are so.
-/

namespace ClientWrap

open ClientWrap.Code ClientWrap.Text

/-! ### Packages of a schema -/

/-- The packages that a proper clientset mentions are paths. -/
theorem Clientset.Proper.isPath_of_mentions {cs : Clientset} (h : cs.Proper) {path : String}
    (hpath : cs.Mentions path) :
  GoType.IsPath path.toList
  := by
  rcases hpath with hpath | ⟨m, hm, hpath⟩
  · apply h.type.parsed.isPath_of_mem hpath
  · have hparsed := (h.method hm).parsed
    obtain ⟨t, ht, hpath⟩ := List.mem_flatMap.mp hpath
    rcases List.mem_append.mp ht with ht | ht
    · apply (hparsed.params t ht).isPath_of_mem hpath
    · apply (hparsed.results t ht).isPath_of_mem hpath

/-- A path needs no escapes in a literal. -/
theorem GoType.IsPath.quotable {path : String} (h : IsPath path.toList) :
  Quotable path
  := by
  intro c hc hmark
  rcases hmark with rfl | rfl | rfl <;> rcases h.chars _ hc with h | h <;> contradiction

/-! ### Groups -/

namespace Code.File

variable {f : File}

/-- The groups of a file have each of its imports once. -/
theorem flatten_importGroups (f : File) :
  f.importGroups.flatten.Perm (f.imports.map importSpec)
  := by
  rw [importGroups, flatten_groups]
  apply (List.filter_append_perm isStandard f.imports).map

/-- The groups of ascending imports are ascending. -/
theorem pairwise_importGroups (h : AscendingBy id f.imports) :
  ∀ group ∈ f.importGroups, group.Pairwise fun i j => bytes i.2 < bytes j.2
  := by
  have hfilter : ∀ keep : String → Bool,
      ((f.imports.filter keep).map importSpec).Pairwise fun i j => bytes i.2 < bytes j.2 := by
    intro keep
    rw [List.pairwise_map]
    apply h.pairwise_bytes.filter
  intro group hgroup
  rcases List.mem_pair.mp (List.mem_of_mem_filter hgroup) with rfl | rfl
  · apply hfilter
  · apply hfilter

end Code.File

/-! ### Emitted files -/

namespace Project

variable {p : Project} {t : TargetSettings} {cs : Clientset} {o : OutputSettings}
  {rendered : RenderedFile} {file : File} {path : String}

/-- The packages of the settings that an emitted file uses: those of the instrumentation, and the
one of the configuration if there is a function for it. -/
def addedPackages (p : Project) (t : TargetSettings) (cs : Clientset) (o : OutputSettings) :
    List String :=
  (p.instrumentation o).packages cs ++ if t.newForConfig then [p.settings.restPackage] else []

/-- The added packages are those of the template and, if the clientset has a constructor from a
configuration, that of the configuration. -/
theorem mem_addedPackages :
  path ∈ p.addedPackages t cs o
    ↔ path ∈ (p.instrumentation o).packages cs ∨ t.newForConfig ∧ path = p.settings.restPackage
  := by
  rw [addedPackages, List.mem_append]
  cases t.newForConfig <;> simp

/-- The imports of a file are the packages that are mentioned or added, but for the empty one. -/
theorem mem_imports_of_renderFile (h : p.renderFile t cs o = .ok file) :
  path ∈ file.imports ↔ path ≠ "" ∧ (cs.Mentions path ∨ path ∈ p.addedPackages t cs o)
  := by
  rw [mem_addedPackages]
  constructor
  · intro hpath
    have hne := ne_empty_of_mem_imports h hpath
    exact ⟨hne, (mem_imports_of_render h hne).mp hpath⟩
  · rintro ⟨hne, hpath⟩
    apply (mem_imports_of_render h hne).mpr hpath

/-- The qualifiers of a file are the packages that are mentioned or added. -/
theorem qualifier_mem_of_renderFile (hcs : cs.Accessed) (h : p.renderFile t cs o = .ok file) :
  .qualifier path ∈ file.pieces ↔ cs.Mentions path ∨ path ∈ p.addedPackages t cs o
  := by
  rw [mem_addedPackages]
  apply qualifier_mem_of_render (p.isTemplate_instrumentation o) hcs h

/-- The imports of a file ascend. -/
theorem ascendingBy_imports (h : p.renderFile t cs o = .ok file) :
  AscendingBy id file.imports
  := by
  obtain ⟨_, -, h⟩ := Outcome.bind_eq_ok.mp h
  rw [← Except.ok.inj h, Clientset.imports]
  apply (ascendingBy_ascending _).filter

/-- The imports of a file are read from its text exactly if no package of the settings has a
character that ends, escapes or breaks a literal. There is an import in any case, that of the
package of the root interface. -/
theorem importGroups?_of_renderFile (hcheck : p.settings.check = .ok ())
    (ht : t ∈ p.settings.targets) (ho : o ∈ t.outputs) (hproper : cs.Proper) (hcs : cs.Accessed)
    (h : p.renderFile t cs o = .ok file) :
  importGroups? file.text = some file.importGroups
    ↔ ∀ path ∈ p.addedPackages t cs o, Quotable path
  := by
  have hpackage : isIdentifier file.package.toList := by
    rw [package_of_renderFile h]
    apply isIdentifier_of_isPackageName (Settings.isPackageName_of_check hcheck ht ho)
  have himports : file.imports ≠ [] := by
    obtain ⟨name, hname⟩ := hcs.named
    have hmentions : cs.Mentions cs.package := by
      left
      rw [hname]
      apply List.mem_singleton_self
    apply List.ne_nil_of_mem ((mem_imports_of_renderFile h).mpr ⟨?_, Or.inl hmentions⟩)
    intro hempty
    rw [hempty] at hmentions
    apply (hproper.isPath_of_mentions hmentions).ne_nil rfl
  rw [File.importGroups?_text hpackage himports]
  simp only [mem_imports_of_renderFile h]
  constructor
  · intro hquotable path hpath
    by_cases hempty : path = ""
    · rw [hempty]
      apply List.forall_mem_nil
    · apply hquotable path ⟨hempty, Or.inr hpath⟩
  · rintro hquotable path ⟨-, hpath | hpath⟩
    · apply (hproper.isPath_of_mentions hpath).quotable
    · apply hquotable path hpath

/-- The imports of an emitted file without a formatter are the packages that the schema mentions and
those of the settings that are not empty. In groups in the order of bytes, those of the standard
library first, they are read from the text exactly if no package of the settings has a character
that ends, escapes or breaks a literal. In the text after the import block every reference to a
package has a name before its dot exactly if no package of the settings is empty. -/
theorem importBlock_of_renderOutput {source : SchemaSource} {s : Schema}
    (hcheck : p.settings.check = .ok ()) (hparsed : source.Parsed)
    (hresolve : source.resolve = .ok s)
    (hwalk : (s.walk p.settings.exclusions).outcome = .ok cs) (ht : t ∈ p.settings.targets)
    (ho : o ∈ t.outputs) (hformatter : p.formatter = none)
    (h : (p.renderOutput t cs o).outcome = .ok rendered) :
  ∃ file, p.renderFile t cs o = .ok file ∧ rendered.text = file.text
    ∧ (∀ path, path ∈ file.imports
      ↔ path ≠ "" ∧ (cs.Mentions path ∨ path ∈ p.addedPackages t cs o))
    ∧ file.imports.Nodup ∧ file.importGroups.flatten.Perm (file.imports.map importSpec)
    ∧ (∀ group ∈ file.importGroups, group.Pairwise fun i j => bytes i.2 < bytes j.2)
    ∧ (importGroups? rendered.text = some file.importGroups
      ↔ ∀ path ∈ p.addedPackages t cs o, Quotable path)
    ∧ rendered.text = ofLines (preambleLines file.package file.imports) ++ printed file.pieces
    ∧ ((∀ path, .qualifier path ∈ file.pieces → Naming.packageAlias path ≠ "")
      ↔ "" ∉ p.addedPackages t cs o)
  := by
  obtain ⟨hcs, -⟩ := Schema.walk_eq_ok.mp hwalk
  have hproper := hcs.proper (SchemaSource.proper_of_resolve hparsed hresolve)
  obtain ⟨file, hfile, htext⟩ := renderFile_of_renderOutput h
  have htext := htext hformatter
  have hascending := ascendingBy_imports hfile
  refine ⟨file, hfile, htext, fun path => mem_imports_of_renderFile hfile, ?_,
    file.flatten_importGroups, File.pairwise_importGroups hascending, ?_, ?_, ?_⟩
  · simpa using hascending.nodup_map
  · rw [htext]
    apply importGroups?_of_renderFile hcheck ht ho hproper hcs.accessed hfile
  · rw [htext, file.printed_pieces, file.text_eq]
  · simp only [ne_eq, Naming.packageAlias_eq_empty, qualifier_mem_of_renderFile hcs.accessed hfile]
    constructor
    · intro hne hempty
      apply hne "" (Or.inr hempty) rfl
    · rintro hempty path (hpath | hpath) rfl
      · apply (hproper.isPath_of_mentions hpath).ne_nil rfl
      · apply hempty hpath

/-- A file without added packages that need escapes: its imports are read back. -/
theorem importBlock_of_renderOutput_pod :
  (podProject "client").settings.check = .ok () ∧ podSource.Parsed
    ∧ (∃ s, podSource.resolve = .ok s
      ∧ (s.walk (podProject "client").settings.exclusions).outcome = .ok podClientset)
    ∧ podTarget ∈ (podProject "client").settings.targets ∧ podOutput ∈ podTarget.outputs
    ∧ (podProject "client").formatter = none
    ∧ ∃ rendered file,
      ((podProject "client").renderOutput podTarget podClientset podOutput).outcome = .ok rendered
      ∧ (podProject "client").renderFile podTarget podClientset podOutput = .ok file
      ∧ importGroups? rendered.text = some file.importGroups
      ∧ ∀ path, .qualifier path ∈ file.pieces → Naming.packageAlias path ≠ ""
  := by
  obtain ⟨s, hresolve, hwalk⟩ := walk_podSource
  obtain ⟨hcheck, rendered, hrendered⟩ := renders_podProject "client" (by decide)
  have htarget : podTarget ∈ (podProject "client").settings.targets := List.mem_cons_self
  have houtput : podOutput ∈ podTarget.outputs := List.mem_cons_self
  obtain ⟨file, hfile, -, -, -, -, -, hgroups, -, hqualifiers⟩ := importBlock_of_renderOutput hcheck
    parsed_podSource hresolve hwalk htarget houtput rfl hrendered
  refine ⟨hcheck, parsed_podSource, ⟨s, hresolve, hwalk⟩, htarget, houtput, rfl, rendered, file,
    hrendered, hfile, hgroups.mpr ?_, hqualifiers.mpr ?_⟩
  · decide +kernel
  · decide +kernel

/-- A project that counts calls with a package. -/
def countedProject (metricsPackage : String) : Project where
  settings := { (podProject "client").settings with metricsPackage := metricsPackage }
  formatter := none

/-- The path of a package with a quote is not read back, and an empty one leaves references without
a name before the dot. -/
theorem not_importBlock_countedProject :
  (¬ ∀ (p : Project) (source : SchemaSource) s cs t o rendered file,
      p.settings.check = .ok () → source.Parsed → source.resolve = .ok s →
      (s.walk p.settings.exclusions).outcome = .ok cs → t ∈ p.settings.targets → o ∈ t.outputs →
      p.formatter = none → (p.renderOutput t cs o).outcome = .ok rendered →
      p.renderFile t cs o = .ok file → importGroups? rendered.text = some file.importGroups)
  ∧ ¬ ∀ (p : Project) (source : SchemaSource) s cs t o rendered file,
      p.settings.check = .ok () → source.Parsed → source.resolve = .ok s →
      (s.walk p.settings.exclusions).outcome = .ok cs → t ∈ p.settings.targets → o ∈ t.outputs →
      p.formatter = none → (p.renderOutput t cs o).outcome = .ok rendered →
      p.renderFile t cs o = .ok file →
      ∀ path, .qualifier path ∈ file.pieces → Naming.packageAlias path ≠ ""
  := by
  have hrenders : ∀ package ∈ ["example.com/\"m", ""],
      (countedProject package).settings.check = .ok ()
        ∧ ((countedProject package).renderOutput podTarget podClientset
          podOutput).outcome.toOption.isSome := by decide +kernel
  obtain ⟨s, hresolve, hwalk⟩ := walk_podSource
  have hcs := (Schema.walk_eq_ok.mp hwalk).1
  have hproper := hcs.proper (SchemaSource.proper_of_resolve parsed_podSource hresolve)
  constructor
  · intro h
    obtain ⟨hcheck, hrendered⟩ := hrenders "example.com/\"m" (by decide)
    obtain ⟨rendered, hrendered⟩ := Outcome.exists_of_isSome hrendered
    obtain ⟨file, hfile, htext⟩ := renderFile_of_renderOutput hrendered
    have hread := h (countedProject "example.com/\"m") _ s _ _ _ rendered file hcheck
      parsed_podSource hresolve hwalk List.mem_cons_self List.mem_cons_self rfl hrendered hfile
    rw [htext rfl, importGroups?_of_renderFile hcheck List.mem_cons_self List.mem_cons_self hproper
      hcs.accessed hfile] at hread
    revert hread
    decide +kernel
  · intro h
    obtain ⟨hcheck, hrendered⟩ := hrenders "" (by decide)
    obtain ⟨rendered, hrendered⟩ := Outcome.exists_of_isSome hrendered
    obtain ⟨file, hfile, -⟩ := renderFile_of_renderOutput hrendered
    have hempty : "" ∈ (countedProject "").addedPackages podTarget podClientset podOutput := by
      decide +kernel
    apply h (countedProject "") _ s _ _ _ rendered file hcheck parsed_podSource hresolve hwalk
      List.mem_cons_self List.mem_cons_self rfl hrendered hfile ""
    · apply (qualifier_mem_of_renderFile hcs.accessed hfile).mpr (Or.inr hempty)
    · rfl

end Project

end ClientWrap
