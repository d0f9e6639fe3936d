import ClientWrap.Proofs.Settings.Outputs
import ClientWrap.Proofs.Wrapper.Declarations
import ClientWrap.Project.Basic

/-!
# Identifiers of emitted files

The names that an emitted file of checked settings declares are identifiers. A name is nevertheless
blank or a reserved word of the Go language if the package clause is, if an import path is a
reserved word or a single character that is no letter or digit, or if the lower case of the name of
a client is a reserved word (`Project.identifiers_of_renderOutput`).
-/

namespace ClientWrap

open ClientWrap.Code ClientWrap.Text

/-- The reserved words of the Go language. -/
def reservedWords : List String :=
  ["break", "case", "chan", "const", "continue", "default", "defer", "else", "fallthrough", "for",
    "func", "go", "goto", "if", "import", "interface", "map", "package", "range", "return",
    "select", "struct", "switch", "type", "var"]

/-- The name is not blank and no reserved word. -/
def Usable (name : String) : Prop :=
  name ≠ "_" ∧ name ∉ reservedWords

instance : DecidablePred Usable :=
  fun name => inferInstanceAs (Decidable (name ≠ "_" ∧ name ∉ reservedWords))

/-- The names in declaring positions of the file: the package clause, the aliases of the imports,
and the types, fields, functions and methods. -/
def Code.File.identifiers (f : File) : List String :=
  f.package :: (f.imports.map Naming.packageAlias ++ f.declarations.map Declaration.name)

/-! ### Names that are always usable -/

/-- An exported name is neither blank nor a reserved word. -/
theorem usable_of_isExported {name : String} (h : isExported name.toList) :
  Usable name
  := by
  have hwords : ∀ word ∈ "_" :: reservedWords, isExported word.toList = false := by decide
  rw [List.forall_mem_cons] at hwords
  constructor
  · rintro rfl
    rw [hwords.1] at h
    contradiction
  · intro hmem
    rw [hwords.2 name hmem] at h
    contradiction

/-- The declared names are neither blank nor reserved words: each is one of a few fixed names or
begins as wrappers and constructors do, which no reserved word does. -/
theorem Clientset.usable_declaredName {cs : Clientset} {newForConfig : Bool} {name : String}
    (h : name ∈ cs.declaredNames newForConfig) :
  Usable name
  := by
  have hfixed : ∀ name ∈ fixedNames newForConfig, Usable name := by cases newForConfig <;> decide
  have hwords : ∀ word ∈ "_" :: reservedWords,
      ¬ (BeginsWith "wrapped" word ∨ BeginsWith "new" word) := by decide
  rw [List.forall_mem_cons] at hwords
  rcases List.mem_append.mp h with h | h
  · apply hfixed name h
  · have hbegins := beginsWith_of_mem_wrapperNames h
    constructor
    · rintro rfl
      apply hwords.1 hbegins
    · intro hmem
      apply hwords.2 name hmem hbegins

/-! ### Names that may be unusable -/

/-- An alias is usable unless its path is a reserved word or a single character that is no letter or
digit. -/
theorem Naming.usable_packageAlias {path : String} :
  Usable (packageAlias path)
    ↔ path ∉ reservedWords ∧ ¬ ∃ c, path.toList = [c] ∧ c.isAlphanum = false
  := by
  have hwords : packageAlias path ∈ reservedWords ↔ path ∈ reservedWords := by
    constructor
    · intro h
      have hunderscore : ∀ word ∈ reservedWords, '_' ∉ word.toList := by decide
      rwa [packageAlias_of_not_mem (hunderscore _ h)] at h
    · intro h
      have hself : ∀ word ∈ reservedWords, packageAlias word = word := by decide
      rwa [hself path h]
  rw [Usable, Ne, packageAlias_eq_blank, hwords, and_comm]

/-- The field of a client is not blank. -/
theorem Client.Proper.usable_field {c : Client} (h : c.Proper) :
  Usable c.field ↔ c.field ∉ reservedWords
  := by
  have hfield : c.field ≠ "_" := by
    have hexported := h.accessor.valid.exported
    have hascii := ascii_of_isIdentifier (isIdentifier_of_isExported hexported)
    rw [Ne, ← String.toList_inj, Client.field, lowerString, String.toList_ofList,
      lowerCase_ascii hascii]
    cases hname : c.accessor.name.toList with
    | nil => simp
    | cons d ds =>
        rw [hname] at hexported hascii
        rw [isExported, Bool.and_eq_true] at hexported
        have hletter : d.isUpper = true → d.toLower ≠ '_' := by
          apply forall_ascii _ (hascii d List.mem_cons_self)
          decide
        intro heq
        apply hletter hexported.1 (List.cons.inj heq).1
  exact and_iff_right hfield

/-! ### Emitted files -/

namespace Project

variable {p : Project} {t : TargetSettings} {cs : Clientset} {o : OutputSettings}
  {rendered : RenderedFile} {file : File}

/-- The instrumentation of an output is that of one of the templates. -/
theorem isTemplate_instrumentation (p : Project) (o : OutputSettings) :
  IsTemplate (p.instrumentation o)
  := by
  rw [instrumentation]
  cases o.kind with
  | metrics => apply IsTemplate.metrics
  | traces => apply IsTemplate.traces

/-- An emitted file is the text of the declarations, unless there is a formatter. -/
theorem renderFile_of_renderOutput (h : (p.renderOutput t cs o).outcome = .ok rendered) :
  ∃ file, p.renderFile t cs o = .ok file ∧ (p.formatter = none → rendered.text = file.text)
  := by
  rw [renderOutput, Report.outcome_bind, Outcome.bind_eq_ok] at h
  obtain ⟨file, hfile, h⟩ := h
  refine ⟨file, hfile, ?_⟩
  intro hformatter
  rw [hformatter] at h
  rw [← Except.ok.inj h]

/-- A file is in the package of its output, or in that of the project. -/
theorem package_of_renderFile (h : p.renderFile t cs o = .ok file) :
  file.package = o.packageName p.settings.package
  := by
  obtain ⟨_, -, h⟩ := Outcome.bind_eq_ok.mp h
  rw [← Except.ok.inj h]

/-- All declared names are usable if the fields of the clients are. -/
theorem usable_declarations {s : Schema} {ex : Exclusions} (hs : s.Proper)
    (hcs : s.IsClientset ex cs) (h : p.renderFile t cs o = .ok file) :
  (∀ d ∈ file.declarations, Usable d.name) ↔ ∀ c ∈ cs.clients, c.field ∉ reservedWords
  := by
  have hproper := hcs.proper hs
  constructor
  · intro hall c hc
    apply (hproper.client hc).usable_field.mp
    apply hall _ (field_mem_of_render h hc)
  · intro hfields
    have houter : ∀ d ∈ file.declarations, ∀ name, d.outer? = some name → Usable name := by
      intro d hd name hname
      apply Clientset.usable_declaredName
      rw [← outer?_of_render h]
      apply List.mem_filterMap.mpr ⟨d, hd, hname⟩
    intro d hd
    cases d with
    | type name => apply houter _ hd name rfl
    | func name => apply houter _ hd name rfl
    | field name =>
        rcases field_of_render (p.isTemplate_instrumentation o) h hd with hfixed | ⟨c, hc, rfl⟩
        · have hfixedFields : ∀ name ∈ fixedFields, Usable name := by decide
          apply hfixedFields name hfixed
        · apply (hproper.client hc).usable_field.mpr (hfields c hc)
    | method name => apply usable_of_isExported (method_of_render hs hcs h hd)

/-- The names in declaring positions of an emitted file are identifiers. They are neither blank nor
reserved words exactly if the package clause of the settings is not, no import path is a reserved
word or a single character that is no letter or digit, and no client has a name whose lower case is
a reserved word. -/
theorem identifiers_of_renderOutput {source : SchemaSource} {s : Schema}
    (hcheck : p.settings.check = .ok ()) (hparsed : source.Parsed)
    (hresolve : source.resolve = .ok s)
    (hwalk : (s.walk p.settings.exclusions).outcome = .ok cs) (ht : t ∈ p.settings.targets)
    (ho : o ∈ t.outputs) (h : (p.renderOutput t cs o).outcome = .ok rendered) :
  ∃ file, p.renderFile t cs o = .ok file
    ∧ (p.formatter = none → rendered.text = file.text)
    ∧ file.text = ofLines (preambleLines file.package file.imports) ++ file.body
    ∧ Declaration.declarationsFrom false (Text.lines file.body) = file.declarations
    ∧ (∀ name ∈ file.identifiers, isIdentifier name.toList)
    ∧ ((∀ name ∈ file.identifiers, Usable name)
      ↔ Usable (o.packageName p.settings.package)
        ∧ (∀ path ∈ file.imports,
          path ∉ reservedWords ∧ ¬ ∃ c, path.toList = [c] ∧ c.isAlphanum = false)
        ∧ ∀ c ∈ cs.clients, lowerString c.name ∉ reservedWords)
  := by
  obtain ⟨hcs, -⟩ := Schema.walk_eq_ok.mp hwalk
  have hs := SchemaSource.proper_of_resolve hparsed hresolve
  have hins := p.isTemplate_instrumentation o
  obtain ⟨file, hfile, htext⟩ := renderFile_of_renderOutput h
  have hpackage := package_of_renderFile hfile
  refine ⟨file, hfile, htext, file.text_eq, declarationsFrom_of_render hins hs hcs hfile, ?_, ?_⟩
  · rw [File.identifiers, List.forall_mem_cons, List.forall_mem_append, List.forall_mem_map,
      List.forall_mem_map]
    and_intros
    · rw [hpackage]
      apply isIdentifier_of_isPackageName (Settings.isPackageName_of_check hcheck ht ho)
    · intro path hpath
      apply Naming.isIdentifier_packageAlias (ne_empty_of_mem_imports hfile hpath)
    · apply isIdentifier_of_render hins hs hcs hfile
  · rw [File.identifiers, List.forall_mem_cons, List.forall_mem_append, List.forall_mem_map,
      List.forall_mem_map, hpackage, usable_declarations hs hcs hfile]
    simp only [Naming.usable_packageAlias]
    rfl

/-- An output in a directory of its own. -/
def podOutput : OutputSettings :=
  ⟨.metrics, ⟨"out"⟩, none, none, none⟩

/-- A target with this output only. -/
def podTarget : TargetSettings :=
  ⟨"pods", ⟨"pods.yaml"⟩, true, [podOutput]⟩

/-- A project with this target and a package clause. -/
def podProject (package : String) : Project where
  settings := { Settings.default with package := package, targets := [podTarget] }
  formatter := none

/-- A project with a usable package is rendered, and so is one whose package is a reserved word. -/
theorem renders_podProject :
  ∀ package ∈ ["client", "func"],
    (podProject package).settings.check = .ok ()
      ∧ ∃ rendered, ((podProject package).renderOutput podTarget podClientset
        podOutput).outcome = .ok rendered
  := by
  have hrenders : ∀ package ∈ ["client", "func"],
      (podProject package).settings.check = .ok ()
        ∧ ((podProject package).renderOutput podTarget podClientset
          podOutput).outcome.toOption.isSome := by decide +kernel
  intro package hpackage
  apply (hrenders package hpackage).imp_right Outcome.exists_of_isSome

/-- A project with a usable package: all declared identifiers are usable. -/
theorem identifiers_of_renderOutput_pod :
  (podProject "client").settings.check = .ok () ∧ podSource.Parsed
    ∧ (∃ s, podSource.resolve = .ok s
      ∧ (s.walk (podProject "client").settings.exclusions).outcome = .ok podClientset)
    ∧ podTarget ∈ (podProject "client").settings.targets ∧ podOutput ∈ podTarget.outputs
    ∧ ∃ rendered file,
      ((podProject "client").renderOutput podTarget podClientset podOutput).outcome = .ok rendered
      ∧ (podProject "client").renderFile podTarget podClientset podOutput = .ok file
      ∧ rendered.text = file.text ∧ ∀ name ∈ file.identifiers, Usable name
  := by
  have himports : ((podProject "client").renderFile podTarget podClientset
      podOutput).toOption.map File.imports
      = some ["context", "example.com/api/v1", "example.com/core/v1", "example.com/kubernetes",
        "github.com/kyverno/kyverno/pkg/metrics", "k8s.io/client-go/rest"] := by decide +kernel
  obtain ⟨s, hresolve, hwalk⟩ := walk_podSource
  obtain ⟨hcheck, rendered, hrendered⟩ := renders_podProject "client" (by decide)
  have htarget : podTarget ∈ (podProject "client").settings.targets := List.mem_cons_self
  have houtput : podOutput ∈ podTarget.outputs := List.mem_cons_self
  obtain ⟨file, hfile, htext, -, -, -, husable⟩ := identifiers_of_renderOutput hcheck
    parsed_podSource hresolve hwalk htarget houtput hrendered
  refine ⟨hcheck, parsed_podSource, ⟨s, hresolve, hwalk⟩, htarget, houtput, rendered, file,
    hrendered, hfile, htext rfl, husable.mpr ?_⟩
  rw [hfile] at himports
  rw [Option.some.inj himports]
  and_intros
  · decide
  · decide
  · simp only [← Naming.usable_packageAlias]
    decide +kernel
  · decide +kernel

/-- The check of the settings lets a reserved word pass as a package clause. -/
theorem not_usable_identifiers :
  ¬ ∀ (p : Project) (source : SchemaSource) s cs t o rendered file,
      p.settings.check = .ok () → source.Parsed → source.resolve = .ok s →
      (s.walk p.settings.exclusions).outcome = .ok cs → t ∈ p.settings.targets → o ∈ t.outputs →
      (p.renderOutput t cs o).outcome = .ok rendered → p.renderFile t cs o = .ok file →
      ∀ name ∈ file.identifiers, Usable name
  := by
  intro h
  obtain ⟨s, hresolve, hwalk⟩ := walk_podSource
  obtain ⟨hcheck, rendered, hrendered⟩ := renders_podProject "func" (by decide)
  obtain ⟨file, hfile, -⟩ := renderFile_of_renderOutput hrendered
  have hmem : "func" ∈ file.identifiers := by
    rw [File.identifiers, package_of_renderFile hfile]
    apply List.mem_cons_self
  have husable := h _ _ s _ _ _ rendered file hcheck parsed_podSource hresolve hwalk
    List.mem_cons_self List.mem_cons_self hrendered hfile "func" hmem
  revert husable
  decide

end Project

end ClientWrap
