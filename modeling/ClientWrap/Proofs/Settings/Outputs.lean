import ClientWrap.Proofs.Outcome
import ClientWrap.Proofs.Path
import ClientWrap.Settings.Basic
import Mathlib.Data.List.Pairwise

/-!
# The emitted files of checked settings

The check of settings compares the paths of emitted files by their components. Paths that differ in
this way can still name one file, but only if they begin differently: one at the root and the other
not, or, where paths are read from the empty path, one with a dot and the other not
(`places_of_check`).
-/

namespace ClientWrap

open ClientWrap.Text

/-! ### The check -/

namespace Settings

/-- The paths of all emitted files, target by target. -/
def outputPaths (s : Settings) : List Path :=
  s.targets.flatMap fun t => t.outputs.map (·.filePath s.fileName)

variable {s : Settings} {base : Path} {fileName : String} {names : List String}
  {seen paths : List Path}

/-- The outputs of a target pass if the first one has a usable package and a path of its own, and
the others pass after it. -/
theorem checkOutputs_cons_eq_ok {o : OutputSettings} {outputs : List OutputSettings} :
  checkOutputs fileName seen (o :: outputs) = .ok paths
    ↔ (∀ package ∈ o.package, checkPackage package = .ok ())
      ∧ ¬ seen.any (o.filePath fileName).same
      ∧ checkOutputs fileName (seen ++ [o.filePath fileName]) outputs = .ok paths
  := by
  rw [checkOutputs]
  cases o.package with
  | none =>
      simp only [Outcome.guard_eq_ok]
      simp
  | some package =>
      simp only [Outcome.guard_eq_ok, Outcome.bind_eq_ok]
      simp [Unique.exists_iff]

/-- Targets pass if the first one has a name of its own and outputs that pass, and the others pass
after it. -/
theorem checkTargets_cons_eq_ok {t : TargetSettings} {targets : List TargetSettings} :
  checkTargets fileName names seen (t :: targets) = .ok ()
    ↔ t.name ≠ "" ∧ t.name ∉ names ∧ t.outputs ≠ []
      ∧ ∃ paths, checkOutputs fileName seen t.outputs = .ok paths
        ∧ checkTargets fileName (names ++ [t.name]) paths targets = .ok ()
  := by
  rw [checkTargets]
  simp only [Outcome.guard_eq_ok, Outcome.bind_eq_ok]
  simp

/-- Settings pass their check exactly if each of its parts is passed. -/
theorem check_eq_ok :
  s.check = .ok ()
    ↔ s.targets ≠ [] ∧ isFileName s.fileName ∧ checkPackage s.package = .ok ()
      ∧ s.formatter ≠ some [] ∧ checkTargets s.fileName [] [] s.targets = .ok ()
  := by
  rw [check]
  simp only [Outcome.guard_eq_ok, Outcome.bind_eq_ok]
  simp [Unique.exists_iff]

/-- The packages of outputs that pass are usable. -/
theorem checkPackage_of_checkOutputs {outputs : List OutputSettings}
    (h : checkOutputs fileName seen outputs = .ok paths) :
  ∀ o ∈ outputs, ∀ package ∈ o.package, checkPackage package = .ok ()
  := by
  induction outputs generalizing seen with
  | nil => apply List.forall_mem_nil
  | cons o outputs ih =>
      obtain ⟨hpackage, -, h⟩ := checkOutputs_cons_eq_ok.mp h
      apply List.forall_mem_cons.mpr ⟨hpackage, ih h⟩

/-- The packages of all outputs of targets that pass are usable. -/
theorem checkPackage_of_checkTargets {targets : List TargetSettings}
    (h : checkTargets fileName names seen targets = .ok ()) :
  ∀ t ∈ targets, ∀ o ∈ t.outputs, ∀ package ∈ o.package, checkPackage package = .ok ()
  := by
  induction targets generalizing names seen with
  | nil => apply List.forall_mem_nil
  | cons t targets ih =>
      obtain ⟨-, -, -, paths, hpaths, h⟩ := checkTargets_cons_eq_ok.mp h
      apply List.forall_mem_cons.mpr ⟨checkPackage_of_checkOutputs hpaths, ih h⟩

/-- The package clauses of checked settings are package names. -/
theorem isPackageName_of_check (h : s.check = .ok ()) {t : TargetSettings} (ht : t ∈ s.targets)
    {o : OutputSettings} (ho : o ∈ t.outputs) :
  isPackageName (o.packageName s.package).toList
  := by
  obtain ⟨-, -, hpackage, -, htargets⟩ := check_eq_ok.mp h
  have hchecked : checkPackage (o.packageName s.package) = .ok () := by
    rw [OutputSettings.packageName]
    cases hp : o.package with
    | none => apply hpackage
    | some package => apply checkPackage_of_checkTargets htargets t ht o ho package hp
  rw [checkPackage] at hchecked
  by_contra hname
  rw [if_neg hname] at hchecked
  contradiction

/-- The name of a file is no absolute path. -/
theorem isAbsolute_of_isFileName (h : isFileName fileName) :
  (⟨fileName⟩ : Path).isAbsolute = false
  := by
  rw [isFileName, Bool.and_eq_true, Bool.not_eq_true'] at h
  by_contra habsolute
  rw [Bool.not_eq_false, Path.isAbsolute, beq_iff_eq] at habsolute
  have hmem := List.mem_of_head? habsolute
  simp_all

/-- The two paths have different components. -/
def Differ (p q : Path) : Prop :=
  p.components ≠ q.components

/-- The outputs of a target that pass have pairwise different components, also together with those
seen before. -/
theorem pairwise_of_checkOutputs {outputs : List OutputSettings}
    (h : checkOutputs fileName seen outputs = .ok paths) (hseen : seen.Pairwise Differ) :
  paths = seen ++ outputs.map (·.filePath fileName) ∧ paths.Pairwise Differ
  := by
  induction outputs generalizing seen with
  | nil =>
      obtain rfl := Except.ok.inj h
      rw [List.map_nil, List.append_nil]
      exact ⟨rfl, hseen⟩
  | cons o outputs ih =>
      obtain ⟨-, hnew, h⟩ := checkOutputs_cons_eq_ok.mp h
      obtain ⟨rfl, hpaths⟩ := ih h <| by
        apply List.pairwise_append.mpr
        use hseen, List.pairwise_singleton _ _
        intro p hp q hq heq
        obtain rfl := List.mem_singleton.mp hq
        apply hnew
        apply List.any_eq_true.mpr ⟨p, hp, ?_⟩
        rw [Path.same, heq, beq_self_eq_true]
      rw [List.append_assoc] at hpaths ⊢
      exact ⟨rfl, hpaths⟩

/-- The outputs of all targets that pass have pairwise different components, also together with
those seen before. -/
theorem pairwise_of_checkTargets {targets : List TargetSettings}
    (h : checkTargets fileName names seen targets = .ok ()) (hseen : seen.Pairwise Differ) :
  (seen ++ targets.flatMap fun t => t.outputs.map (·.filePath fileName)).Pairwise Differ
  := by
  induction targets generalizing names seen with
  | nil => simpa using hseen
  | cons t targets ih =>
      obtain ⟨-, -, -, paths, hpaths, h⟩ := checkTargets_cons_eq_ok.mp h
      obtain ⟨rfl, hpaths⟩ := pairwise_of_checkOutputs hpaths hseen
      rw [List.flatMap_cons, ← List.append_assoc]
      apply ih h hpaths

/-- Checked settings emit files whose paths have different components. -/
theorem pairwise_outputPaths (h : s.check = .ok ()) :
  s.outputPaths.Pairwise Differ
  := by
  obtain ⟨-, -, -, -, htargets⟩ := check_eq_ok.mp h
  apply pairwise_of_checkTargets htargets List.Pairwise.nil

end Settings

/-! ### Where emitted files are -/

namespace OutputSettings

variable (o : OutputSettings) (base : Path)

/-- An absolute directory stays as it is; another one is read from the base. -/
theorem directory_resolvePaths :
  (o.resolvePaths base).directory = if o.dir.isAbsolute then o.dir else base.join o.dir
  := by
  rw [resolvePaths]
  split
  · next h =>
      rw [directory]
      cases o.base with
      | none => rfl
      | some b => apply Path.join_of_isAbsolute h
  · rfl

/-- The directory of an output is absolute exactly if it was or the base is. -/
theorem isAbsolute_directory_resolvePaths :
  (o.resolvePaths base).directory.isAbsolute = (o.dir.isAbsolute || base.isAbsolute)
  := by
  rw [directory_resolvePaths]
  split
  · next h => rw [h, Bool.true_or]
  · rw [Path.isAbsolute_join]

variable {o base}

/-- A relative directory that is read from another one begins as that does. -/
theorem beginsHere_directory_resolvePaths (hbase : base.text ≠ "")
    (h : (o.resolvePaths base).directory.isAbsolute = false) :
  (o.resolvePaths base).directory.beginsHere = base.beginsHere
  := by
  rw [isAbsolute_directory_resolvePaths, Bool.or_eq_false_iff] at h
  rw [directory_resolvePaths, if_neg (by simp [h.1]), Path.beginsHere_join hbase h.1]

/-- With a base the directory of an output is not empty. -/
theorem text_directory_resolvePaths (hbase : base.text ≠ "") :
  (o.resolvePaths base).directory.text ≠ ""
  := by
  rw [directory_resolvePaths]
  split
  · next h => apply Path.text_ne_of_isAbsolute h
  · apply Path.text_join_ne hbase

variable {fileName : String} (hname : Settings.isFileName fileName)

include hname

/-- An emitted file has an absolute path exactly if its directory has one. -/
theorem isAbsolute_filePath :
  (o.filePath fileName).isAbsolute = o.directory.isAbsolute
  := by
  rw [filePath, Path.isAbsolute_join, Settings.isAbsolute_of_isFileName hname, Bool.false_or]

/-- The path of an emitted file begins with a dot exactly if that of its directory does. -/
theorem beginsHere_filePath (h : o.directory.text ≠ "") :
  (o.filePath fileName).beginsHere = o.directory.beginsHere
  := Path.beginsHere_join h (Settings.isAbsolute_of_isFileName hname)

end OutputSettings

namespace Settings

variable {s : Settings} {base dir : Path}

/-- Every path of an emitted file is that of an output read from the base. -/
theorem mem_outputPaths_resolvePaths {p : Path} (h : p ∈ (s.resolvePaths base).outputPaths) :
  ∃ o : OutputSettings, p = (o.resolvePaths base).filePath s.fileName
  := by
  obtain ⟨t, ht, hp⟩ := List.mem_flatMap.mp h
  obtain ⟨t, -, rfl⟩ := List.mem_map.mp ht
  obtain ⟨o, ho, rfl⟩ := List.mem_map.mp hp
  obtain ⟨o, -, rfl⟩ := List.mem_map.mp ho
  exact ⟨o, rfl⟩

/-- The first path begins at the root and the second does not, or the other way round; or both are
read from the empty path, and one of them begins with a dot and the other does not. -/
def BeginDifferently (base p q : Path) : Prop :=
  p.isAbsolute ≠ q.isAbsolute ∨ base.text = "" ∧ p.beginsHere ≠ q.beginsHere

/-- Emitted files that begin alike and name one place have the same components. -/
theorem components_eq_or_beginDifferently (hname : isFileName s.fileName) {p q : Path}
    (hp : p ∈ (s.resolvePaths base).outputPaths) (hq : q ∈ (s.resolvePaths base).outputPaths)
    (hplace : p.placeFrom dir = q.placeFrom dir) :
  p.components = q.components ∨ BeginDifferently base p q
  := by
  by_cases habsolute : p.isAbsolute = q.isAbsolute
  · by_cases hhere : p.beginsHere = q.beginsHere
    · left
      apply Path.components_eq_of_placeFrom hplace habsolute hhere
    · right
      refine Or.inr ⟨?_, hhere⟩
      by_contra hbase
      apply hhere
      obtain ⟨o, rfl⟩ := mem_outputPaths_resolvePaths hp
      obtain ⟨o', rfl⟩ := mem_outputPaths_resolvePaths hq
      have hdir := OutputSettings.text_directory_resolvePaths (o := o) hbase
      have hdir' := OutputSettings.text_directory_resolvePaths (o := o') hbase
      rw [OutputSettings.isAbsolute_filePath hname, OutputSettings.isAbsolute_filePath hname]
        at habsolute
      rw [OutputSettings.beginsHere_filePath hname hdir,
        OutputSettings.beginsHere_filePath hname hdir']
      cases hroot : (o.resolvePaths base).directory.isAbsolute with
      | true =>
          rw [Path.beginsHere_of_isAbsolute hroot,
            Path.beginsHere_of_isAbsolute (habsolute ▸ hroot)]
      | false =>
          rw [OutputSettings.beginsHere_directory_resolvePaths hbase hroot,
            OutputSettings.beginsHere_directory_resolvePaths hbase (habsolute ▸ hroot)]
  · exact Or.inr (Or.inl habsolute)

/-- The emitted files of settings that pass the check are at different places exactly if no two
paths for one place begin differently. All of them are if the settings are read from a directory
with an absolute path. -/
theorem places_of_check (h : (s.resolvePaths base).check = .ok ()) (dir : Path) :
  ((s.resolvePaths base).outputPaths.Pairwise (fun p q => p.placeFrom dir ≠ q.placeFrom dir)
    ↔ ∀ p ∈ (s.resolvePaths base).outputPaths, ∀ q ∈ (s.resolvePaths base).outputPaths,
      BeginDifferently base p q → p.placeFrom dir ≠ q.placeFrom dir)
  ∧ (base.isAbsolute →
    (s.resolvePaths base).outputPaths.Pairwise fun p q => p.placeFrom dir ≠ q.placeFrom dir)
  := by
  have hname : isFileName s.fileName := (check_eq_ok.mp h).2.1
  have hiff : (s.resolvePaths base).outputPaths.Pairwise
        (fun p q => p.placeFrom dir ≠ q.placeFrom dir)
      ↔ ∀ p ∈ (s.resolvePaths base).outputPaths, ∀ q ∈ (s.resolvePaths base).outputPaths,
        BeginDifferently base p q → p.placeFrom dir ≠ q.placeFrom dir := by
    constructor
    · intro hplaces p hp q hq hbegin
      have : Std.Symm fun p q : Path => p.placeFrom dir ≠ q.placeFrom dir :=
        ⟨fun _ _ hne => hne.symm⟩
      apply hplaces.forall hp hq
      rintro rfl
      rcases hbegin with hne | ⟨-, hne⟩ <;> exact hne rfl
    · intro hplaces
      apply (pairwise_outputPaths h).imp_of_mem
      intro p q hp hq hdiffer hplace
      rcases components_eq_or_beginDifferently hname hp hq hplace with heq | hbegin
      · apply hdiffer heq
      · apply hplaces p hp q hq hbegin hplace
  refine ⟨hiff, ?_⟩
  intro hbase
  apply hiff.mpr
  have hroot : ∀ p ∈ (s.resolvePaths base).outputPaths, p.isAbsolute := by
    intro p hp
    obtain ⟨o, rfl⟩ := mem_outputPaths_resolvePaths hp
    rw [OutputSettings.isAbsolute_filePath hname,
      OutputSettings.isAbsolute_directory_resolvePaths, hbase, Bool.or_true]
  rintro p hp q hq (hne | ⟨hempty, -⟩)
  · rw [hroot p hp, hroot q hq] at hne
    contradiction
  · apply absurd hempty (Path.text_ne_of_isAbsolute hbase)

/-- Settings with the output directories `out` and `./out`. -/
def dottedSettings : Settings :=
  { default with
    targets :=
      [⟨"foo", ⟨"foo.yaml"⟩, true,
        [⟨.metrics, ⟨"out"⟩, none, none, none⟩, ⟨.traces, ⟨"./out"⟩, none, none, none⟩]⟩] }

/-- Read from the empty path the two directories pass the check, although they are one directory.
Read from another directory they do not pass. -/
theorem not_places_dottedSettings :
  ¬ (∀ (s : Settings) (base dir : Path), (s.resolvePaths base).check = .ok () →
      (s.resolvePaths base).outputPaths.Pairwise fun p q => p.placeFrom dir ≠ q.placeFrom dir)
    ∧ (dottedSettings.resolvePaths ⟨"/work"⟩).check
      = .error (.settings (.sharedOutput ⟨"/work/./out/clientset.generated.go"⟩))
  := by
  constructor
  · intro h
    have hcheck : (dottedSettings.resolvePaths ⟨""⟩).check = .ok () := by decide +kernel
    have hplaces := h dottedSettings ⟨""⟩ ⟨"/work"⟩ hcheck
    revert hplaces
    decide +kernel
  · decide +kernel

/-- Settings with the output directories `metrics` and `./traces`. -/
def apartSettings : Settings :=
  { default with
    targets :=
      [⟨"foo", ⟨"foo.yaml"⟩, true,
        [⟨.metrics, ⟨"metrics"⟩, none, none, none⟩, ⟨.traces, ⟨"./traces"⟩, none, none, none⟩]⟩] }

/-- Two outputs in different directories below one base: they pass the check and are at different
places. -/
theorem places_of_check_apartSettings :
  (apartSettings.resolvePaths ⟨"/work"⟩).check = .ok ()
    ∧ (apartSettings.resolvePaths ⟨"/work"⟩).outputPaths.Pairwise
      fun p q => p.placeFrom ⟨"/work"⟩ ≠ q.placeFrom ⟨"/work"⟩
  := by
  have hcheck : (apartSettings.resolvePaths ⟨"/work"⟩).check = .ok () := by decide +kernel
  use hcheck
  apply (places_of_check hcheck ⟨"/work"⟩).2
  decide

end Settings

end ClientWrap
