import ClientWrap.Proofs.FileTree.Changes
import ClientWrap.Proofs.Settings.Outputs
import ClientWrap.Schema.Read
import Mathlib.Data.List.Flatten

/-!
# Runs

A run writes exactly the files that a check just before it finds out of date, a check just after it
finds nothing out of date, and a second run writes nothing (`Project.generate_check`). A check looks
at one tree while a run looks at each file after it has written those before. The two agree because
the files of a run lie at different places, so putting one in place does not change the status of
the others.
-/

namespace ClientWrap

namespace FileTree

variable {t : FileTree} {f : RenderedFile} {fs : List RenderedFile}
  {written : List (RenderedFile × Bool)}

/-- The files lie at different places, and their paths never go up. -/
structure Apart (fs : List RenderedFile) : Prop where
  neverUp : ∀ f ∈ fs, f.path.NeverUp
  different : fs.Pairwise fun f g => f.path.location ≠ g.path.location

/-- Without the first one the files are still apart. -/
theorem Apart.of_cons (h : Apart (f :: fs)) :
  Apart fs
  := by
  obtain ⟨hup, hdiff⟩ := h
  exact ⟨(List.forall_mem_cons.mp hup).2, (List.pairwise_cons.mp hdiff).2⟩

/-- If the first file is put in place, the run goes on with the others. -/
theorem ensureAll_cons (fs : List RenderedFile) {b : Bool}
    (hb : (t.ensure f.path f.text).2.outcome = .ok b) :
  (t.ensureAll (f :: fs)).1 = ((t.ensure f.path f.text).1.ensureAll fs).1
    ∧ (t.ensureAll (f :: fs)).2.outcome
      = ((t.ensure f.path f.text).1.ensureAll fs).2.outcome.map ((f, b) :: ·)
  := by
  rw [ensureAll]
  generalize t.ensure f.path f.text = first at hb ⊢
  obtain ⟨t', report⟩ := first
  dsimp only at hb ⊢
  rw [hb]
  dsimp only
  generalize t'.ensureAll fs = others
  obtain ⟨t'', reports⟩ := others
  refine ⟨rfl, ?_⟩
  dsimp only
  rw [Report.outcome_bind, hb]
  change (reports >>= fun others => pure ((f, b) :: others)).outcome = _
  rw [Report.outcome_bind]
  cases reports.outcome <;> rfl

/-- A run that succeeds puts its first file in place. -/
theorem exists_ensure_of_cons (h : (t.ensureAll (f :: fs)).2.outcome = .ok written) :
  ∃ b, (t.ensure f.path f.text).2.outcome = .ok b
  := by
  rw [ensureAll] at h
  generalize t.ensure f.path f.text = first at h ⊢
  obtain ⟨t', report⟩ := first
  dsimp only at h ⊢
  cases hreport : report.outcome with
  | ok b => exact ⟨b, rfl⟩
  | error e =>
      rw [hreport] at h
      dsimp only at h
      change (report >>= fun _ => pure []).outcome = _ at h
      rw [Report.outcome_bind, hreport] at h
      contradiction

/-- A run that succeeds puts its first file in place and then the others. -/
theorem ensureAll_cons_eq_ok (h : (t.ensureAll (f :: fs)).2.outcome = .ok written) :
  ∃ b others, (t.ensure f.path f.text).2.outcome = .ok b
    ∧ ((t.ensure f.path f.text).1.ensureAll fs).2.outcome = .ok others
    ∧ written = (f, b) :: others
    ∧ (t.ensureAll (f :: fs)).1 = ((t.ensure f.path f.text).1.ensureAll fs).1
  := by
  obtain ⟨b, hb⟩ := exists_ensure_of_cons h
  obtain ⟨htree, houtcome⟩ := ensureAll_cons fs hb
  rw [houtcome] at h
  obtain ⟨others, hothers, hwritten⟩ := Outcome.map_eq_ok.mp h
  exact ⟨b, others, hb, hothers, hwritten.symm, htree⟩

/-- A run changes no files but those it puts in place. -/
theorem changes_ensureAll (h : (t.ensureAll fs).2.outcome = .ok written) :
  t.Changes (fs.map (·.path.location)) (t.ensureAll fs).1
  := by
  induction fs generalizing t written with
  | nil => apply Changes.refl
  | cons f fs ih =>
      obtain ⟨b, others, hb, hothers, -, htree⟩ := ensureAll_cons_eq_ok h
      rw [htree]
      apply ((changes_ensure hb).mono _).trans ((ih hothers).mono _)
      · simp
      · simp

/-- A run writes the files that are not up to date before it. A file is compared with the tree after
those in front of it are in place, but none of them changes the status of a file apart from it. -/
theorem written_of_ensureAll (ht : t.Rooted) (hfs : Apart fs)
    (h : (t.ensureAll fs).2.outcome = .ok written) :
  written = fs.map fun f => (f, decide (t.status f.path f.text ≠ .upToDate))
  := by
  induction fs generalizing t written with
  | nil => apply (Except.ok.inj h).symm
  | cons f fs ih =>
      obtain ⟨b, others, hb, hothers, rfl, -⟩ := ensureAll_cons_eq_ok h
      have hchanges := changes_ensure hb
      have hwritten : b = decide (t.status f.path f.text ≠ .upToDate) := by
        rcases ensure_eq_ok hb with ⟨rfl, hstatus, -⟩ | ⟨rfl, hstatus, -⟩ <;> simp [hstatus]
      rw [List.map_cons, ← hwritten, ih (hchanges.rooted ht) hfs.of_cons hothers]
      congr 1
      apply List.map_congr_left
      intro g hg
      rw [hchanges.status_eq ht (hfs.neverUp g (List.mem_cons_of_mem _ hg))]
      have hne := (List.pairwise_cons.mp hfs.different).1 g hg
      simpa using hne.symm

/-- All files are up to date after a run. -/
theorem status_ensureAll (ht : t.Rooted) (hfs : Apart fs)
    (h : (t.ensureAll fs).2.outcome = .ok written) :
  ∀ f ∈ fs, (t.ensureAll fs).1.status f.path f.text = .upToDate
  := by
  induction fs generalizing t written with
  | nil => apply List.forall_mem_nil
  | cons f fs ih =>
      obtain ⟨b, others, hb, hothers, -, htree⟩ := ensureAll_cons_eq_ok h
      have ht' := (changes_ensure hb).rooted ht
      rw [htree, List.forall_mem_cons]
      constructor
      · rw [(changes_ensureAll hothers).status_eq ht' (hfs.neverUp f List.mem_cons_self)]
        · apply status_ensure hb
        · intro hmem
          obtain ⟨g, hg, heq⟩ := List.mem_map.mp hmem
          apply (List.pairwise_cons.mp hfs.different).1 g hg heq.symm
      · apply ih ht' hfs.of_cons hothers

/-- A run changes nothing if all files are up to date. -/
theorem ensureAll_of_upToDate (h : ∀ f ∈ fs, t.status f.path f.text = .upToDate) :
  (t.ensureAll fs).1 = t ∧ (t.ensureAll fs).2.outcome = .ok (fs.map fun f => (f, false))
  := by
  induction fs with
  | nil => exact ⟨rfl, rfl⟩
  | cons f fs ih =>
      obtain ⟨hf, hfs⟩ := List.forall_mem_cons.mp h
      obtain ⟨hsame, hfalse⟩ := ensure_of_upToDate hf
      obtain ⟨htree, houtcome⟩ := ensureAll_cons fs hfalse
      obtain ⟨htrees, houtcomes⟩ := ih hfs
      rw [htree, houtcome, hsame, htrees, houtcomes]
      exact ⟨rfl, rfl⟩

end FileTree

namespace Project

variable {p : Project} {readers : SchemaReaders} {files files' : FileTree} {target : Option String}
  {fs : List RenderedFile} {written : List (RenderedFile × Bool)}

/-! ### Rendering -/

/-- The selected targets are some of the targets in their order. -/
theorem select_sublist {s : Settings} {targets : List TargetSettings}
    (h : s.select target = .ok targets) :
  targets.Sublist s.targets
  := by
  cases target with
  | none =>
      obtain rfl := Except.ok.inj h
      apply List.Sublist.refl
  | some name =>
      rw [Settings.select] at h
      split at h
      · next t ht =>
          obtain rfl := Except.ok.inj h
          apply List.singleton_sublist.mpr (List.mem_of_find?_eq_some ht)
      · contradiction

/-- The files of a run are those of the selected targets one after another. -/
theorem renderAll_eq_ok :
  (p.renderAll readers files target).outcome = .ok fs
    ↔ ∃ targets fss, p.settings.select target = .ok targets
      ∧ List.Forall₂ (fun t fs => (p.renderTarget readers files t).outcome = .ok fs) targets fss
      ∧ fss.flatten = fs
  := by
  have hmapM : ∀ targets : List TargetSettings,
      (targets.mapM (p.renderTarget readers files)
        >>= fun fss => pure fss.flatten : Report _ _).outcome = .ok fs
      ↔ ∃ fss,
        List.Forall₂ (fun t fs => (p.renderTarget readers files t).outcome = .ok fs) targets fss
        ∧ fss.flatten = fs := by
    intro targets
    rw [Report.outcome_bind, Outcome.bind_eq_ok, Outcome.outcome_mapM]
    simp only [Outcome.mapM_eq_ok, Report.outcome_pure, Except.ok.injEq]
  rw [renderAll, Report.outcome_bind, Outcome.bind_eq_ok]
  simp only [hmapM]
  change (∃ targets, p.settings.select target = .ok targets ∧ _) ↔ _
  simp only [exists_and_left]

/-- The files of a target lie where its outputs say. -/
theorem map_path_of_renderTarget {t : TargetSettings}
    (h : (p.renderTarget readers files t).outcome = .ok fs) :
  fs.map RenderedFile.path = t.outputs.map (·.filePath p.settings.fileName)
  := by
  rw [renderTarget, Report.outcome_bind, Outcome.bind_eq_ok] at h
  obtain ⟨cs, -, h⟩ := h
  rw [Outcome.outcome_mapM, Outcome.mapM_eq_ok] at h
  apply Outcome.map_eq_of_forall₂ (h.imp _)
  intro o f hf
  rw [renderOutput, Report.outcome_bind, Outcome.bind_eq_ok] at hf
  obtain ⟨file, -, hf⟩ := hf
  dsimp only at hf
  split at hf
  all_goals
    rw [Report.outcome_bind, Outcome.bind_eq_ok] at hf
    obtain ⟨text, -, hf⟩ := hf
    rw [← Except.ok.inj hf]

/-- The files of a run are among the outputs of the settings. -/
theorem path_sublist_of_renderAll (h : (p.renderAll readers files target).outcome = .ok fs) :
  (fs.map RenderedFile.path).Sublist p.settings.outputPaths
  := by
  obtain ⟨targets, fss, hselect, hfss, rfl⟩ := renderAll_eq_ok.mp h
  have hpaths : fss.map (fun fs => fs.map RenderedFile.path)
      = targets.map fun t => t.outputs.map (·.filePath p.settings.fileName) :=
    Outcome.map_eq_of_forall₂ (hfss.imp fun _ _ => map_path_of_renderTarget)
  rw [List.map_flatten, hpaths, ← List.flatMap_def]
  apply (select_sublist hselect).flatMap

/-- A target that gives files has a schema that can be read. -/
theorem readText_of_renderTarget {t : TargetSettings}
    (h : (p.renderTarget readers files t).outcome = .ok fs) :
  ∃ text, files.readText t.schema = .ok text
  := by
  rw [renderTarget, Report.outcome_bind, Outcome.bind_eq_ok] at h
  obtain ⟨cs, h, -⟩ := h
  rw [loadClientset, Report.outcome_bind, Outcome.bind_eq_ok] at h
  obtain ⟨schema, h, -⟩ := h
  rw [Schema.load, Report.outcome_bind, Outcome.bind_eq_ok] at h
  obtain ⟨text, h, -⟩ := h
  exact ⟨text, Outcome.mapError_eq_ok.mp h⟩

/-- The files of a target depend on the text of its schema only. -/
theorem renderTarget_congr {t : TargetSettings}
    (h : files'.readText t.schema = files.readText t.schema) :
  p.renderTarget readers files' t = p.renderTarget readers files t
  := by
  rw [renderTarget, renderTarget, loadClientset, loadClientset, Schema.load, Schema.load, h]

/-- A run reads nothing but schemas, so it gives the same files wherever these read the same. -/
theorem renderAll_congr (h : (p.renderAll readers files target).outcome = .ok fs)
    (hread : ∀ t ∈ p.settings.targets, ∀ text, files.readText t.schema = .ok text →
      files'.readText t.schema = .ok text) :
  p.renderAll readers files' target = p.renderAll readers files target
  := by
  obtain ⟨targets, fss, hselect, hfss, -⟩ := renderAll_eq_ok.mp h
  have htargets : ∀ t ∈ targets,
      p.renderTarget readers files' t = p.renderTarget readers files t := by
    intro t ht
    obtain ⟨fs, -, hfs⟩ := Outcome.exists_of_mem_left hfss ht
    obtain ⟨text, htext⟩ := readText_of_renderTarget hfs
    apply renderTarget_congr
    rw [htext, hread t ((select_sublist hselect).subset ht) text htext]
  rw [renderAll, renderAll, hselect]
  change (targets.mapM (p.renderTarget readers files') >>= fun fss => pure fss.flatten)
    = (targets.mapM (p.renderTarget readers files) >>= fun fss => pure fss.flatten)
  rw [Outcome.mapM_congr htargets]

/-! ### Runs and checks -/

/-- A check compares each rendered file with the tree. -/
theorem check_of_renderAll (h : (p.renderAll readers files target).outcome = .ok fs) :
  (p.check readers files target).outcome = .ok (fs.map fun f => (f, files.status f.path f.text))
  := by
  rw [check, Report.outcome_bind, h]
  rfl

/-- A run puts the files in place that are rendered. -/
theorem generate_of_renderAll (h : (p.renderAll readers files target).outcome = .ok fs) :
  (p.generate readers files target).1 = (files.ensureAll fs).1
    ∧ (p.generate readers files target).2.outcome = (files.ensureAll fs).2.outcome
  := by
  rw [generate]
  dsimp only
  rw [h]
  refine ⟨rfl, ?_⟩
  change (p.renderAll readers files target >>= fun _ => (files.ensureAll fs).2).outcome = _
  rw [Report.outcome_bind, h]
  rfl

/-- A run that succeeds has rendered its files. -/
theorem exists_renderAll (h : (p.generate readers files target).2.outcome = .ok written) :
  ∃ fs, (p.renderAll readers files target).outcome = .ok fs
  := by
  rw [generate] at h
  dsimp only at h
  cases hrender : (p.renderAll readers files target).outcome with
  | ok fs => exact ⟨fs, rfl⟩
  | error e =>
      rw [hrender] at h
      dsimp only at h
      change (p.renderAll readers files target >>= fun _ => pure []).outcome = _ at h
      rw [Report.outcome_bind, hrender] at h
      contradiction

/-- The emitted files lie at different places, none of which is that of a schema, and their paths
never go up. -/
structure Separate (p : Project) : Prop where
  neverUp : ∀ path ∈ p.settings.outputPaths, path.NeverUp
  different : p.settings.outputPaths.Pairwise fun path path' => path.location ≠ path'.location
  schema : ∀ path ∈ p.settings.outputPaths, ∀ t ∈ p.settings.targets,
    path.location ≠ t.schema.location

/-- The files of a project with separate outputs are apart. -/
theorem Separate.apart (hp : p.Separate) (h : (p.renderAll readers files target).outcome = .ok fs) :
  FileTree.Apart fs
  := by
  have hsublist := path_sublist_of_renderAll h
  constructor
  · intro f hf
    apply hp.neverUp _ (hsublist.subset (List.mem_map_of_mem hf))
  · apply List.pairwise_map.mp (hp.different.sublist hsublist)

/-- For all readers of schemas: in a tree where every entry lies in a directory, a run of a project
with separate files that succeeds writes exactly the files that a check before it finds stale or
missing. A check after it finds every file up to date, and a second run writes nothing and leaves
the tree as it is. -/
theorem generate_check (hfiles : files.Rooted) (hp : p.Separate)
    (h : (p.generate readers files target).2.outcome = .ok written) :
  (∃ checked, (p.check readers files target).outcome = .ok checked
    ∧ written = checked.map fun c => (c.1, decide (c.2 = .stale ∨ c.2 = .missing)))
  ∧ (p.check readers (p.generate readers files target).1 target).outcome
    = .ok (written.map fun w => (w.1, .upToDate))
  ∧ (p.generate readers (p.generate readers files target).1 target).1
    = (p.generate readers files target).1
  ∧ (p.generate readers (p.generate readers files target).1 target).2.outcome
    = .ok (written.map fun w => (w.1, false))
  := by
  obtain ⟨fs, hfs⟩ := exists_renderAll h
  obtain ⟨htree, houtcome⟩ := generate_of_renderAll hfs
  rw [houtcome] at h
  rw [htree]
  have hapart := hp.apart hfs
  have hwritten := FileTree.written_of_ensureAll hfiles hapart h
  have hstatus := FileTree.status_ensureAll hfiles hapart h
  have hafter : (p.renderAll readers (files.ensureAll fs).1 target).outcome = .ok fs := by
    rw [renderAll_congr hfs, hfs]
    intro t ht text
    apply (FileTree.changes_ensureAll h).readText
    intro hmem
    obtain ⟨f, hf, heq⟩ := List.mem_map.mp hmem
    apply hp.schema f.path _ t ht heq
    apply (path_sublist_of_renderAll hfs).subset (List.mem_map_of_mem hf)
  obtain ⟨hsame, hfalse⟩ := FileTree.ensureAll_of_upToDate hstatus
  obtain ⟨htree', houtcome'⟩ := generate_of_renderAll hafter
  and_intros
  · refine ⟨_, check_of_renderAll hfs, ?_⟩
    rw [hwritten, List.map_map]
    apply List.map_congr_left
    intro f _
    cases hf : files.status f.path f.text <;> simp [hf]
  · rw [check_of_renderAll hafter, hwritten, List.map_map]
    congr 1
    apply List.map_congr_left
    intro f hf
    rw [hstatus f hf]
    rfl
  · rw [htree', hsame]
  · rw [houtcome', hfalse, hwritten, List.map_map]
    rfl

/-- A project with one schema and two emitted files. -/
def twofold : Project where
  settings := { Settings.default with
    targets :=
      [⟨"foo", ⟨"foo.yaml"⟩, true,
        [⟨.metrics, ⟨"metrics"⟩, none, none, none⟩, ⟨.traces, ⟨"traces"⟩, none, none, none⟩]⟩] }
  formatter := none

/-- A tree with the schema of the project and one file in a wrong encoding. -/
def twofoldFiles : FileTree where
  entries :=
    [(["foo.yaml"], .file (.text "root: a.B\ninterfaces:\n- name: a.B\n")),
      (["metrics"], .directory),
      (["metrics", "clientset.generated.go"], .file (.binary [255]))]

/-- A project with two outputs: the first run writes both files, the second one none. -/
theorem generate_check_twofold :
  twofoldFiles.Rooted ∧ twofold.Separate
    ∧ ∃ written, (twofold.generate .standard twofoldFiles none).2.outcome = .ok written
      ∧ written.map (·.2) = [true, true]
      ∧ (twofold.generate .standard (twofold.generate .standard twofoldFiles none).1 none).2.outcome
        = .ok (written.map fun w => (w.1, false))
  := by
  have hfiles : twofoldFiles.Rooted := by decide +kernel
  have hseparate : twofold.Separate := by
    constructor <;> decide +kernel
  have hwritten : (twofold.generate .standard twofoldFiles none).2.outcome.toOption.map
      (List.map (·.2)) = some [true, true] := by decide +kernel
  use hfiles, hseparate
  obtain ⟨written, h, hwritten⟩ := Outcome.exists_of_toOption hwritten
  refine ⟨written, h, hwritten, ?_⟩
  apply (generate_check hfiles hseparate h).2.2.2

end Project

end ClientWrap
