import ClientWrap.Proofs.Project.Runs
import ClientWrap.Proofs.Text.LineEnds

/-!
# Runs that fail

A run renders all its files before it writes the first of them. If it fails before that, it ends
with the error of the first stage that fails, and the tree is as it was. If it fails at one of its
files, those before it are in place, and all other files are as they were
(`Project.generate_error`).
-/

namespace ClientWrap

open Outcome

/-! ### Writing -/

namespace FileTree

variable {t : FileTree} {f : RenderedFile} {done rest : List RenderedFile} {e : Error}

/-- The files of a list are put in place, and then the file cannot be. -/
structure StopsAt (t : FileTree) (done : List RenderedFile) (f : RenderedFile) (e : Error) :
    Prop where
  placed : ∃ written, (t.ensureAll done).2.outcome = .ok written
  fails : ((t.ensureAll done).1.ensure f.path f.text).2.outcome = .error e

/-- A file that cannot be put in place adds directories at most. -/
theorem changes_ensure_error {p : Path} {text : String}
    (h : (t.ensure p text).2.outcome = .error e) :
  t.Changes [] (t.ensure p text).1
  := by
  have hholder := changes_makeHolder t p
  rw [ensure] at h ⊢
  split at h
  · contradiction
  · next hstatus =>
      rw [if_neg hstatus]
      split at h
      · next hmake =>
          rw [hmake] at hholder
          apply hholder
      · next hmake =>
          rw [hmake] at hholder
          split at h
          · apply hholder
          · contradiction

/-- A run ends at the first file that cannot be put in place. -/
theorem ensureAll_cons_of_error (rest : List RenderedFile)
    (h : (t.ensure f.path f.text).2.outcome = .error e) :
  (t.ensureAll (f :: rest)).1 = (t.ensure f.path f.text).1
    ∧ (t.ensureAll (f :: rest)).2.outcome = .error e
  := by
  rw [ensureAll]
  generalize t.ensure f.path f.text = first at h ⊢
  obtain ⟨t', report⟩ := first
  dsimp only at h ⊢
  rw [h]
  refine ⟨rfl, ?_⟩
  change (report >>= fun _ => pure []).outcome = _
  rw [Report.outcome_bind, h]
  rfl

/-- A run that stops at a file leaves the tree of the files before it with that of its attempt. -/
theorem StopsAt.ensureAll (h : t.StopsAt done f e) (rest : List RenderedFile) :
  (t.ensureAll (done ++ f :: rest)).1 = ((t.ensureAll done).1.ensure f.path f.text).1
    ∧ (t.ensureAll (done ++ f :: rest)).2.outcome = .error e
  := by
  obtain ⟨⟨written, hwritten⟩, hfails⟩ := h
  induction done generalizing t written with
  | nil => apply ensureAll_cons_of_error rest hfails
  | cons g done ih =>
      obtain ⟨b, others, hb, hothers, -, htree⟩ := ensureAll_cons_eq_ok hwritten
      rw [htree] at hfails ⊢
      obtain ⟨htrees, houtcomes⟩ := ih hfails others hothers
      obtain ⟨hcons, houtcome⟩ := ensureAll_cons (done ++ f :: rest) hb
      rw [List.cons_append, hcons, houtcome, htrees, houtcomes]
      exact ⟨rfl, rfl⟩

/-- A run that fails stops at one of its files. -/
theorem exists_stopsAt {fs : List RenderedFile} (h : (t.ensureAll fs).2.outcome = .error e) :
  ∃ done f rest, fs = done ++ f :: rest ∧ t.StopsAt done f e
  := by
  induction fs generalizing t with
  | nil => contradiction
  | cons g fs ih =>
      cases hg : (t.ensure g.path g.text).2.outcome with
      | error e' =>
          obtain ⟨-, houtcome⟩ := ensureAll_cons_of_error fs hg
          obtain rfl := Except.error.inj (houtcome.symm.trans h)
          exact ⟨[], g, fs, rfl, ⟨⟨[], rfl⟩, hg⟩⟩
      | ok b =>
          obtain ⟨-, houtcome⟩ := ensureAll_cons fs hg
          have hfs : ((t.ensure g.path g.text).1.ensureAll fs).2.outcome = .error e := by
            rw [houtcome] at h
            cases hothers : ((t.ensure g.path g.text).1.ensureAll fs).2.outcome with
            | error e' =>
                rw [hothers] at h
                apply h
            | ok others =>
                rw [hothers] at h
                contradiction
          obtain ⟨done, f, rest, rfl, ⟨written, hwritten⟩, hfails⟩ := ih hfs
          obtain ⟨hdone, hdones⟩ := ensureAll_cons done hg
          refine ⟨g :: done, f, rest, rfl, ⟨(g, b) :: written, ?_⟩, ?_⟩
          · rw [hdones, hwritten]
            rfl
          · rw [hdone, hfails]

/-- The files before the one at which a run stops are changed, and nothing else is but that
directories are added. -/
theorem StopsAt.changes (h : t.StopsAt done f e) :
  (t.ensureAll done).1.Changes [] ((t.ensureAll done).1.ensure f.path f.text).1
    ∧ t.Changes (done.map (·.path.location)) ((t.ensureAll done).1.ensure f.path f.text).1
  := by
  obtain ⟨⟨written, hwritten⟩, hfails⟩ := h
  have hlast := changes_ensure_error hfails
  exact ⟨hlast, (changes_ensureAll hwritten).trans (hlast.mono (List.nil_subset _))⟩

/-- The first of files that are apart are apart. -/
theorem Apart.of_append (h : Apart (done ++ rest)) :
  Apart done
  := by
  obtain ⟨hup, hdiff⟩ := h
  exact ⟨(List.forall_mem_append.mp hup).1, (List.pairwise_append.mp hdiff).1⟩

/-- The files before the one at which a run stops hold the lines of their texts. -/
theorem StopsAt.readText (h : t.StopsAt done f e) (ht : t.Rooted) (hapart : Apart done) :
  ∀ g ∈ done, ∃ old,
    ((t.ensureAll done).1.ensure f.path f.text).1.readText g.path = .ok old
      ∧ Text.lineBodies old.toList = Text.lineBodies g.text.toList
  := by
  intro g hg
  obtain ⟨written, hwritten⟩ := h.placed
  have hstatus := status_ensureAll ht hapart hwritten g hg
  obtain ⟨old, hold, hsame⟩ := status_eq_upToDate.mp hstatus
  exact ⟨old, h.changes.1.readText List.not_mem_nil hold, Text.sameLines_iff.mp hsame⟩

end FileTree

/-! ### Rendering -/

namespace Project

variable {p : Project} {readers : SchemaReaders} {files : FileTree} {target : Option String}
  {e : Error}

/-- The errors of the stages for a target: that of its clientset, or those of its outputs. -/
def targetErrors (p : Project) (readers : SchemaReaders) (files : FileTree) (t : TargetSettings) :
    List Error :=
  match (p.loadClientset readers files t).outcome with
  | .error e => [e]
  | .ok cs => t.outputs.filterMap fun o => error? (p.renderOutput t cs o).outcome

/-- The errors of all stages before the first write, in the order in which a run comes to them:
that of selecting the targets, or those of each target. -/
def renderErrors (p : Project) (readers : SchemaReaders) (files : FileTree)
    (target : Option String) : List Error :=
  match p.settings.select target with
  | .error e => [e]
  | .ok targets => targets.flatMap (p.targetErrors readers files)

/-- The error of a target is the first one that its parts give. -/
theorem error?_renderTarget (t : TargetSettings) :
  error? (p.renderTarget readers files t).outcome = (p.targetErrors readers files t).head?
  := by
  rw [renderTarget, Report.outcome_bind, targetErrors]
  cases (p.loadClientset readers files t).outcome with
  | error e => rfl
  | ok cs =>
      change error? (t.outputs.mapM (p.renderOutput t cs)).outcome = _
      rw [outcome_mapM, error?_mapM, List.head?_filterMap]

/-- Rendering fails with the first error of its stages. -/
theorem error?_renderAll :
  error? (p.renderAll readers files target).outcome = (p.renderErrors readers files target).head?
  := by
  rw [renderAll, Report.outcome_bind, renderErrors]
  change error? (p.settings.select target >>= _) = _
  cases p.settings.select target with
  | error e => rfl
  | ok targets =>
      change error? ((targets.mapM (p.renderTarget readers files)
        >>= fun fss => pure fss.flatten : Report _ _).outcome) = _
      rw [Report.outcome_bind, outcome_mapM, List.head?_flatMap]
      simp only [← error?_renderTarget]
      rw [← error?_mapM]
      cases targets.mapM fun t => (p.renderTarget readers files t).outcome <;> rfl

/-- A run whose rendering fails ends with that error and leaves the tree as it is. -/
theorem generate_of_renderAll_error (h : (p.renderAll readers files target).outcome = .error e) :
  (p.generate readers files target).1 = files
    ∧ (p.generate readers files target).2.outcome = .error e
  := by
  rw [generate]
  dsimp only
  rw [h]
  refine ⟨rfl, ?_⟩
  change (p.renderAll readers files target >>= fun _ => pure []).outcome = _
  rw [Report.outcome_bind, h]
  rfl

/-- For all readers of schemas and any formatter of the project: if some stage before the first
write fails, a run ends with the first error of these stages and leaves the tree as it is. If none
does, a run fails only by stopping at a file. In a tree where every entry lies in a directory and
for files that lie apart, the files before that one then hold the lines of their texts, and all
other files, the later ones of the run among them, are as they were. -/
theorem generate_error (p : Project) (readers : SchemaReaders) (files : FileTree)
    (target : Option String) :
  (∀ e errors, p.renderErrors readers files target = e :: errors →
    (p.generate readers files target).1 = files
      ∧ (p.generate readers files target).2.outcome = .error e)
  ∧ (p.renderErrors readers files target = [] →
    ∃ fs, (p.renderAll readers files target).outcome = .ok fs
      ∧ (∀ e, (p.generate readers files target).2.outcome = .error e →
        ∃ done f rest, fs = done ++ f :: rest ∧ files.StopsAt done f e)
      ∧ ∀ done f rest e, fs = done ++ f :: rest → files.StopsAt done f e →
        files.Rooted → FileTree.Apart fs →
        (p.generate readers files target).2.outcome = .error e
        ∧ (∀ g ∈ done, ∃ old, (p.generate readers files target).1.readText g.path = .ok old
          ∧ Text.lineBodies old.toList = Text.lineBodies g.text.toList)
        ∧ (∀ loc ∉ done.map (·.path.location), ∀ c,
          (p.generate readers files target).1.get? loc = some (.file c)
            ↔ files.get? loc = some (.file c))
        ∧ ∀ g ∈ f :: rest, g.path.location ∉ done.map (·.path.location))
  := by
  constructor
  · intro e errors h
    apply generate_of_renderAll_error
    apply error?_eq_some.mp
    rw [error?_renderAll, h]
    rfl
  · intro h
    obtain ⟨fs, hfs⟩ : ∃ fs, (p.renderAll readers files target).outcome = .ok fs := by
      apply error?_eq_none.mp
      rw [error?_renderAll, h]
      rfl
    obtain ⟨htree, houtcome⟩ := generate_of_renderAll hfs
    rw [htree, houtcome]
    refine ⟨fs, hfs, fun _ => FileTree.exists_stopsAt, ?_⟩
    rintro done f rest e rfl hstops hfiles hapart
    obtain ⟨htrees, houtcomes⟩ := hstops.ensureAll rest
    rw [htrees, houtcomes]
    and_intros
    · rfl
    · apply hstops.readText hfiles hapart.of_append
    · intro loc hloc c
      apply hstops.changes.2.file_iff hloc
    · intro g hg hmem
      obtain ⟨g', hg', heq⟩ := List.mem_map.mp hmem
      apply (List.pairwise_append.mp hapart.different).2.2 g' hg' g hg heq

/-- The project with a formatter that leaves only the package clause of a file. -/
def emptying : Project :=
  { twofold with formatter := some fun _ => pure "package client\n" }

/-- The project with a formatter that refuses every text. -/
def refusing : Project :=
  { twofold with formatter := some fun _ => throw (.formatter "refused") }

/-- A tree with the schema of the project and a file where a directory is needed. -/
def blockedFiles : FileTree where
  entries :=
    [(["foo.yaml"], .file (.text "root: a.B\ninterfaces:\n- name: a.B\n")),
      (["traces"], .file (.binary [255]))]

/-- Without the schema, and with a formatter that refuses, nothing is written. Otherwise the first
file is put in place as the formatter gives it, and the file in the way of the second one stays as
it is. -/
theorem generate_error_blocked :
  (∃ e errors, emptying.renderErrors .standard FileTree.empty none = e :: errors
    ∧ (emptying.generate .standard FileTree.empty none).2.outcome = .error e)
  ∧ (∃ errors, refusing.renderErrors .standard blockedFiles none
      = .formatter "refused" :: errors
    ∧ (refusing.generate .standard blockedFiles none).1 = blockedFiles
    ∧ (refusing.generate .standard blockedFiles none).2.outcome = .error (.formatter "refused"))
  ∧ blockedFiles.Rooted ∧ emptying.renderErrors .standard blockedFiles none = []
  ∧ ∃ f g e, (emptying.renderAll .standard blockedFiles none).outcome = .ok [f, g]
    ∧ f.text = "package client\n"
    ∧ blockedFiles.StopsAt [f] g e ∧ FileTree.Apart [f, g]
    ∧ (emptying.generate .standard blockedFiles none).2.outcome = .error e
    ∧ (∃ old, (emptying.generate .standard blockedFiles none).1.readText f.path = .ok old
      ∧ Text.lineBodies old.toList = Text.lineBodies f.text.toList)
    ∧ (emptying.generate .standard blockedFiles none).1.get? ["traces"]
      = some (.file (.binary [255]))
  := by
  refine ⟨?_, ?_, ?_⟩
  · have herrors : emptying.renderErrors .standard FileTree.empty none
        = [.schema (.unreadable ⟨"foo.yaml"⟩ .notFound)] := by decide +kernel
    exact ⟨_, _, herrors, ((generate_error _ _ _ _).1 _ _ herrors).2⟩
  · have herrors : refusing.renderErrors .standard blockedFiles none
        = [.formatter "refused", .formatter "refused"] := by decide +kernel
    exact ⟨_, herrors, (generate_error _ _ _ _).1 _ _ herrors⟩
  · have hfiles : blockedFiles.Rooted := by decide +kernel
    have herrors : emptying.renderErrors .standard blockedFiles none = [] := by decide +kernel
    have hseparate : emptying.Separate := by
      constructor <;> decide +kernel
    have hstops : (emptying.renderAll .standard blockedFiles none).outcome.toOption.map (fun fs =>
        (fs.map (·.path.location), fs.map (·.text),
          (blockedFiles.ensureAll (fs.take 1)).2.outcome.toOption.isSome,
          (fs.drop 1).map fun g =>
            error? ((blockedFiles.ensureAll (fs.take 1)).1.ensure g.path g.text).2.outcome))
        = some ([["metrics", "clientset.generated.go"], ["traces", "clientset.generated.go"]],
          ["package client\n", "package client\n"], true,
          [some (.createDirectory ⟨"traces"⟩ .alreadyThere)]) := by decide +kernel
    obtain ⟨fs, hfs, hstops⟩ := exists_of_toOption hstops
    simp only [Prod.mk.injEq] at hstops
    obtain ⟨hpaths, htexts, hplaced, hfails⟩ := hstops
    obtain ⟨f, g, rfl⟩ : ∃ f g, fs = [f, g] := by
      apply List.length_eq_two.mp
      simpa using congrArg List.length hpaths
    have hstops : blockedFiles.StopsAt [f] g (.createDirectory ⟨"traces"⟩ .alreadyThere) := by
      constructor
      · apply exists_of_isSome hplaced
      · apply error?_eq_some.mp
        apply List.singleton_inj.mp hfails
    have hapart := hseparate.apart hfs
    obtain ⟨fs, hfs', -, hstopped⟩ :=
      (generate_error emptying .standard blockedFiles none).2 herrors
    obtain rfl := Except.ok.inj (hfs.symm.trans hfs')
    obtain ⟨houtcome, hplaced, hother, -⟩ := hstopped [f] g [] _ rfl hstops hfiles hapart
    refine ⟨hfiles, herrors, f, g, _, hfs, (List.cons.inj htexts).1, hstops, hapart, houtcome, ?_,
      ?_⟩
    · apply hplaced f List.mem_cons_self
    · apply (hother ["traces"] _ _).mpr
      · decide +kernel
      · have hf : f.path.location = ["metrics", "clientset.generated.go"] :=
          (List.cons.inj hpaths).1
        simp [hf]

end Project

end ClientWrap
