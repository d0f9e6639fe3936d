import ClientWrap.Proofs.FileTree.Above
import ClientWrap.Proofs.FileTree.Changes
import ClientWrap.Proofs.Text.LineEnds

/-!
# Putting one file in place

A file that already holds a text, up to the ends of its lines, is left alone. Otherwise the
directories on the way to it are added where they are missing, and then the text is written. If this
fails, no file has changed (`FileTree.ensure_conditional`).
-/

namespace ClientWrap.FileTree

open ClientWrap.Path ClientWrap.Text

variable {t t' t'' : FileTree} {p : Path} {loc : Location} {P P' : Location → Prop} {text : String}
  {e : Error}

/-! ### Added directories -/

/-- The place is as it was, or it was free and is one of the given places where a directory is
added. -/
def AddsAt (t : FileTree) (P : Location → Prop) (t' : FileTree) (loc : Location) : Prop :=
  t'.get? loc = t.get? loc ∨ t.get? loc = none ∧ t'.get? loc = some .directory ∧ P loc

namespace AddsAt

/-- From a tree to itself no directory is added. -/
theorem refl (t : FileTree) :
  t.AddsAt P t loc
  := Or.inl rfl

/-- A directory is added at one of more places if it is at one of fewer. -/
theorem mono (h : t.AddsAt P t' loc) (hP : ∀ loc, P loc → P' loc) :
  t.AddsAt P' t' loc
  := h.imp_right fun ⟨hnone, hdir, hloc⟩ => ⟨hnone, hdir, hP loc hloc⟩

/-- Directories that are added one after another are added. -/
theorem trans (h : t.AddsAt P t' loc) (h' : t'.AddsAt P t'' loc) :
  t.AddsAt P t'' loc
  := by
  rcases h' with heq | ⟨hnone, hdir, hloc⟩
  · rw [AddsAt, heq]
    apply h
  · rcases h with heq | ⟨-, hdir', -⟩
    · exact Or.inr ⟨heq ▸ hnone, hdir, hloc⟩
    · rw [hdir'] at hnone
      contradiction

end AddsAt

/-- Making a directory adds it at its place. -/
theorem addsAt_makeDirectory (h : t.makeDirectory p = .ok t') (loc : Location) :
  t.AddsAt (· = p.location) t' loc
  := by
  obtain ⟨above, n, hholder, hnone, rfl⟩ := makeDirectory_eq_ok.mp h
  rw [AddsAt, get?_put _ _ _ _ (isFixed_of_get? hnone (by simp)), location_of_holder hholder]
  split
  · next hloc => exact Or.inr ⟨hloc ▸ hnone, rfl, hloc⟩
  · exact Or.inl rfl

/-- Directories are made only where the paths of the list lead. -/
theorem addsAt_makeAll (t : FileTree) (paths : List Path) (loc : Location) :
  t.AddsAt (fun loc => ∃ q ∈ paths, loc = q.location) (t.makeAll paths).1 loc
  := by
  induction paths generalizing t with
  | nil => apply AddsAt.refl
  | cons p above ih =>
      have hmake : ∀ {t t' : FileTree}, t.makeDirectory p = .ok t' →
          t.AddsAt (fun loc => ∃ q ∈ p :: above, loc = q.location) t' loc := by
        intro t t' h
        apply (addsAt_makeDirectory h loc).mono
        rintro loc rfl
        exact ⟨p, List.mem_cons_self, rfl⟩
      have habove : t.AddsAt (fun loc => ∃ q ∈ p :: above, loc = q.location)
          (t.makeAll above).1 loc := by
        apply (ih t).mono
        rintro loc ⟨q, hq, rfl⟩
        exact ⟨q, List.mem_cons_of_mem p hq, rfl⟩
      rw [makeAll]
      split
      · next h => apply hmake h
      · split
        · next h =>
            rw [h] at habove
            apply habove
        · next h =>
            rw [h] at habove
            split
            · next h' => apply habove.trans (hmake h')
            · apply habove
      · apply AddsAt.refl

/-- Making the directory of a path adds directories at places that the path passes. -/
theorem addsAt_makeHolder (t : FileTree) (p : Path) (loc : Location) :
  t.AddsAt p.Passes (t.makeHolder p).1 loc
  := by
  rw [makeHolder]
  split
  · apply AddsAt.refl
  · next parent hparent =>
      split
      · apply AddsAt.refl
      · next htext =>
          apply (addsAt_makeAll t parent.ancestors loc).mono
          rintro loc ⟨q, hq, rfl⟩
          apply passes_of_mem_ancestors hparent htext hq

/-- Writing changes what stands where the path leads, which is no directory, and nothing else. -/
theorem get?_of_write {c : Contents} (h : t.write p c = .ok t') :
  t.get? p.location ≠ some .directory ∧ t'.get? p.location = some (.file c)
    ∧ ∀ loc ≠ p.location, t'.get? loc = t.get? loc
  := by
  obtain ⟨above, n, hholder, hdir, -, rfl⟩ := write_eq_ok.mp h
  have hget := fun loc => t.get?_put (above ++ [n]) loc (.file c) (isFixed_of_get? rfl hdir)
  rw [location_of_holder hholder]
  refine ⟨hdir, ?_, ?_⟩
  · rw [hget, if_pos rfl]
  · intro loc hloc
    rw [hget, if_neg hloc]

/-! ### Failures -/

/-- If the directory of a path cannot be made, this is the error. -/
theorem makeHolder_eq_error (h : (t.makeHolder p).2 = .error e) :
  ∃ parent fault, p.parent? = some parent ∧ e = .createDirectory parent fault
  := by
  rw [makeHolder] at h
  split at h
  · contradiction
  · next parent hparent =>
      split at h
      · contradiction
      · dsimp only at h
        cases hmake : (t.makeDirectories parent).2 with
        | ok _ =>
            rw [hmake] at h
            contradiction
        | error fault =>
            rw [hmake] at h
            exact ⟨parent, fault, hparent, (Except.error.inj h).symm⟩

/-- A file that cannot be put in place is one whose directory cannot be made or that cannot be
written. -/
theorem ensure_eq_error (h : (t.ensure p text).2.outcome = .error e) :
  (t.ensure p text).1 = (t.makeHolder p).1
    ∧ ((t.makeHolder p).2 = .error e ∨ ∃ fault, e = .createFile p fault)
  := by
  rw [ensure] at h ⊢
  split at h
  · contradiction
  · next hstatus =>
      rw [if_neg hstatus]
      split at h
      · next hmake =>
          obtain rfl := Except.error.inj h
          rw [hmake]
          exact ⟨rfl, Or.inl rfl⟩
      · next hmake =>
          rw [hmake]
          split at h
          · next fault hwrite =>
              obtain rfl := Except.error.inj h
              exact ⟨rfl, Or.inr ⟨fault, rfl⟩⟩
          · contradiction

/-! ### The result -/

/-- Putting a file in place says that nothing was written exactly if the file holds the text up to
the ends of its lines; then the tree stays as it is. If the file is written, it holds the text, and
nothing else changes but that directories are added which the path passes. If it cannot be, such
directories are all that is added, and the error names the directory or the file. Afterwards a file
that is in place is up to date, and to put it in place again does nothing. -/
theorem ensure_conditional (t : FileTree) (p : Path) (text : String) :
  ((t.ensure p text).2.outcome = .ok false
      ↔ ∃ old, t.readText p = .ok old ∧ lineBodies old.toList = lineBodies text.toList)
    ∧ ((t.ensure p text).2.outcome = .ok false → (t.ensure p text).1 = t)
    ∧ ((t.ensure p text).2.outcome = .ok true →
        (t.ensure p text).1.readText p = .ok text
        ∧ (t.ensure p text).1.get? p.location = some (.file (.text text))
        ∧ t.get? p.location ≠ some .directory
        ∧ ∀ loc ≠ p.location, t.AddsAt p.Passes (t.ensure p text).1 loc)
    ∧ (∀ e, (t.ensure p text).2.outcome = .error e →
        (∀ loc, t.AddsAt p.Passes (t.ensure p text).1 loc)
        ∧ ((∃ parent fault, p.parent? = some parent ∧ e = .createDirectory parent fault)
          ∨ ∃ fault, e = .createFile p fault))
    ∧ ∀ b, (t.ensure p text).2.outcome = .ok b →
        (t.ensure p text).1.status p text = .upToDate
        ∧ ((t.ensure p text).1.ensure p text).1 = (t.ensure p text).1
        ∧ ((t.ensure p text).1.ensure p text).2.outcome = .ok false
  := by
  have hstatus : t.status p text = .upToDate
      ↔ ∃ old, t.readText p = .ok old ∧ lineBodies old.toList = lineBodies text.toList := by
    simp only [status_eq_upToDate, sameLines_iff]
  rw [← hstatus]
  refine ⟨⟨?_, ?_⟩, ?_, ?_, ?_, ?_⟩
  · intro h
    rcases ensure_eq_ok h with ⟨-, hsame, -⟩ | ⟨hfalse, -, -⟩
    · apply hsame
    · contradiction
  · intro h
    apply (ensure_of_upToDate h).2
  · intro h
    rcases ensure_eq_ok h with ⟨-, -, htree⟩ | ⟨hfalse, -, -⟩
    · apply htree
    · contradiction
  · intro h
    rcases ensure_eq_ok h with ⟨htrue, -, -⟩ | ⟨-, -, hwrite⟩
    · contradiction
    · obtain ⟨hdir, hfile, hother⟩ := get?_of_write hwrite
      refine ⟨readText_write hwrite, hfile, ?_, ?_⟩
      · intro hbefore
        apply hdir ((changes_makeHolder t p).directory _ hbefore)
      · intro loc hloc
        rw [AddsAt, hother loc hloc]
        apply addsAt_makeHolder
  · intro e h
    obtain ⟨htree, herror⟩ := ensure_eq_error h
    rw [htree]
    exact ⟨addsAt_makeHolder t p, herror.imp_left makeHolder_eq_error⟩
  · intro b h
    have hafter := status_ensure h
    exact ⟨hafter, ensure_of_upToDate hafter⟩

/-- A tree with a file whose lines end in two characters, and a file in the way of a directory. -/
def mixedFiles : FileTree where
  entries :=
    [(["out.go"], .file (.text "package client\r\n")), (["blocker"], .file (.text "")),
      (["a"], .directory)]

/-- A file that differs in its ends of lines only is left alone, another one is written with the
directories on its way, and a third one has a file in its way. -/
theorem ensure_conditional_mixed :
  (mixedFiles.ensure ⟨"out.go"⟩ "package client\n").1 = mixedFiles
    ∧ (mixedFiles.ensure ⟨"./a/../b//out.go"⟩ "x").1.readText ⟨"./a/../b//out.go"⟩ = .ok "x"
    ∧ mixedFiles.AddsAt (Passes ⟨"./a/../b//out.go"⟩)
      (mixedFiles.ensure ⟨"./a/../b//out.go"⟩ "x").1 ["b"]
    ∧ ∃ e, (mixedFiles.ensure ⟨"blocker/sub/out.go"⟩ "x").2.outcome = .error e
      ∧ ∀ loc, mixedFiles.AddsAt (Passes ⟨"blocker/sub/out.go"⟩)
        (mixedFiles.ensure ⟨"blocker/sub/out.go"⟩ "x").1 loc
  := by
  have hsame : (mixedFiles.ensure ⟨"out.go"⟩ "package client\n").2.outcome = .ok false := by
    decide +kernel
  have hwritten : (mixedFiles.ensure ⟨"./a/../b//out.go"⟩ "x").2.outcome = .ok true := by
    decide +kernel
  have hfails : (mixedFiles.ensure ⟨"blocker/sub/out.go"⟩ "x").2.outcome
      = .error (.createDirectory ⟨"blocker/sub"⟩ .notDirectory) := by decide +kernel
  obtain ⟨-, hkept, -⟩ := ensure_conditional mixedFiles ⟨"out.go"⟩ "package client\n"
  obtain ⟨-, -, hdone, -⟩ := ensure_conditional mixedFiles ⟨"./a/../b//out.go"⟩ "x"
  obtain ⟨-, -, -, herror, -⟩ := ensure_conditional mixedFiles ⟨"blocker/sub/out.go"⟩ "x"
  obtain ⟨hread, -, -, hother⟩ := hdone hwritten
  exact ⟨hkept hsame, hread, hother ["b"] (by decide +kernel), _, hfails, (herror _ hfails).1⟩

end ClientWrap.FileTree
