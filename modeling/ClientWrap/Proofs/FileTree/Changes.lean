import ClientWrap.Project.Emit
import ClientWrap.Proofs.FileTree.Following

/-!
# What changes in a tree

Making directories and writing files leave the directories of a tree in place, and apart from the
files that are written only directories are added (`FileTree.Changes`). A file that is put in place
is up to date afterwards (`FileTree.status_ensure`), and whether a file at another place is up to
date stays as it was (`FileTree.Changes.status_eq`).
-/

namespace ClientWrap.FileTree

open ClientWrap.Path

variable {t t' t'' : FileTree} {p q : Path} {loc : Location} {locs locs' : List Location}
  {n : String}

/-! ### Single operations -/

/-- A place without a directory is not one of the fixed ones, which always have one. -/
theorem isFixed_of_get? {e : Option Entry} (h : t.get? loc = e) (he : e ≠ some .directory) :
  isFixed loc = false
  := by
  apply Bool.eq_false_iff.mpr
  intro hfixed
  rw [get?_of_isFixed hfixed] at h
  apply he h.symm

/-- A path names a file exactly if it ends in a name under which its directory has the file. -/
theorem stat_eq_ok_file {c : Contents} :
  t.stat p = .ok (.file c)
    ↔ ∃ loc n, t.holder p = .ok (loc, some n) ∧ t.get? (loc ++ [n]) = some (.file c)
      ∧ ¬ endsOpen p
  := by
  rw [stat, Outcome.bind_eq_ok]
  constructor
  · rintro ⟨⟨loc, name⟩, hholder, h⟩
    dsimp only at h
    split at h
    · cases Except.ok.inj h
    · next n =>
        split at h
        · contradiction
        · next c' hc =>
            split at h
            · contradiction
            · next hopen =>
                obtain ⟨rfl⟩ := Except.ok.inj h
                exact ⟨loc, n, hholder, hc, hopen⟩
        · cases Except.ok.inj h
  · rintro ⟨loc, n, hholder, hc, hopen⟩
    refine ⟨_, hholder, ?_⟩
    dsimp only
    rw [hc]
    dsimp only
    rw [if_neg hopen]
    rfl

/-- A text is read exactly if it is in a file that the path names. -/
theorem readText_eq_ok {text : String} :
  t.readText p = .ok text
    ↔ ∃ loc n, t.holder p = .ok (loc, some n) ∧ t.get? (loc ++ [n]) = some (.file (.text text))
      ∧ ¬ endsOpen p
  := by
  rw [← stat_eq_ok_file, readText, Outcome.bind_eq_ok]
  constructor
  · rintro ⟨e, he, h⟩
    split at h
    · contradiction
    · contradiction
    · obtain rfl := Except.ok.inj h
      apply he
  · intro h
    exact ⟨_, h, rfl⟩

/-- Writing succeeds exactly if the path ends in a name that stands for no directory, and puts a
file there. -/
theorem write_eq_ok {c : Contents} :
  t.write p c = .ok t'
    ↔ ∃ loc n, t.holder p = .ok (loc, some n) ∧ t.get? (loc ++ [n]) ≠ some .directory
      ∧ ¬ endsOpen p ∧ t' = t.put (loc ++ [n]) (.file c)
  := by
  rw [write, Outcome.bind_eq_ok]
  constructor
  · rintro ⟨⟨loc, name⟩, hholder, h⟩
    dsimp only at h
    split at h
    · contradiction
    · next n =>
        use loc, n, hholder
        split at h
        · contradiction
        all_goals
          next he =>
            split at h
            · contradiction
            · next hopen =>
                rw [he]
                exact ⟨by simp, hopen, (Except.ok.inj h).symm⟩
  · rintro ⟨loc, n, hholder, hdir, hopen, rfl⟩
    refine ⟨_, hholder, ?_⟩
    dsimp only
    split
    · next he => apply absurd he hdir
    all_goals
      rw [if_neg hopen]
      rfl

/-- A directory is made exactly if the path ends in a name that is free. -/
theorem makeDirectory_eq_ok :
  t.makeDirectory p = .ok t'
    ↔ ∃ loc n, t.holder p = .ok (loc, some n) ∧ t.get? (loc ++ [n]) = none
      ∧ t' = t.put (loc ++ [n]) .directory
  := by
  rw [makeDirectory, Outcome.bind_eq_ok]
  constructor
  · rintro ⟨⟨loc, name⟩, hholder, h⟩
    cases name with
    | none => contradiction
    | some n =>
        dsimp only at h
        split at h
        · contradiction
        · next hnone => exact ⟨loc, n, hholder, hnone, (Except.ok.inj h).symm⟩
  · rintro ⟨loc, n, hholder, hnone, rfl⟩
    refine ⟨_, hholder, ?_⟩
    dsimp only
    rw [hnone]
    rfl

/-! ### Changes -/

/-- From the first tree to the second, the directories stay, and away from the given places nothing
changes but that directories are added. -/
structure Changes (t : FileTree) (locs : List Location) (t' : FileTree) : Prop where
  rooted : t.Rooted → t'.Rooted
  directory : ∀ l, t.get? l = some .directory → t'.get? l = some .directory
  other : ∀ l ∉ locs, t'.get? l = t.get? l ∨ t.get? l = none ∧ t'.get? l = some .directory

namespace Changes

/-- Nothing changes from a tree to itself. -/
theorem refl (t : FileTree) :
  t.Changes locs t
  := ⟨id, fun _ => id, fun _ _ => Or.inl rfl⟩

/-- Fewer places change than are allowed to. -/
theorem mono (h : t.Changes locs t') (hsub : locs ⊆ locs') :
  t.Changes locs' t'
  := by
  refine ⟨h.rooted, h.directory, ?_⟩
  intro l hl
  apply h.other
  intro hmem
  apply hl (hsub hmem)

/-- Changes after changes are changes. -/
theorem trans (h : t.Changes locs t') (h' : t'.Changes locs t'') :
  t.Changes locs t''
  := by
  refine ⟨h'.rooted ∘ h.rooted, fun l => h'.directory l ∘ h.directory l, ?_⟩
  intro l hl
  have hfirst := h.other l hl
  have hsecond := h'.other l hl
  grind

/-- Away from the given places the files are the same. -/
theorem file_iff (h : t.Changes locs t') {l : Location} (hl : l ∉ locs) {c : Contents} :
  t'.get? l = some (.file c) ↔ t.get? l = some (.file c)
  := by
  rcases h.other l hl with heq | ⟨hnone, hdir⟩
  · rw [heq]
  · simp [hnone, hdir]

end Changes

/-- An entry that is put into a directory where there is none. -/
theorem changes_put (hholder : t.holder p = .ok (loc, some n))
    (hn : t.get? (loc ++ [n]) ≠ some .directory) (e : Entry) :
  t.Changes [loc ++ [n]] (t.put (loc ++ [n]) e)
  := by
  have hget := fun l => t.get?_put (loc ++ [n]) l e (isFixed_of_get? rfl hn)
  constructor
  · intro ht l m e' he'
    rw [hget] at he' ⊢
    have hdir : t.get? l = some .directory := by
      split at he'
      · next heq =>
          obtain ⟨rfl, -⟩ := List.append_inj' heq rfl
          apply ht.get?_of_holder hholder
      · apply ht _ _ _ he'
    rw [if_neg, hdir]
    rintro rfl
    apply hn hdir
  · intro l hl
    rw [hget, if_neg, hl]
    rintro rfl
    apply hn hl
  · intro l hl
    rw [hget, if_neg (by simpa using hl)]
    apply Or.inl rfl

/-- Making a directory changes no file. -/
theorem changes_makeDirectory (h : t.makeDirectory p = .ok t') :
  t.Changes [] t'
  := by
  obtain ⟨loc, n, hholder, hnone, rfl⟩ := makeDirectory_eq_ok.mp h
  have hchanges := changes_put hholder (by simp [hnone]) .directory
  refine ⟨hchanges.rooted, hchanges.directory, ?_⟩
  intro l _
  by_cases hl : l = loc ++ [n]
  · right
    rw [hl, get?_put _ _ _ _ (isFixed_of_get? hnone (by simp)), if_pos rfl]
    exact ⟨hnone, rfl⟩
  · apply hchanges.other l (by simpa using hl)

/-- Making directories changes no file, whether or not all of them can be made. -/
theorem changes_makeAll (t : FileTree) (paths : List Path) :
  t.Changes [] (t.makeAll paths).1
  := by
  induction paths with
  | nil => apply Changes.refl
  | cons p above ih =>
      rw [makeAll]
      split
      · next t₁ h => apply changes_makeDirectory h
      · split
        · next t₁ e h =>
            rw [h] at ih
            apply ih
        · next t₁ h =>
            rw [h] at ih
            split
            · next t₂ h' => apply ih.trans (changes_makeDirectory h')
            · apply ih
      · apply Changes.refl

/-- Making the directory of a path changes no file. -/
theorem changes_makeHolder (t : FileTree) (p : Path) :
  t.Changes [] (t.makeHolder p).1
  := by
  rw [makeHolder]
  split
  · apply Changes.refl
  · split
    · apply Changes.refl
    · apply changes_makeAll

/-! ### Files that are up to date -/

section

variable {text : String} {b : Bool}

/-- A file that a path leads to can still be read. -/
theorem Changes.readText (h : t.Changes locs t') (hq : q.location ∉ locs)
    (hread : t.readText q = .ok text) :
  t'.readText q = .ok text
  := by
  obtain ⟨loc, n, hholder, hfile, hopen⟩ := readText_eq_ok.mp hread
  rw [location_of_holder hholder] at hq
  exact readText_eq_ok.mpr
    ⟨loc, n, holder_mono h.directory hholder, (h.file_iff hq).mpr hfile, hopen⟩

/-- A text that is written can be read. -/
theorem readText_write (h : t.write p (.text text) = .ok t') :
  t'.readText p = .ok text
  := by
  obtain ⟨loc, n, hholder, hn, hopen, rfl⟩ := write_eq_ok.mp h
  have hchanges := changes_put hholder hn (.file (.text text))
  apply readText_eq_ok.mpr ⟨loc, n, holder_mono hchanges.directory hholder, ?_, hopen⟩
  rw [get?_put _ _ _ _ (isFixed_of_get? rfl hn), if_pos rfl]

/-- If the path never goes up, no other file can be read instead: the file was there before the
change, and so were the directories that lead to it. -/
theorem Changes.readText_iff (h : t.Changes locs t') (ht : t.Rooted) (hup : q.NeverUp)
    (hq : q.location ∉ locs) :
  t'.readText q = .ok text ↔ t.readText q = .ok text
  := by
  constructor
  · intro hread
    obtain ⟨loc, n, hholder, hfile, hopen⟩ := readText_eq_ok.mp hread
    rw [location_of_holder hholder] at hq
    have hfile := (h.file_iff hq).mp hfile
    have hholder := ht.holder_of_get? hup hholder (ht _ _ _ hfile)
    exact readText_eq_ok.mpr ⟨loc, n, hholder, hfile, hopen⟩
  · apply h.readText hq

/-- A file away from the changes has the status that it had. -/
theorem Changes.status_eq (h : t.Changes locs t') (ht : t.Rooted) (hup : q.NeverUp)
    (hq : q.location ∉ locs) :
  t'.status q text = t.status q text
  := by
  have hread : ∀ old, t'.readText q = .ok old ↔ t.readText q = .ok old :=
    fun old => h.readText_iff ht hup hq
  rw [status, status]
  cases hold : t.readText q with
  | ok old => rw [(hread old).mpr hold]
  | error _ =>
      cases hnew : t'.readText q with
      | ok old =>
          rw [(hread old).mp hnew] at hold
          contradiction
      | error _ => rfl

/-- A file is up to date exactly if it can be read and its text agrees with the other one up to the
ends of lines. -/
theorem status_eq_upToDate :
  t.status p text = .upToDate ↔ ∃ old, t.readText p = .ok old ∧ Text.sameLines old text
  := by
  rw [status]
  cases t.readText p with
  | error _ => simp
  | ok old => simp

/-- What putting a file in place does when it succeeds: nothing if the file is up to date, and
otherwise a write to its directory. -/
theorem ensure_eq_ok (h : (t.ensure p text).2.outcome = .ok b) :
  b = false ∧ t.status p text = .upToDate ∧ (t.ensure p text).1 = t
    ∨ b = true ∧ t.status p text ≠ .upToDate
      ∧ (t.makeHolder p).1.write p (.text text) = .ok (t.ensure p text).1
  := by
  rw [ensure] at h ⊢
  split at h
  · next hstatus =>
      rw [if_pos hstatus]
      exact Or.inl ⟨(Except.ok.inj h).symm, hstatus, rfl⟩
  · next hstatus =>
      rw [if_neg hstatus]
      right
      split at h
      · contradiction
      · next t₁ hmake =>
          split at h
          · contradiction
          · next t₂ hwrite =>
              rw [hmake]
              dsimp only
              rw [hwrite]
              exact ⟨(Except.ok.inj h).symm, hstatus, rfl⟩

/-- A file that is up to date is left as it is. -/
theorem ensure_of_upToDate (h : t.status p text = .upToDate) :
  (t.ensure p text).1 = t ∧ (t.ensure p text).2.outcome = .ok false
  := by
  rw [ensure, if_pos h]
  exact ⟨rfl, rfl⟩

/-- Putting a file in place changes no other file. -/
theorem changes_ensure (h : (t.ensure p text).2.outcome = .ok b) :
  t.Changes [p.location] (t.ensure p text).1
  := by
  rcases ensure_eq_ok h with ⟨-, -, heq⟩ | ⟨-, -, hwrite⟩
  · rw [heq]
    apply Changes.refl
  · obtain ⟨loc, n, hholder, hn, -, heq⟩ := write_eq_ok.mp hwrite
    rw [heq, location_of_holder hholder]
    apply ((changes_makeHolder t p).mono (List.nil_subset _)).trans
    apply changes_put hholder hn

/-- A file that is put in place is up to date. -/
theorem status_ensure (h : (t.ensure p text).2.outcome = .ok b) :
  (t.ensure p text).1.status p text = .upToDate
  := by
  rcases ensure_eq_ok h with ⟨-, hstatus, heq⟩ | ⟨-, -, hwrite⟩
  · rw [heq, hstatus]
  · exact status_eq_upToDate.mpr ⟨text, readText_write hwrite, Text.sameLines_refl text⟩

end

end ClientWrap.FileTree
