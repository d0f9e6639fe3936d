import ClientWrap.FileTree
import ClientWrap.Proofs.Outcome
import Mathlib.Data.List.Induction
import Mathlib.Data.List.TakeWhile

/-!
# Following paths

A path leads to a place that depends on the path alone (`Path.location`); following it in a tree
succeeds if there are directories on the way (`FileTree.holder_eq_ok`). In a tree where every entry
lies in a directory, a path that never goes up can be followed as soon as the directory that it ends
in is there (`FileTree.Rooted.holder_of_get?`).
-/

namespace ClientWrap

namespace Path

/-- Where a part of a path leads to from a place. -/
def stepFrom (loc : Location) (segment : String) : Location :=
  match componentOf? segment with
  | some (.name n) => loc ++ [n]
  | some .up => FileTree.above loc
  | _ => loc

/-- The place that the path leads to, whatever is there. -/
def location (p : Path) : Location :=
  p.segments.foldl stepFrom (FileTree.startOf p)

/-- The parts of the path before the name that it ends in, and that name. If the path does not end
in a name, all its parts. Slashes at the end are looked through. -/
def ending (p : Path) : List String × Option String :=
  match p.segments.reverse.dropWhile (· == "") with
  | [] => ([], none)
  | last :: before =>
    match componentOf? last with
    | some (.name n) => (before.reverse, some n)
    | _ => ((last :: before).reverse, none)

/-- The path never leads to the directory above. -/
def NeverUp (p : Path) : Prop :=
  .up ∉ p.components

instance : DecidablePred NeverUp :=
  fun p => inferInstanceAs (Decidable (.up ∉ p.components))

variable {p : Path}

/-- Empty parts lead nowhere else. -/
theorem stepFrom_of_silent (loc : Location) {segments : List String}
    (h : ∀ s ∈ segments, s = "") :
  segments.foldl stepFrom loc = loc
  := by
  induction segments with
  | nil => rfl
  | cons s segments ih =>
      obtain ⟨rfl, hsegments⟩ := List.forall_mem_cons.mp h
      rw [List.foldl_cons, show stepFrom loc "" = loc from rfl, ih hsegments]

/-- The place of a path is where the parts before its ending lead to, and the name that it ends
in. -/
theorem location_eq (p : Path) :
  p.location = p.ending.1.foldl stepFrom (FileTree.startOf p) ++ p.ending.2.toList
  := by
  have hsegments : p.segments = (p.segments.reverse.dropWhile (· == "")).reverse
      ++ (p.segments.reverse.takeWhile (· == "")).reverse := by
    rw [← List.reverse_append, List.takeWhile_append_dropWhile, List.reverse_reverse]
  have hempty : ∀ s ∈ (p.segments.reverse.takeWhile (· == "")).reverse, s = "" := by
    intro s hs
    have := List.mem_takeWhile_imp (List.mem_reverse.mp hs)
    simpa using this
  rw [location, hsegments, List.foldl_append, stepFrom_of_silent _ hempty, ending]
  split
  · next h =>
      rw [h]
      simp
  · next last before h =>
      rw [h]
      split
      · next n hn => simp [stepFrom, hn]
      · simp

/-- A path that never goes up has no part that leads up. -/
theorem NeverUp.of_mem_segments (h : p.NeverUp) {s : String} (hs : s ∈ p.segments) :
  componentOf? s ≠ some .up
  := by
  intro hup
  apply h
  rw [components]
  apply List.mem_append_right
  apply List.mem_filterMap.mpr ⟨s, hs, hup⟩

/-- The parts before the ending are parts of the path. -/
theorem mem_segments_of_mem_ending {s : String} (hs : s ∈ p.ending.1) :
  s ∈ p.segments
  := by
  have hmem : ∀ l, p.segments.reverse.dropWhile (· == "") = l → ∀ s ∈ l, s ∈ p.segments := by
    rintro l rfl s hs
    exact List.mem_reverse.mp (List.dropWhile_sublist _ |>.subset hs)
  rw [ending] at hs
  split at hs
  · contradiction
  · next last before h =>
      split at hs
      · apply hmem _ h s (List.mem_cons_of_mem _ (List.mem_reverse.mp hs))
      · apply hmem _ h s (List.mem_reverse.mp hs)

/-- Parts that do not go up lead to a place below. -/
theorem prefix_foldl_stepFrom {segments : List String}
    (h : ∀ s ∈ segments, componentOf? s ≠ some .up) (loc : Location) :
  loc <+: segments.foldl stepFrom loc
  := by
  induction segments generalizing loc with
  | nil => apply List.prefix_rfl
  | cons s segments ih =>
      obtain ⟨hs, hsegments⟩ := List.forall_mem_cons.mp h
      have hstep : loc <+: stepFrom loc s := by
        rw [stepFrom]
        split
        · apply List.prefix_append
        · next hup => apply absurd hup hs
        · apply List.prefix_rfl
      apply hstep.trans (ih hsegments _)

end Path

namespace FileTree

open ClientWrap.Path

variable {t t' : FileTree} {p : Path} {loc loc' : Location} {name : Option String}
  {segments : List String}

/-- Every entry of the tree lies in a directory. -/
def Rooted (t : FileTree) : Prop :=
  ∀ loc n e, t.get? (loc ++ [n]) = some e → t.get? loc = some .directory

/-- A fixed place has a directory. -/
theorem get?_of_isFixed (h : isFixed loc) :
  t.get? loc = some .directory
  := if_pos h

/-- What lies above a fixed place is fixed too. -/
theorem isFixed_of_append {n : String} (h : isFixed (loc ++ [n])) :
  isFixed loc
  := by
  rw [isFixed, Bool.or_eq_true, List.all_append, Bool.and_eq_true, beq_iff_eq] at h
  rw [isFixed, Bool.or_eq_true]
  left
  rcases h with ⟨hall, -⟩ | hroot
  · apply hall
  · have hempty : loc ++ [n] = [] ++ ["/"] := hroot
    obtain ⟨rfl, -⟩ := List.append_inj' hempty rfl
    rfl

/-- Every entry lies in a directory exactly if the places above the entries that are listed have
one. -/
theorem rooted_iff :
  t.Rooted ↔ ∀ e ∈ t.entries, isFixed e.1 ∨ t.get? e.1.dropLast = some .directory
  := by
  constructor
  · rintro ht ⟨loc, e⟩ he
    by_cases hfixed : isFixed loc
    · apply Or.inl hfixed
    · right
      have hne : loc ≠ [] := by
        rintro rfl
        apply hfixed rfl
      have hsome : ∃ e', t.get? loc = some e' := by
        rw [get?, if_neg hfixed, ← Option.isSome_iff_exists, Option.isSome_map,
          List.find?_isSome]
        exact ⟨_, he, beq_self_eq_true loc⟩
      obtain ⟨e', he'⟩ := hsome
      rw [← List.dropLast_concat_getLast hne] at he'
      apply ht _ _ _ he'
  · intro h loc n e he
    by_cases hfixed : isFixed (loc ++ [n])
    · apply get?_of_isFixed (isFixed_of_append hfixed)
    · rw [get?, if_neg hfixed] at he
      obtain ⟨⟨loc', e'⟩, hfind, -⟩ := Option.map_eq_some_iff.mp he
      have hmem := List.mem_of_find?_eq_some hfind
      have hloc := List.find?_some hfind
      rw [beq_iff_eq] at hloc
      have hdir := h _ hmem
      rw [hloc, List.dropLast_concat] at hdir
      apply hdir.resolve_left hfixed

instance : DecidablePred Rooted :=
  fun _ => decidable_of_iff _ rooted_iff.symm

/-- A path starts at a directory. -/
theorem get?_startOf (t : FileTree) (p : Path) :
  t.get? (startOf p) = some .directory
  := by
  rw [startOf]
  split <;> exact get?_of_isFixed rfl

/-! ### Entering directories -/

/-- A part of a path is entered exactly if it is no name or the name of a directory, and it leads to
its place. -/
theorem enter_eq_ok {s : String} :
  t.enter loc s = .ok loc'
    ↔ loc' = stepFrom loc s
      ∧ ∀ n, componentOf? s = some (.name n) → t.get? (loc ++ [n]) = some .directory
  := by
  rw [enter, stepFrom]
  split
  · next n hn =>
      rw [hn]
      simp only [Option.some.injEq, Component.name.injEq, forall_eq']
      cases t.get? (loc ++ [n]) with
      | none => simp
      | some e => cases e <;> simp [eq_comm]
  · next hn => simp [hn, eq_comm]
  · next hname hup =>
      have : ∀ n, componentOf? s ≠ some (.name n) := hname
      simp_all [eq_comm]

/-- Parts are entered exactly if the first one is and then the others from there. -/
theorem foldlM_enter_cons_eq_ok {s : String} :
  (s :: segments).foldlM t.enter loc = .ok loc'
    ↔ (∀ n, componentOf? s = some (.name n) → t.get? (loc ++ [n]) = some .directory)
      ∧ segments.foldlM t.enter (stepFrom loc s) = .ok loc'
  := by
  rw [List.foldlM_cons, Outcome.bind_eq_ok]
  simp only [enter_eq_ok]
  constructor
  · rintro ⟨loc₁, ⟨rfl, hs⟩, h⟩
    exact ⟨hs, h⟩
  · rintro ⟨hs, h⟩
    exact ⟨_, ⟨rfl, hs⟩, h⟩

/-- Where following parts of a path ends does not depend on the tree. -/
theorem eq_foldl_of_foldlM (h : segments.foldlM t.enter loc = .ok loc') :
  loc' = segments.foldl stepFrom loc
  := by
  induction segments generalizing loc with
  | nil => apply (Except.ok.inj h).symm
  | cons s segments ih =>
      obtain ⟨-, h⟩ := foldlM_enter_cons_eq_ok.mp h
      apply ih h

/-- Parts of a path can be followed in every tree with more directories. -/
theorem foldlM_enter_mono (hdir : ∀ l, t.get? l = some .directory → t'.get? l = some .directory)
    (h : segments.foldlM t.enter loc = .ok loc') :
  segments.foldlM t'.enter loc = .ok loc'
  := by
  induction segments generalizing loc with
  | nil => apply h
  | cons s segments ih =>
      obtain ⟨hs, h⟩ := foldlM_enter_cons_eq_ok.mp h
      apply foldlM_enter_cons_eq_ok.mpr
      refine ⟨?_, ih h⟩
      intro n hn
      apply hdir _ (hs n hn)

namespace Rooted

/-- What is above a directory is a directory. -/
theorem get?_above (ht : t.Rooted) (h : t.get? loc = some .directory) :
  t.get? (above loc) = some .directory
  := by
  rw [above]
  split
  · apply h
  · split
    · next hall =>
        apply get?_of_isFixed
        simp [isFixed, hall]
    · next hall =>
        have hne : loc ≠ [] := by
          rintro rfl
          contradiction
        rw [← List.dropLast_concat_getLast hne] at h
        apply ht _ _ _ h

/-- The directories that lead to a directory are there. -/
theorem get?_of_prefix (ht : t.Rooted) (hbelow : loc <+: loc')
    (h : t.get? loc' = some .directory) :
  t.get? loc = some .directory
  := by
  obtain ⟨names, rfl⟩ := hbelow
  induction names using List.reverseRecOn with
  | nil => rwa [List.append_nil] at h
  | append_singleton names n ih =>
      rw [← List.append_assoc] at h
      apply ih (ht _ _ _ h)

/-- Following parts of a path from a directory ends in a directory. -/
theorem get?_of_foldlM (ht : t.Rooted) (hloc : t.get? loc = some .directory)
    (h : segments.foldlM t.enter loc = .ok loc') :
  t.get? loc' = some .directory
  := by
  induction segments generalizing loc with
  | nil =>
      obtain rfl := Except.ok.inj h
      apply hloc
  | cons s segments ih =>
      obtain ⟨hs, h⟩ := foldlM_enter_cons_eq_ok.mp h
      apply ih _ h
      rw [stepFrom]
      split
      · next n hn => apply hs n hn
      · apply ht.get?_above hloc
      · apply hloc

/-- Parts that do not go up can be followed if they lead to a directory. -/
theorem foldlM_enter_eq_ok (ht : t.Rooted) (hup : ∀ s ∈ segments, componentOf? s ≠ some .up)
    (h : t.get? (segments.foldl stepFrom loc) = some .directory) :
  segments.foldlM t.enter loc = .ok (segments.foldl stepFrom loc)
  := by
  induction segments generalizing loc with
  | nil => rfl
  | cons s segments ih =>
      obtain ⟨hs, hsegments⟩ := List.forall_mem_cons.mp hup
      apply foldlM_enter_cons_eq_ok.mpr
      refine ⟨?_, ih hsegments h⟩
      intro n hn
      have hstep := ht.get?_of_prefix (prefix_foldl_stepFrom hsegments _) h
      rwa [stepFrom, hn] at hstep

end Rooted

/-! ### The directory of a path -/

/-- The directory that holds the last name of a path is found by following what stands before the
name. -/
theorem holder_eq_ok :
  t.holder p = .ok (loc, name)
    ↔ p.text ≠ "" ∧ p.ending.1.foldlM t.enter (startOf p) = .ok loc ∧ p.ending.2 = name
  := by
  rw [holder, ending]
  by_cases htext : p.text = ""
  · simp [htext]
  · rw [if_neg htext]
    simp only [htext, ne_eq, not_false_eq_true, true_and]
    cases p.segments.reverse.dropWhile (· == "") with
    | nil => simp [pure, Except.pure]
    | cons last before =>
        have hall : (do
              let loc ← before.reverse.foldlM t.enter (startOf p)
              return (← t.enter loc last, none) : Except FileFault (Location × Option String))
              = .ok (loc, name)
            ↔ (last :: before).reverse.foldlM t.enter (startOf p) = .ok loc ∧ none = name := by
          rw [List.reverse_cons, List.foldlM_append]
          simp only [List.foldlM_cons, List.foldlM_nil, Outcome.bind_eq_ok, pure,
            Except.pure, Except.ok.injEq, Prod.mk.injEq]
          grind
        cases hlast : componentOf? last with
        | none => simpa only [hlast] using hall
        | some c =>
            cases c with
            | name n =>
                simp only [hlast, Outcome.bind_eq_ok, pure, Except.pure, Except.ok.injEq,
                  Prod.mk.injEq]
                grind
            | _ => simpa only [hlast] using hall

/-- The directory that is found for the last name of a path lies where the path leads to. -/
theorem location_of_holder {n : String} (h : t.holder p = .ok (loc, some n)) :
  p.location = loc ++ [n]
  := by
  obtain ⟨-, hloc, hname⟩ := holder_eq_ok.mp h
  rw [location_eq, ← eq_foldl_of_foldlM hloc, hname]
  rfl

/-- A path that leads to a directory still does if directories stay. -/
theorem holder_mono (hdir : ∀ l, t.get? l = some .directory → t'.get? l = some .directory)
    (h : t.holder p = .ok (loc, name)) :
  t'.holder p = .ok (loc, name)
  := by
  obtain ⟨htext, hloc, hname⟩ := holder_eq_ok.mp h
  exact holder_eq_ok.mpr ⟨htext, foldlM_enter_mono hdir hloc, hname⟩

/-- A path leads to a directory that is there. -/
theorem Rooted.get?_of_holder (ht : t.Rooted) (h : t.holder p = .ok (loc, name)) :
  t.get? loc = some .directory
  := by
  obtain ⟨-, hloc, -⟩ := holder_eq_ok.mp h
  apply ht.get?_of_foldlM (t.get?_startOf p) hloc

/-- A path that never goes up can be followed in a tree if it can be followed in some tree and the
directory in which it ends is there. -/
theorem Rooted.holder_of_get? (ht : t.Rooted) (hup : p.NeverUp)
    (h : t'.holder p = .ok (loc, name)) (hloc : t.get? loc = some .directory) :
  t.holder p = .ok (loc, name)
  := by
  obtain ⟨htext, hfollow, hname⟩ := holder_eq_ok.mp h
  obtain rfl := eq_foldl_of_foldlM hfollow
  refine holder_eq_ok.mpr ⟨htext, ?_, hname⟩
  apply ht.foldlM_enter_eq_ok _ hloc
  intro s hs
  apply hup.of_mem_segments (mem_segments_of_mem_ending hs)

end FileTree

end ClientWrap
