import ClientWrap.Path
import Mathlib.Data.List.Basic

/-!
# What a path names

A path read from a directory names a place: the names on the way to it from the root, where a dot
names the directory itself wherever it stands. The components of two paths for one place can differ
only in how the paths begin (`components_eq_of_placeFrom`). A path that is joined to a directory
begins as the directory does.
-/

namespace ClientWrap

open ClientWrap.Text

namespace Path

/-- Whether the path begins with a dot for the directory that it is read from. -/
def beginsHere (p : Path) : Bool :=
  !p.isAbsolute && p.segments.head? == some "."

/-- The components after the root or a leading dot. -/
def names (p : Path) : List Component :=
  p.segments.filterMap componentOf?

/-- The place that the path names when it is read from a directory. -/
def placeFrom (p dir : Path) : List Component :=
  ((if p.isAbsolute then [] else dir.components) ++ p.components).filter (· != .here)

variable {dir base p q : Path}

/-- The components of a path are what it begins with, if anything, and its names. -/
theorem components_eq (p : Path) :
  p.components
    = (if p.isAbsolute then [.root] else if p.beginsHere then [.here] else []) ++ p.names
  := by
  rw [components, names, beginsHere]
  cases p.isAbsolute <;> simp

/-- An absolute path is not empty. -/
theorem text_ne_of_isAbsolute (h : p.isAbsolute) :
  p.text ≠ ""
  := by
  intro hempty
  rw [isAbsolute, hempty] at h
  contradiction

/-- An absolute path does not begin with a dot. -/
theorem beginsHere_of_isAbsolute (h : p.isAbsolute) :
  p.beginsHere = false
  := by
  rw [beginsHere, h, Bool.not_true, Bool.false_and]

/-- Inside a path no part stands for the directory itself. -/
theorem ne_here_of_componentOf? {segment : String} {c : Component}
    (h : componentOf? segment = some c) :
  c ≠ .here
  := by
  rw [componentOf?] at h
  split at h
  · contradiction
  · split at h <;> obtain rfl := Option.some.inj h <;> simp

/-- The names of a path do not change when the directory itself is left out. -/
theorem filter_names (p : Path) :
  p.names.filter (· != .here) = p.names
  := by
  apply List.filter_eq_self.mpr
  intro c hc
  obtain ⟨segment, -, h⟩ := List.mem_filterMap.mp hc
  simpa using ne_here_of_componentOf? h

/-- Paths for one place have the same components if they begin alike. -/
theorem components_eq_of_placeFrom (hplace : p.placeFrom dir = q.placeFrom dir)
    (habsolute : p.isAbsolute = q.isAbsolute) (hhere : p.beginsHere = q.beginsHere) :
  p.components = q.components
  := by
  have hlead : ∀ p : Path, p.placeFrom dir
      = ((if p.isAbsolute then [.root] else dir.components).filter (· != .here)) ++ p.names := by
    intro p
    rw [placeFrom, components_eq p, List.filter_append, List.filter_append, filter_names]
    cases p.isAbsolute <;> cases p.beginsHere <;> simp
  rw [hlead, hlead, habsolute] at hplace
  rw [components_eq, components_eq, habsolute, hhere, List.append_cancel_left hplace]

/-! ### Joining -/

/-- A joined path is absolute exactly if one of the two paths is. -/
theorem isAbsolute_join (base q : Path) :
  (base.join q).isAbsolute = (q.isAbsolute || base.isAbsolute)
  := by
  rw [join]
  split
  · next hq => simp [hq]
  · next hq =>
      rw [Bool.eq_false_iff.mpr hq, Bool.false_or]
      cases hbase : base.text.toList with
      | nil =>
          have hempty : base.text = "" := String.toList_inj.mp hbase
          rw [if_pos (Or.inl hempty)]
          simp_all [isAbsolute]
      | cons c cs => split <;> simp [isAbsolute, hbase]

/-- A relative path joined to a directory has the first part of the directory. -/
theorem head?_segments_join (hbase : base.text ≠ "") (hq : q.isAbsolute = false) :
  (base.join q).segments.head? = base.segments.head?
  := by
  have hhead : ∀ s t : List Char, ((s.splitOn '/' ++ t.splitOn '/').map String.ofList).head?
      = ((s.splitOn '/').map String.ofList).head? := by
    intro s t
    rw [List.map_append, List.head?_append_of_ne_nil]
    simp
  rw [join, if_neg (by simp [hq])]
  split
  · next h =>
      have hlast := h.resolve_left hbase
      obtain ⟨s, hs⟩ := List.getLast?_eq_some_iff.mp hlast
      simp only [segments, String.toList_append, hs, List.append_assoc, List.singleton_append]
      rw [List.splitOn_append_cons_self, List.splitOn_append_cons_self, hhead, hhead]
  · simp only [segments, String.toList_append, List.append_assoc]
    change (((base.text.toList ++ '/' :: q.text.toList).splitOn '/').map String.ofList).head? = _
    rw [List.splitOn_append_cons_self, hhead]

/-- A relative path joined to a base begins with a dot exactly if the base does. -/
theorem beginsHere_join (hbase : base.text ≠ "") (hq : q.isAbsolute = false) :
  (base.join q).beginsHere = base.beginsHere
  := by
  rw [beginsHere, beginsHere, isAbsolute_join, hq, Bool.false_or, head?_segments_join hbase hq]

/-- A path joined to a base is not empty. -/
theorem text_join_ne (hbase : base.text ≠ "") (q : Path) :
  (base.join q).text ≠ ""
  := by
  rw [join]
  split
  · next hq => apply text_ne_of_isAbsolute hq
  · split <;> simp [hbase]

end Path

end ClientWrap
