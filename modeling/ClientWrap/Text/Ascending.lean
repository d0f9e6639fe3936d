/-!
# Ascending lists

Finite sets of strings as strictly ascending lists, in the order of their code points, which is
also the order of their bytes.

Main statements:

* `mem_insertAscending` and `mem_ascending`: insertion adds one element and loses none.
-/

namespace ClientWrap.Text

/-- Insertion into an ascending list; an element already there is not repeated. -/
def insertAscending (s : String) : List String → List String
  | [] => [s]
  | t :: rest =>
    if s < t then s :: t :: rest
    else if s = t then t :: rest
    else t :: insertAscending s rest

/-- The set of the elements of a list. -/
def ascending (l : List String) : List String :=
  l.foldl (fun acc s => insertAscending s acc) []

/-- Insertion adds one element and loses none. -/
theorem mem_insertAscending {s t : String} {l : List String} :
  t ∈ insertAscending s l ↔ t = s ∨ t ∈ l
  := by
  induction l with
  | nil => simp [insertAscending]
  | cons u rest ih =>
    rw [insertAscending]
    split
    · simp
    · split
      · next h => subst h; simp
      · simp [ih]; grind

/-- The insertion of all elements of a list adds these and loses none. -/
theorem mem_foldl_insertAscending {t : String} {l acc : List String} :
  t ∈ l.foldl (fun acc s => insertAscending s acc) acc ↔ t ∈ l ∨ t ∈ acc
  := by
  induction l generalizing acc with
  | nil => simp
  | cons s rest ih => simp [ih, mem_insertAscending]; grind

/-- The set of the elements of a list has the elements of the list. -/
theorem mem_ascending {t : String} {l : List String} :
  t ∈ ascending l ↔ t ∈ l
  := by simp [ascending, mem_foldl_insertAscending]

end ClientWrap.Text
