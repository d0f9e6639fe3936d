import ClientWrap.Text.Lines
import Mathlib.Data.List.Basic

/-!
# Line ends

Texts agree up to the two ways of ending a line exactly if they have the same lines once a carriage
return in front of a line feed is left out (`sameLines_iff`). Only one return is, so a text is not
always the same as its normal form: of two returns in front of a line feed the normal form has one,
and the normal form of that has none.
-/

namespace ClientWrap.Text

variable {l s t : List Char}

/-- A line without the carriage return at its end. -/
def withoutReturn (l : List Char) : List Char :=
  if l.getLast? = some '\r' then l.dropLast else l

/-- The lines of a text, those that are ended by a line feed without the carriage return in front of
it. The last line is the one that is not ended. -/
def lineBodies (s : List Char) : List (List Char) :=
  (s.splitOn '\n').dropLast.map withoutReturn ++ (s.splitOn '\n').getLast?.toList

/-- A text without line feeds is its own normal form. -/
theorem unixLines_of_noFeed (h : '\n' ∉ s) :
  unixLines s = s
  := by
  fun_induction unixLines s with
  | case1 => rfl
  | case2 c => rfl
  | case3 c d rest hcd => simp [hcd.2] at h
  | case4 c d rest hcd ih => rw [ih (fun hmem => h (List.mem_cons_of_mem c hmem))]

/-- Only the last character of a line can be the return that is taken away. -/
theorem withoutReturn_cons (c : Char) (hl : l ≠ []) :
  withoutReturn (c :: l) = c :: withoutReturn l
  := by
  rw [withoutReturn, withoutReturn, List.getLast?_cons_of_ne_nil hl,
    List.dropLast_cons_of_ne_nil hl]
  split <;> rfl

/-- Taking a return away adds no characters. -/
theorem not_mem_withoutReturn {c : Char} (h : c ∉ l) :
  c ∉ withoutReturn l
  := by
  rw [withoutReturn]
  split
  · intro hmem
    apply h ((List.dropLast_subset l) hmem)
  · apply h

/-- Of a line that is ended, the carriage return in front of the line feed is left out. -/
theorem unixLines_append (h : '\n' ∉ l) (rest : List Char) :
  unixLines (l ++ '\n' :: rest) = withoutReturn l ++ '\n' :: unixLines rest
  := by
  induction l with
  | nil => cases rest <;> simp [unixLines, withoutReturn]
  | cons c l ih =>
      obtain ⟨hc, hl⟩ := not_or.mp (mt List.mem_cons.mpr h)
      cases l with
      | nil => by_cases hret : c = '\r' <;> cases rest <;> simp [unixLines, withoutReturn, hret]
      | cons d l =>
          have hd : '\n' ≠ d := List.ne_of_not_mem_cons hl
          rw [withoutReturn_cons c (List.cons_ne_nil d l), List.cons_append, List.cons_append,
            unixLines, if_neg (by simp [hd.symm]), ← List.cons_append, ih hl, List.cons_append]

/-- Leaving out the carriage returns of a text leaves them out of its lines. -/
theorem splitOn_unixLines (s : List Char) :
  (unixLines s).splitOn '\n' = lineBodies s
  := by
  by_cases h : '\n' ∈ s
  · obtain ⟨l, rest, rfl, hl⟩ := List.eq_append_cons_of_mem h
    have hrest := List.splitOn_ne_nil '\n' rest
    rw [unixLines_append hl, List.splitOn_append_cons_self_of_not_mem (not_mem_withoutReturn hl),
      splitOn_unixLines rest, lineBodies, lineBodies, List.splitOn_append_cons_self_of_not_mem hl,
      List.dropLast_cons_of_ne_nil hrest, List.getLast?_cons_of_ne_nil hrest, List.map_cons,
      List.cons_append]
  · rw [unixLines_of_noFeed h, lineBodies, List.splitOn_eq_singleton h]
    rfl
termination_by s.length

/-- Two texts agree up to the ways of ending a line exactly if their lines do, for a normal form is
put together again from its lines. -/
theorem sameLines_iff {s t : String} :
  sameLines s t ↔ lineBodies s.toList = lineBodies t.toList
  := by
  rw [sameLines, beq_iff_eq, normalizeNewlines_eq, normalizeNewlines_eq, String.ofList_inj,
    ← splitOn_unixLines, ← splitOn_unixLines]
  constructor
  · intro h
    rw [h]
  · intro h
    have hjoin := congrArg (List.intercalate ['\n']) h
    rwa [List.intercalate_splitOn, List.intercalate_splitOn] at hjoin

end ClientWrap.Text
