import ClientWrap.Proofs.Text.Identifiers
import ClientWrap.Text.Lines
import ClientWrap.Text.Quoted

/-!
# Texts on one line

A text is `OneLine` if it holds no line feed. Lines that are put together are found again if each of
them is on one line (`lines_ofLines`).
-/

namespace ClientWrap.Text

/-- The text holds no line feed. -/
def OneLine (s : String) : Prop :=
  '\n' ∉ s.toList

instance : DecidablePred OneLine :=
  fun s => inferInstanceAs (Decidable ('\n' ∉ s.toList))

/-- A joined text stands on one line exactly if both its parts do. -/
@[simp]
theorem oneLine_append {s t : String} :
  OneLine (s ++ t) ↔ OneLine s ∧ OneLine t
  := by
  rw [OneLine, String.toList_append, List.mem_append, not_or]
  rfl

/-- A text stands on one line if its characters are of a kind that line feeds are not. -/
theorem oneLine_of_forall {s : String} {p : Char → Bool} (hp : p '\n' = false)
    (h : ∀ c ∈ s.toList, p c = true) :
  OneLine s
  := by
  intro hmem
  rw [h '\n' hmem] at hp
  contradiction

/-- Texts with commas between them are on one line if each of them is. -/
@[simp]
theorem oneLine_commas {l : List String} :
  OneLine (", ".intercalate l) ↔ ∀ s ∈ l, OneLine s
  := by
  induction l with
  | nil =>
      rw [String.intercalate_nil]
      decide
  | cons s l ih =>
      cases l with
      | nil => simp
      | cons t l =>
          have hcomma : OneLine ", " := by decide
          rw [String.intercalate_cons_cons, oneLine_append, oneLine_append, ih]
          simp only [hcomma, and_true, List.forall_mem_cons]

/-- The characters that end or move a line do not stand in a string literal. -/
theorem not_mem_quotedChars (s : List Char) :
  ∀ c ∈ ['\n', '\r', '\t'], c ∉ quotedChars s
  := by
  intro c hc
  rw [quotedChars, List.mem_cons, List.mem_append]
  rintro (rfl | h | h)
  · contradiction
  · obtain ⟨d, -, hd⟩ := List.mem_flatMap.mp h
    split at hd
    · next l hl =>
        rw [escapeLetter?] at hl
        simp only [List.mem_cons, List.not_mem_nil, or_false] at hd
        rcases hd with rfl | rfl
        · contradiction
        · repeat' split at hl
          all_goals cases hl <;> contradiction
    · next hnone =>
        obtain rfl := List.mem_singleton.mp hd
        simp only [List.mem_cons, List.not_mem_nil, or_false] at hc
        rcases hc with rfl | rfl | rfl <;> contradiction
  · obtain rfl := List.mem_singleton.mp h
    contradiction

/-- String literals are on one line. -/
@[simp]
theorem oneLine_quoted (s : String) :
  OneLine (quoted s)
  := by
  rw [OneLine, quoted, String.toList_ofList]
  apply not_mem_quotedChars s.toList _ List.mem_cons_self

/-- An identifier stands on one line. -/
theorem oneLine_of_isIdentifier {s : String} (h : isIdentifier s.toList = true) :
  OneLine s
  := oneLine_of_forall rfl (all_isIdentRest_of_isIdentifier h)

/-! ### Lines -/

/-- The text begins with the other one. -/
def BeginsWith (lead s : String) : Prop :=
  lead.toList <+: s.toList

instance (lead : String) : DecidablePred (BeginsWith lead) :=
  fun s => inferInstanceAs (Decidable (lead.toList <+: s.toList))

/-- What begins with a longer lead begins with the lead. -/
theorem BeginsWith.of_append {lead more s : String} (h : BeginsWith (lead ++ more) s) :
  BeginsWith lead s
  := by
  rw [BeginsWith, String.toList_append] at h
  apply (List.prefix_append _ _).trans h

/-- What stands at the end of a text does not change its beginning. -/
theorem BeginsWith.append {lead s : String} (h : BeginsWith lead s) (t : String) :
  BeginsWith lead (s ++ t)
  := by
  rw [BeginsWith, String.toList_append]
  apply h.trans (List.prefix_append _ _)

/-- A text does not begin with two texts neither of which begins with the other. -/
theorem BeginsWith.not_beginsWith {lead lead' s : String} (h : BeginsWith lead s)
    (hlead : ¬ BeginsWith lead lead') (hlead' : ¬ BeginsWith lead' lead) :
  ¬ BeginsWith lead' s
  := by
  intro h'
  rcases List.prefix_or_prefix_of_prefix h h' with hprefix | hprefix
  · apply hlead hprefix
  · apply hlead' hprefix

/-- The first line is followed by a line feed and the other lines. -/
theorem ofLines_cons (l : String) (ls : List String) :
  ofLines (l :: ls) = l ++ "\n" ++ ofLines ls
  := by
  apply String.toList_inj.mp
  simp [ofLines, String.toList_join]

/-- The text of two lists of lines is the text of the one and then that of the other. -/
theorem ofLines_append (ls ls' : List String) :
  ofLines (ls ++ ls') = ofLines ls ++ ofLines ls'
  := by
  apply String.toList_inj.mp
  simp [ofLines, String.toList_join]

/-- A text that stands on one line is its only line. -/
theorem lines_of_oneLine {l : String} (h : OneLine l) :
  lines l = [l]
  := by
  rw [lines, List.splitOn_eq_singleton h, List.map_singleton, String.ofList_toList]

/-- The lines of a text that is made of parts with line feeds after them: those of the parts, and
the empty one after the last line feed. -/
theorem lines_ofLines_flatMap (ls : List String) :
  lines (ofLines ls) = ls.flatMap lines ++ [""]
  := by
  induction ls with
  | nil => decide
  | cons l ls ih =>
      have hfeed : (l ++ "\n" ++ ofLines ls).toList = l.toList ++ '\n' :: (ofLines ls).toList := by
        simp
      rw [ofLines_cons, lines, hfeed, List.splitOn_append_cons_self, List.map_append, ← lines,
        ← lines, ih,
        List.flatMap_cons, List.append_assoc]

/-- The lines of texts that stand on one line each are these texts. -/
theorem flatMap_lines {ls : List String} (h : ∀ l ∈ ls, OneLine l) :
  ls.flatMap lines = ls
  := by
  induction ls with
  | nil => rfl
  | cons l ls ih =>
      obtain ⟨hl, hls⟩ := List.forall_mem_cons.mp h
      rw [List.flatMap_cons, lines_of_oneLine hl, ih hls, List.singleton_append]

/-- The lines of a text that is made of lines, with the empty one after the last line feed. -/
theorem lines_ofLines {ls : List String} (h : ∀ l ∈ ls, OneLine l) :
  lines (ofLines ls) = ls ++ [""]
  := by
  rw [lines_ofLines_flatMap, flatMap_lines h]

end ClientWrap.Text
