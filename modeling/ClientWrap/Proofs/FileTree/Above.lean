import ClientWrap.Proofs.FileTree.Following
import ClientWrap.Proofs.Path
import Mathlib.Data.List.DropRight

/-!
# The directories above a path

The path of the directory that holds what a path names has all components but the last
(`names_parent`). So the directories above a path are the places that it passes, where those that it
leads up to by `..` count (`passes_of_mem_ancestors`).
-/

namespace ClientWrap.Path

open ClientWrap.Text

variable {p q : Path} {lead : String} {parts S : List String}

/-! ### Parts -/

/-- No part of a split text has the separator. -/
theorem not_mem_of_mem_splitOn {sep : Char} {s part : List Char} (h : part ∈ s.splitOn sep) :
  sep ∉ part
  := by
  by_cases hs : sep ∈ s
  · obtain ⟨before, rest, rfl, hbefore⟩ := List.eq_append_cons_of_mem hs
    rw [List.splitOn_append_cons_self_of_not_mem hbefore] at h
    rcases List.mem_cons.mp h with rfl | h
    · apply hbefore
    · apply not_mem_of_mem_splitOn h
  · rw [List.splitOn_eq_singleton hs] at h
    rwa [List.mem_singleton.mp h]
termination_by s.length

/-- No part of a path has a slash. -/
theorem not_mem_of_mem_segments {s : String} (h : s ∈ p.segments) :
  '/' ∉ s.toList
  := by
  obtain ⟨part, hpart, rfl⟩ := List.mem_map.mp h
  rw [String.toList_ofList]
  apply not_mem_of_mem_splitOn hpart

/-- The parts of two texts with a slash between them are those of the one and then those of the
other. -/
theorem segments_append (s t : String) :
  segments ⟨s ++ "/" ++ t⟩ = segments ⟨s⟩ ++ segments ⟨t⟩
  := by
  have htext : (s ++ "/" ++ t).toList = s.toList ++ '/' :: t.toList := by simp
  rw [segments, htext, List.splitOn_append_cons_self, List.map_append]
  rfl

/-- Parts without slashes are those of the path that they are joined to. -/
theorem segments_intercalate (hS : S ≠ []) (h : ∀ s ∈ S, '/' ∉ s.toList) :
  (⟨"/".intercalate S⟩ : Path).segments = S
  := by
  have hsplit : (['/'].intercalate (S.map String.toList)).splitOn '/' = S.map String.toList := by
    apply List.splitOn_intercalate
    · simpa using h
    · simpa using hS
  rw [segments, String.toList_intercalate]
  change ((['/'].intercalate (S.map String.toList)).splitOn '/').map String.ofList = S
  rw [hsplit, List.map_map]
  simp [Function.comp_def]

/-- The names of a path that is joined from parts are those of its parts. -/
theorem names_intercalate (h : ∀ s ∈ S, '/' ∉ s.toList) :
  (⟨"/".intercalate S⟩ : Path).names = S.filterMap componentOf?
  := by
  by_cases hS : S = []
  · subst hS
    rfl
  · rw [names, segments_intercalate hS h]

/-- A path is absolute exactly if a slash follows its empty first part. -/
theorem isAbsolute_iff :
  p.isAbsolute ↔ ∃ rest, p.segments = "" :: rest ∧ rest ≠ []
  := by
  rw [isAbsolute, segments]
  cases p.text.toList with
  | nil => simp
  | cons c cs =>
      rw [List.splitOn_cons_eq_if_modifyHead]
      by_cases hc : c = '/'
      · simp [hc]
      · obtain ⟨part, others, hparts⟩ := List.exists_cons_of_ne_nil (List.splitOn_ne_nil '/' cs)
        rw [if_neg (by simpa using hc), hparts]
        simp [hc, ← String.toList_inj]

/-! ### The directory that holds what a path names -/

/-- The forms of the body of a path. -/
theorem body_cases (h : p.body = (lead, parts)) :
  lead = "/" ∧ p.isAbsolute ∧ p.segments = "" :: parts
    ∨ lead = "." ∧ p.isAbsolute = false
      ∧ (parts = [] ∧ p.segments = ["."] ∨ ∃ rest, parts = "" :: rest ∧ p.segments = "." :: rest)
    ∨ lead = "" ∧ p.isAbsolute = false ∧ p.segments = parts
  := by
  have hrelative : p.segments.head? ≠ some "" → p.isAbsolute = false := by
    intro hhead
    apply Bool.eq_false_iff.mpr
    intro habs
    obtain ⟨rest, hrest, -⟩ := isAbsolute_iff.mp habs
    apply hhead
    rw [hrest]
    rfl
  rw [body] at h
  split at h
  · next rest hrest =>
      split at h
      · next habs =>
          obtain ⟨rfl, rfl⟩ := Prod.mk.inj h
          exact Or.inl ⟨rfl, habs, hrest⟩
      · next habs =>
          obtain ⟨rfl, rfl⟩ := Prod.mk.inj h
          exact Or.inr (Or.inr ⟨rfl, Bool.eq_false_iff.mpr habs, hrest⟩)
  · next rest hrest =>
      obtain ⟨rfl, rfl⟩ := Prod.mk.inj h
      refine Or.inr (Or.inl ⟨rfl, hrelative (by simp [hrest]), ?_⟩)
      cases rest with
      | nil => exact Or.inl ⟨rfl, hrest⟩
      | cons part rest => exact Or.inr ⟨_, rfl, hrest⟩
  · next hempty _ =>
      obtain ⟨rfl, rfl⟩ := Prod.mk.inj h
      refine Or.inr (Or.inr ⟨rfl, hrelative ?_, rfl⟩)
      intro hhead
      obtain ⟨rest, hrest⟩ := List.head?_eq_some_iff.mp hhead
      apply hempty rest hrest

/-- The names of a path are those of its body. -/
theorem names_of_body (h : p.body = (lead, parts)) :
  p.names = parts.filterMap componentOf?
  := by
  rw [names]
  rcases body_cases h with ⟨-, -, hp⟩ | ⟨-, -, ⟨rfl, hp⟩ | ⟨rest, rfl, hp⟩⟩ | ⟨-, -, hp⟩ <;>
    rw [hp] <;> rfl

/-- The parts of a body have no slashes. -/
theorem not_mem_of_body (h : p.body = (lead, parts)) :
  ∀ s ∈ parts, '/' ∉ s.toList
  := by
  have hsegments : ∀ s ∈ p.segments, '/' ∉ s.toList := fun s => not_mem_of_mem_segments
  rcases body_cases h with ⟨-, -, hp⟩ | ⟨-, -, ⟨rfl, hp⟩ | ⟨rest, rfl, hp⟩⟩ | ⟨-, -, hp⟩ <;>
    simp_all

/-- A path made of the first parts of a body has their components. -/
theorem names_lead (h : p.body = (lead, parts)) (hS : S <+: parts) :
  (⟨lead ++ "/".intercalate S⟩ : Path).names = S.filterMap componentOf?
  := by
  have hslash : ∀ s ∈ S, '/' ∉ s.toList := fun s hs => not_mem_of_body h s (hS.subset hs)
  rcases body_cases h with ⟨rfl, -, -⟩ | ⟨rfl, -, hparts⟩ | ⟨rfl, -, -⟩
  · have hroot : "/" ++ "/".intercalate S = "" ++ "/" ++ "/".intercalate S := by simp
    rw [hroot, names, segments_append, List.filterMap_append]
    change [] ++ (⟨"/".intercalate S⟩ : Path).names = _
    rw [names_intercalate hslash, List.nil_append]
  · cases S with
    | nil => rfl
    | cons s S =>
        have hne : parts ≠ [] := by
          rintro rfl
          apply List.cons_ne_nil s S (List.prefix_nil.mp hS)
        obtain ⟨rest, rfl, -⟩ := hparts.resolve_left (fun hempty => hne hempty.1)
        obtain ⟨rfl, -⟩ := List.cons_prefix_cons.mp hS
        cases S with
        | nil => rfl
        | cons s S =>
            rw [String.intercalate_cons_cons, String.empty_append, ← String.append_assoc, names,
              segments_append, List.filterMap_append]
            change [] ++ (⟨"/".intercalate (s :: S)⟩ : Path).names = _
            rw [names_intercalate (List.forall_mem_cons.mp hslash).2, List.nil_append]
            rfl
  · rw [String.empty_append, names_intercalate hslash]

/-- A path with the same lead and fewer parts begins at the root exactly if the path does. -/
theorem isAbsolute_lead (h : p.body = (lead, parts)) (hS : S <+: parts) :
  (⟨lead ++ "/".intercalate S⟩ : Path).isAbsolute = p.isAbsolute
  := by
  rcases body_cases h with ⟨rfl, habs, -⟩ | ⟨rfl, habs, -⟩ | ⟨rfl, habs, hp⟩
  · rw [habs, isAbsolute]
    simp
  · rw [habs, isAbsolute]
    simp
  · rw [habs, String.empty_append]
    apply Bool.eq_false_iff.mpr
    intro hq
    have hne : S ≠ [] := by
      rintro rfl
      contradiction
    have hslash : ∀ s ∈ S, '/' ∉ s.toList := fun s hs => not_mem_of_body h s (hS.subset hs)
    obtain ⟨rest, hrest, hrestne⟩ := isAbsolute_iff.mp hq
    rw [segments_intercalate hne hslash] at hrest
    obtain ⟨more, rfl⟩ := hS
    apply Bool.eq_false_iff.mp habs
    apply isAbsolute_iff.mpr ⟨rest ++ more, by rw [hp, hrest, List.cons_append], by simp [hrestne]⟩

/-- Parts at the end that stand for nothing do not count. -/
theorem filterMap_rdropWhile (S : List String) :
  (S.rdropWhile isSilent).filterMap componentOf? = S.filterMap componentOf?
  := by
  induction S using List.reverseRecOn with
  | nil => rfl
  | append_singleton S s ih =>
      by_cases hs : isSilent s
      · have hnone : componentOf? s = none := Option.isNone_iff_eq_none.mp hs
        rw [List.rdropWhile_concat_pos _ _ _ hs, ih, List.filterMap_append]
        simp [hnone]
      · rw [List.rdropWhile_concat_neg _ _ _ hs]

/-- The directory that holds what a path names has the components of the path but the last. -/
theorem names_parent (h : p.parent? = some q) (hq : q.text ≠ "") :
  q.isAbsolute = p.isAbsolute ∧ q.names = p.names.dropLast
  := by
  rw [parent?] at h
  cases hbody : p.body with
  | mk lead parts =>
      rw [hbody] at h
      dsimp only at h
      split at h
      · next last above habove =>
          obtain rfl := Option.some.inj h
          have hparts : parts.rdropWhile isSilent = above.reverse ++ [last] := by
            rw [List.rdropWhile, habove, List.reverse_cons]
          have hlast : ¬ isSilent last := by
            have hne : parts.rdropWhile isSilent ≠ [] := by simp [hparts]
            simpa [hparts] using List.rdropWhile_last_not isSilent parts hne
          obtain ⟨c, hc⟩ : ∃ c, componentOf? last = some c := by
            simpa [isSilent, Option.ne_none_iff_exists'] using hlast
          have hprefix : above.reverse.rdropWhile isSilent <+: parts := by
            apply (List.rdropWhile_prefix _ _).trans
            apply List.IsPrefix.trans _ (List.rdropWhile_prefix isSilent parts)
            rw [hparts]
            apply List.prefix_append
          rw [← List.rdropWhile_reverse, isAbsolute_lead hbody hprefix, names_lead hbody hprefix,
            names_of_body hbody, filterMap_rdropWhile, ← filterMap_rdropWhile parts, hparts,
            List.filterMap_append]
          simp [hc]
      · split at h
        · obtain rfl := Option.some.inj h
          contradiction
        · contradiction

/-! ### Places on the way -/

/-- Where a component leads to from a place. -/
def stepTo (loc : Location) : Component → Location
  | .name n => loc ++ [n]
  | .up => FileTree.above loc
  | _ => loc

/-- The place of a path is where its names lead to from its start. -/
theorem location_eq_names (p : Path) :
  p.location = p.names.foldl stepTo (FileTree.startOf p)
  := by
  rw [location, names, List.foldl_filterMap]
  congr 1
  funext loc s
  rw [stepFrom]
  rcases componentOf? s with _ | _ | _ | _ <;> rfl

/-- The place is one that the path passes before the last of its components. -/
def Passes (p : Path) (loc : Location) : Prop :=
  ∃ before, before <+: p.names.dropLast ∧ loc = before.foldl stepTo (FileTree.startOf p)

/-- A directory above a path begins as the path does, and its names are the first ones of the
path. -/
theorem names_of_mem_ancestorsUpTo {n : ℕ} (h : q ∈ p.ancestorsUpTo n) :
  q.isAbsolute = p.isAbsolute ∧ q.names <+: p.names
  := by
  induction n generalizing p with
  | zero => contradiction
  | succ n ih =>
      rw [ancestorsUpTo] at h
      split at h
      · contradiction
      · split at h
        · next parent hparent =>
            rcases List.mem_cons.mp h with rfl | h
            · exact ⟨rfl, List.prefix_rfl⟩
            · obtain ⟨habs, hnames⟩ := ih h
              have htext : parent.text ≠ "" := by
                intro hempty
                cases n <;> simp [ancestorsUpTo, hempty] at h
              obtain ⟨habs', hnames'⟩ := names_parent hparent htext
              rw [hnames'] at hnames
              exact ⟨habs.trans habs', hnames.trans (List.dropLast_prefix _)⟩
        · obtain rfl := List.mem_singleton.mp h
          exact ⟨rfl, List.prefix_rfl⟩

/-- The directories above a path are places that it passes. -/
theorem passes_of_mem_ancestors {parent : Path} (hparent : p.parent? = some parent)
    (htext : parent.text ≠ "") (h : q ∈ parent.ancestors) :
  p.Passes q.location
  := by
  obtain ⟨habs, hnames⟩ := names_parent hparent htext
  obtain ⟨habs', hnames'⟩ := names_of_mem_ancestorsUpTo h
  refine ⟨q.names, hnames ▸ hnames', ?_⟩
  rw [location_eq_names, FileTree.startOf, FileTree.startOf, habs', habs]

end ClientWrap.Path
