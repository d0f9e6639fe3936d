import ClientWrap.Clientset.Walk
import ClientWrap.Proofs.Text.Identifiers
import ClientWrap.Proofs.Text.OneLine
import ClientWrap.Proofs.Text.Sorted

/-!
# Aliases of packages

The alias of every path but the empty one is an identifier (`isIdentifier_packageAlias`). Where an
alias has no underscore the path reads the same (`packageAlias_of_not_mem`, `beginsWith_of_alias`),
and the blank identifier is the alias of the paths of one character that is neither a letter nor a
digit (`packageAlias_eq_blank`).
-/

namespace ClientWrap

namespace Naming

open ClientWrap.Text

/-- The characters with an underscore for each that an identifier cannot hold. -/
def squeeze (cs : List Char) : List Char :=
  cs.map fun c => if isAliasChar c then c else '_'

/-- Squeezing a character into an alias keeps digits and makes no new ones. -/
theorem isDigit_squeezed (c : Char) :
  (if isAliasChar c then c else '_').isDigit = c.isDigit
  := by
  split
  · rfl
  · next h =>
      rw [isAliasChar, Char.isAlphanum] at h
      simp only [Bool.or_eq_true, not_or, Bool.not_eq_true] at h
      rw [h.1.2]
      rfl

/-- An alias is the squeezed path, with an underscore in front of it if the path begins with a
digit. -/
theorem aliasChars_cons (c : Char) (cs : List Char) :
  aliasChars (c :: cs)
    = if c.isDigit then '_' :: squeeze (c :: cs) else squeeze (c :: cs)
  := by
  rw [← isDigit_squeezed c]
  rfl

/-- Where no underscore comes out, all characters are kept. -/
theorem squeeze_of_not_mem {cs : List Char} (h : '_' ∉ squeeze cs) :
  squeeze cs = cs
  := by
  induction cs with
  | nil => rfl
  | cons c cs ih =>
      rw [squeeze, List.map_cons, List.mem_cons, not_or] at h
      rw [squeeze, List.map_cons, ← squeeze, ih h.2]
      split
      · rfl
      · next hc => simp [hc] at h

variable {path : String}

/-- An alias that does not begin with an underscore has one character for each of the path. -/
theorem toList_packageAlias {c : Char} {cs : List Char}
    (h : (packageAlias path).toList = c :: cs) (hc : c ≠ '_') :
  (packageAlias path).toList = squeeze path.toList
  := by
  rw [packageAlias, String.toList_ofList] at h ⊢
  cases hpath : path.toList with
  | nil => rfl
  | cons d ds =>
      rw [hpath, aliasChars_cons] at h
      rw [aliasChars_cons]
      split at h
      · apply absurd (List.cons.inj h).1.symm hc
      · next hd => rw [if_neg hd]

/-- Only the empty path has the empty alias. -/
@[simp]
theorem packageAlias_eq_empty :
  packageAlias path = "" ↔ path = ""
  := by
  rw [← String.toList_inj, ← String.toList_inj, packageAlias, String.toList_ofList]
  cases path.toList with
  | nil => simp [aliasChars]
  | cons c cs =>
      rw [aliasChars_cons]
      split <;> simp [squeeze]

/-- The alias of a path that is not empty is an identifier. -/
theorem isIdentifier_packageAlias (h : path ≠ "") :
  isIdentifier (packageAlias path).toList
  := by
  have hall := List.all_eq_true.mp (aliasChars_all path.toList)
  rw [packageAlias, String.toList_ofList]
  cases hpath : path.toList with
  | nil =>
      apply absurd (String.toList_inj.mp hpath) h
  | cons c cs =>
      rw [hpath] at hall
      rw [aliasChars_cons] at hall ⊢
      split at hall
      · next hc =>
          rw [if_pos hc, isIdentifier, Bool.and_eq_true]
          refine ⟨by decide, List.all_eq_true.mpr fun d hd => ?_⟩
          apply hall d (List.mem_cons_of_mem _ hd)
      · next hc =>
          rw [if_neg hc]
          rw [squeeze, List.map_cons] at hall ⊢
          obtain ⟨hfirst, hrest⟩ := List.forall_mem_cons.mp hall
          rw [isIdentifier, Bool.and_eq_true]
          refine ⟨?_, List.all_eq_true.mpr hrest⟩
          rw [← isDigit_squeezed] at hc
          rw [isAliasChar, Char.isAlphanum] at hfirst
          rw [isIdentStart]
          grind

/-- An alias without an underscore is its path. -/
theorem packageAlias_of_not_mem (h : '_' ∉ (packageAlias path).toList) :
  packageAlias path = path
  := by
  apply String.toList_inj.mp
  cases hfirst : (packageAlias path).toList with
  | nil =>
      have : path = "" := packageAlias_eq_empty.mp (String.toList_inj.mp hfirst)
      rw [this]
      rfl
  | cons c cs =>
      have hc : c ≠ '_' := by
        rintro rfl
        rw [hfirst] at h
        apply h List.mem_cons_self
      have heq := toList_packageAlias hfirst hc
      rw [heq] at h
      rw [← hfirst, heq, squeeze_of_not_mem h]

/-- A path begins with the words without an underscore with which its alias begins. -/
theorem beginsWith_of_alias {lead : String} (hlead : '_' ∉ lead.toList)
    (h : BeginsWith lead (packageAlias path)) :
  BeginsWith lead path
  := by
  obtain ⟨rest, hrest⟩ := h
  cases hfirst : lead.toList with
  | nil =>
      rw [BeginsWith, hfirst]
      apply List.nil_prefix
  | cons c cs =>
      rw [hfirst] at hrest hlead
      have heq := toList_packageAlias hrest.symm fun hc => hlead (hc ▸ List.mem_cons_self)
      rw [heq, squeeze] at hrest
      obtain ⟨kept, others, hpath, hkept, -⟩ := List.map_eq_append_iff.mp hrest.symm
      change squeeze kept = c :: cs at hkept
      rw [← hkept] at hlead
      rw [BeginsWith, hfirst, ← hkept, squeeze_of_not_mem hlead, hpath]
      apply List.prefix_append

/-- The blank identifier is the alias of a single character that is no letter or digit. -/
theorem packageAlias_eq_blank :
  packageAlias path = "_" ↔ ∃ c, path.toList = [c] ∧ c.isAlphanum = false
  := by
  rw [← String.toList_inj, packageAlias, String.toList_ofList]
  cases path.toList with
  | nil => simp [aliasChars]
  | cons c cs =>
      have hkept : (if isAliasChar c then c else '_') = '_' ↔ c.isAlphanum = false := by
        rw [isAliasChar]
        cases hc : c.isAlphanum with
        | true =>
            have hne : c ≠ '_' := by
              rintro rfl
              contradiction
            simp [hne]
        | false => simp
      rw [aliasChars_cons]
      split
      · next hc =>
          have halpha : c.isAlphanum = true := by rw [Char.isAlphanum, hc, Bool.or_true]
          simp [squeeze, halpha]
      · change squeeze (c :: cs) = ['_'] ↔ _
        rw [squeeze, List.map_cons, List.cons.injEq, hkept, List.map_eq_nil_iff]
        simp only [List.cons.injEq]
        grind

/-! ### Clashes -/

/-- No clash is found exactly if no alias of the paths is one that was seen before and none occurs
among the paths twice. -/
theorem clashAfter?_eq_none {seen paths : List String} :
  clashAfter? seen paths = none
    ↔ (∀ p ∈ paths, packageAlias p ∉ seen.map packageAlias) ∧ (paths.map packageAlias).Nodup
  := by
  induction paths generalizing seen with
  | nil => simp [clashAfter?]
  | cons p paths ih =>
      rw [clashAfter?]
      cases hfind : seen.find? fun q => packageAlias q == packageAlias p with
      | some q =>
          have hq := List.find?_some hfind
          have hmem := List.mem_map_of_mem (f := packageAlias) (List.mem_of_find?_eq_some hfind)
          rw [eq_of_beq hq] at hmem
          simp only [reduceCtorEq, List.forall_mem_cons, hmem, not_true_eq_false, false_and]
      | none =>
          have hp : packageAlias p ∉ seen.map packageAlias := by
            simpa using List.find?_eq_none.mp hfind
          rw [ih]
          simp only [List.map_append, List.mem_append, List.map_cons, List.map_nil,
            List.forall_mem_cons, List.nodup_cons]
          grind

/-- What is found is an alias that a path of the list shares with an earlier one, and no two paths
before that path share an alias. -/
theorem clashAfter?_eq_some {seen paths : List String} {name first second : String}
    (hseen : (seen.map packageAlias).Nodup)
    (h : clashAfter? seen paths = some (name, first, second)) :
  ∃ before after, paths = before ++ second :: after
    ∧ ((seen ++ before).map packageAlias).Nodup ∧ first ∈ seen ++ before
    ∧ packageAlias first = packageAlias second ∧ name = packageAlias second
  := by
  induction paths generalizing seen with
  | nil => contradiction
  | cons p paths ih =>
      rw [clashAfter?] at h
      cases hfind : seen.find? fun q => packageAlias q == packageAlias p with
      | some q =>
          rw [hfind] at h
          obtain ⟨rfl, rfl, rfl⟩ : packageAlias p = name ∧ q = first ∧ p = second := by simpa using h
          refine ⟨[], paths, rfl, ?_, ?_, ?_, rfl⟩
          · simpa using hseen
          · simpa using List.mem_of_find?_eq_some hfind
          · have hq := List.find?_some hfind
            apply eq_of_beq hq
      | none =>
          rw [hfind] at h
          have hp : ∀ q ∈ seen, packageAlias q ≠ packageAlias p := by
            simpa using List.find?_eq_none.mp hfind
          have hseen' : ((seen ++ [p]).map packageAlias).Nodup := by
            rw [List.map_append, List.map_singleton, List.nodup_append']
            simpa [hseen] using hp
          obtain ⟨before, after, rfl, hnodup, hfirst, hname⟩ := ih hseen' h
          rw [List.append_assoc, List.singleton_append] at hnodup hfirst
          exact ⟨p :: before, after, rfl, hnodup, hfirst, hname⟩

/-- The paths have one alias, and the second of them is the least one in the order of bytes that
shares its alias with a smaller path, of which there is only the first. -/
structure FirstClash (paths : List String) (first second : String) : Prop where
  first_mem : first ∈ paths
  second_mem : second ∈ paths
  lt : bytes first < bytes second
  same : packageAlias first = packageAlias second
  least : ∀ p ∈ paths, ∀ q ∈ paths,
    bytes p < bytes q → packageAlias p = packageAlias q → bytes second ≤ bytes q
  only : ∀ p ∈ paths, bytes p < bytes second → packageAlias p = packageAlias second → p = first

/-- There is at most one first clash. -/
theorem FirstClash.unique {paths : List String} {first second first' second' : String}
    (h : FirstClash paths first second) (h' : FirstClash paths first' second') :
  first = first' ∧ second = second'
  := by
  have hle := h.least _ h'.first_mem _ h'.second_mem h'.lt h'.same
  have hge := h'.least _ h.first_mem _ h.second_mem h.lt h.same
  obtain rfl := bytes_inj.mp (List.le_antisymm hle hge)
  exact ⟨h'.only _ h.first_mem h.lt h.same, rfl⟩

section

variable {paths : List String} (hpaths : paths.Pairwise fun p q => bytes p < bytes q)

include hpaths

/-- What is reported is the first clash, under the alias that both paths have. The paths ascend, so
that those before the second one are the smaller ones. -/
theorem firstClash_of_clash? {name first second : String}
    (h : clash? paths = some (name, first, second)) :
  name = packageAlias second ∧ FirstClash paths first second
  := by
  have hempty : (([] : List String).map packageAlias).Nodup := List.nodup_nil
  obtain ⟨before, after, rfl, hnodup, hfirst, halias, hname⟩ := clashAfter?_eq_some hempty h
  rw [List.nil_append] at hnodup hfirst
  obtain ⟨-, hsecond, hbefore⟩ := List.pairwise_append.mp hpaths
  obtain ⟨hafter, -⟩ := List.pairwise_cons.mp hsecond
  have hlow : ∀ p ∈ before ++ second :: after, bytes p < bytes second → p ∈ before := by
    intro p hp hlt
    rcases List.mem_append.mp hp with hp | hp
    · apply hp
    · rcases List.mem_cons.mp hp with rfl | hp
      · apply absurd hlt (List.lt_irrefl _)
      · apply absurd hlt (List.lt_asymm (hafter p hp))
  refine ⟨hname, ?_, ?_, ?_, halias, ?_, ?_⟩
  · apply List.mem_append_left _ hfirst
  · apply List.mem_append_right _ List.mem_cons_self
  · apply hbefore first hfirst second List.mem_cons_self
  · intro p hp q hq hpq heq
    rw [← List.not_lt]
    intro hlt
    have hp := hlow p hp (List.lt_trans hpq hlt)
    rw [List.inj_on_of_nodup_map hnodup hp (hlow q hq hlt) heq] at hpq
    apply List.lt_irrefl _ hpq
  · intro p hp hlt heq
    have hp := hlow p hp hlt
    apply List.inj_on_of_nodup_map hnodup hp hfirst (heq.trans halias.symm)

/-- The first clash is found if there is one. -/
theorem clash?_eq_some_iff {name first second : String} :
  clash? paths = some (name, first, second)
    ↔ name = packageAlias second ∧ FirstClash paths first second
  := by
  constructor
  · apply firstClash_of_clash? hpaths
  · rintro ⟨rfl, h⟩
    cases hclash : clash? paths with
    | none =>
        obtain ⟨-, hnodup⟩ := clashAfter?_eq_none.mp hclash
        have heq := List.inj_on_of_nodup_map hnodup h.first_mem h.second_mem h.same
        apply absurd h.lt
        rw [heq]
        apply List.lt_irrefl
    | some clash =>
        obtain ⟨name, first', second'⟩ := clash
        obtain ⟨rfl, h'⟩ := firstClash_of_clash? hpaths hclash
        obtain ⟨rfl, rfl⟩ := h.unique h'
        rfl

end

end Naming

/-- Imports pass their check if their aliases are pairwise different. -/
theorem Clientset.checkAliases_eq_ok {imports : List String} :
  checkAliases imports = .ok () ↔ (imports.map Naming.packageAlias).Nodup
  := by
  have hclash : Naming.clash? imports = none ↔ (imports.map Naming.packageAlias).Nodup := by
    rw [Naming.clash?, Naming.clashAfter?_eq_none]
    simp
  rw [← hclash, checkAliases]
  split
  · next h => simp [h]
  · next h => simp [h]

end ClientWrap
