import ClientWrap.Proofs.GoType.Parsed
import ClientWrap.Proofs.Naming.Alias

/-!
# Types as files print them

A file prints a type as the spelling of the type with the alias of every package in place of its
path (`spelling_aliased`). The spelling determines this type, so two types are printed in the same
way only if they differ in nothing but packages with one alias (`Parsed.text_inj`), and not at all
if the imports of the file have passed their check (`Clientset.checkAliases_outcome`).
-/

namespace ClientWrap

open ClientWrap.Text

namespace GoType

/-- The type with the alias of each package in place of its path. -/
def aliased : GoType → GoType
  | builtin name => builtin name
  | named package name => named (Naming.packageAlias package) name
  | pointer element => pointer element.aliased
  | slice element => slice element.aliased
  | map key value => map key.aliased value.aliased
  | variadic element => variadic element.aliased

/-- With aliases in place of its paths a type is spelled as it is printed. -/
theorem spelling_aliased (t : GoType) :
  t.aliased.spelling = t.text
  := by
  induction t with
  | builtin name => rfl
  | named package name => rfl
  | pointer element ih => rw [aliased, spelling, text, ih]
  | slice element ih => rw [aliased, spelling, text, ih]
  | map key value ihkey ihvalue => rw [aliased, spelling, text, ihkey, ihvalue]
  | variadic element ih => rw [aliased, spelling, text, ih]

/-- An identifier is a path. -/
theorem isPath_of_isIdentifier {s : List Char} (h : isIdentifier s) :
  IsPath s
  := by
  apply IsPath.part
  use ne_nil_of_isIdentifier h
  intro c hc
  apply isPathChar_of_isIdentRest (all_isIdentRest_of_isIdentifier h c hc)

/-- A name with an alias before it does not begin like a variadic marker. -/
theorem not_dots_of_isIdentifier {s rest : List Char} (h : isIdentifier s) :
  ¬ "...".toList <+: s ++ rest
  := by
  cases s with
  | nil => contradiction
  | cons c s =>
      rw [List.cons_append]
      intro hdots
      obtain ⟨rfl, -⟩ := List.cons_prefix_cons.mp hdots
      contradiction

/-- The printed text of a plain type spells the type with aliases in place of its paths. -/
theorem SpellsPlain.aliased {s : List Char} {t : GoType} (h : SpellsPlain s t) :
  SpellsPlain t.text.toList t.aliased
  := by
  induction h with
  | identifier hs =>
      rw [text, String.toList_ofList]
      apply SpellsPlain.identifier hs
  | emptyInterface => apply SpellsPlain.emptyInterface
  | @named path name hp hn _ =>
      have halias : isIdentifier (Naming.packageAlias (String.ofList path)).toList := by
        apply Naming.isIdentifier_packageAlias
        intro hempty
        apply hp.ne_nil
        rw [← String.toList_ofList (l := path), hempty]
        rfl
      have hspells := SpellsPlain.named (isPath_of_isIdentifier halias) hn
        (not_dots_of_isIdentifier halias)
      rw [String.ofList_toList] at hspells
      rw [text]
      simp only [String.toList_append, String.toList_ofList, List.append_assoc]
      apply hspells
  | pointer _ ih =>
      rw [text, String.toList_append]
      apply SpellsPlain.pointer ih
  | slice _ ih =>
      rw [text, String.toList_append]
      apply SpellsPlain.slice ih
  | map _ _ ihkey ihvalue =>
      rw [text]
      simp only [String.toList_append, List.append_assoc]
      apply SpellsPlain.map ihkey ihvalue
  | blanks _ _ _ ih => apply ih

/-- A parsed type is still one with aliases in place of its paths. -/
theorem Parsed.aliased {t : GoType} (h : t.Parsed) :
  t.aliased.Parsed
  := by
  obtain ⟨s, hs⟩ := h.spells
  use t.text
  apply Spells.parseChars_eq
  cases hs with
  | plain hs => apply Spells.plain hs.aliased
  | variadic _ hs =>
      rw [text, String.toList_append]
      apply Spells.variadic (List.forall_mem_nil _) hs.aliased

/-- The printed form of a parsed type determines the type up to packages with one alias. -/
theorem Parsed.text_inj {t t' : GoType} (h : t.Parsed) (h' : t'.Parsed) :
  t.text = t'.text ↔ t.aliased = t'.aliased
  := by
  rw [← spelling_aliased, ← spelling_aliased]
  constructor
  · intro htext
    have hread := parsed_iff.mp h.aliased
    rw [htext, parsed_iff.mp h'.aliased] at hread
    apply (Except.ok.inj hread).symm
  · intro haliased
    rw [haliased]

/-- Types are equal that agree up to the aliases of packages if no two of their packages share an
alias. -/
theorem eq_of_aliased {t t' : GoType}
    (hpackages : ∀ p ∈ t.mentioned, ∀ q ∈ t'.mentioned,
      Naming.packageAlias p = Naming.packageAlias q → p = q)
    (h : t.aliased = t'.aliased) :
  t = t'
  := by
  induction t generalizing t' with
  | builtin name => cases t' <;> cases h; rfl
  | named package name =>
      cases t' with
      | named package' name' =>
          injection h with halias hname
          rw [hpackages package List.mem_cons_self package' List.mem_cons_self halias, hname]
      | _ => contradiction
  | pointer element ih =>
      cases t' with
      | pointer element' =>
          injection h with h
          have heq : element = element' := ih hpackages h
          rw [heq]
      | _ => contradiction
  | slice element ih =>
      cases t' with
      | slice element' =>
          injection h with h
          have heq : element = element' := ih hpackages h
          rw [heq]
      | _ => contradiction
  | map key value ihkey ihvalue =>
      cases t' with
      | map key' value' =>
          injection h with hkey hvalue
          rw [ihkey _ hkey, ihvalue _ hvalue]
          · intro p hp q hq
            apply hpackages p (List.mem_append_right _ hp) q (List.mem_append_right _ hq)
          · intro p hp q hq
            apply hpackages p (List.mem_append_left _ hp) q (List.mem_append_left _ hq)
      | _ => contradiction
  | variadic element ih =>
      cases t' with
      | variadic element' =>
          injection h with h
          have heq : element = element' := ih hpackages h
          rw [heq]
      | _ => contradiction

end GoType

/-- If a set of imports passes the check, two types whose packages are all in the set are never
printed in the same way. Otherwise the error names the least path in the order of bytes that shares
its alias with a smaller one, after that smaller one, and the alias of both. -/
theorem Clientset.checkAliases_outcome {imports : List String}
    (himports : imports.Pairwise fun p q => bytes p < bytes q) :
  (checkAliases imports = .ok () →
    ∀ t t' : GoType, t.Parsed → t'.Parsed → t.packages ⊆ imports → t'.packages ⊆ imports →
      t.text = t'.text → t = t')
  ∧ ∀ e, checkAliases imports = .error e ↔ ∃ first second,
    e = .aliasClash (Naming.packageAlias second) first second
      ∧ Naming.FirstClash imports first second
  := by
  constructor
  · intro hcheck t t' h h' ht ht' htext
    have hnodup := checkAliases_eq_ok.mp hcheck
    apply GoType.eq_of_aliased _ ((h.text_inj h').mp htext)
    intro p hp q hq
    apply List.inj_on_of_nodup_map hnodup (ht (mem_ascending.mpr hp)) (ht' (mem_ascending.mpr hq))
  · intro e
    have hclash : checkAliases imports = .error e ↔ ∃ name first second,
        Naming.clash? imports = some (name, first, second) ∧ e = .aliasClash name first second := by
      rw [checkAliases]
      cases Naming.clash? imports with
      | none => simp
      | some clash => simp [Prod.ext_iff, eq_comm]
    simp only [hclash, Naming.clash?_eq_some_iff himports]
    constructor
    · rintro ⟨_, first, second, ⟨rfl, hfirst⟩, rfl⟩
      exact ⟨first, second, rfl, hfirst⟩
    · rintro ⟨first, second, rfl, hfirst⟩
      exact ⟨_, first, second, ⟨rfl, hfirst⟩, rfl⟩

/-- A map from contexts to slices of pointers. -/
def slicesByContext : GoType :=
  .map (.named "context" "Context") (.slice (.pointer (.named "example.com/api/v1" "Pod")))

/-- A map from contexts to pointers to slices. -/
def pointersByContext : GoType :=
  .map (.named "context" "Context") (.pointer (.slice (.named "example.com/api/v1" "Pod")))

/-- Packages that share the alias `example_com_a_b`. -/
def dashedImports : List String :=
  ["example.com/a-b", "example.com/a.b", "example.com/a_b"]

/-- Two types that differ in the order of a slice and a pointer only, and three imports of which the
second is the first to repeat an alias. -/
theorem Clientset.checkAliases_outcome_dashed :
  checkAliases ["context", "example.com/api/v1"] = .ok ()
    ∧ slicesByContext.text ≠ pointersByContext.text
    ∧ Naming.FirstClash dashedImports "example.com/a-b" "example.com/a.b"
  := by
  have hcheck : checkAliases ["context", "example.com/api/v1"] = .ok () := by decide +kernel
  use hcheck
  constructor
  · have hpaths : ["context", "example.com/api/v1"].Pairwise fun p q => bytes p < bytes q := by
      decide +kernel
    have hslices : slicesByContext.Parsed := by decide +kernel
    have hpointers : pointersByContext.Parsed := by decide +kernel
    intro htext
    have heq := (checkAliases_outcome hpaths).1 hcheck _ _ hslices hpointers (by decide) (by decide)
      htext
    contradiction
  · have hpaths : dashedImports.Pairwise fun p q => bytes p < bytes q := by decide +kernel
    have herror : checkAliases dashedImports
        = .error (.aliasClash "example_com_a_b" "example.com/a-b" "example.com/a.b") := by
      decide +kernel
    obtain ⟨first, second, herror, hclash⟩ := ((checkAliases_outcome hpaths).2 _).mp herror
    obtain ⟨-, rfl, rfl⟩ := Error.aliasClash.inj herror
    apply hclash

end ClientWrap
