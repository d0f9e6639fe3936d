import ClientWrap.Proofs.GoType.Reading

/-!
# Types that expressions spell

A type is `Parsed` if some expression is read as it. The constructors of `GoType` admit more, such
as a name with a dot in it. For parsed types the qualified name of an interface determines the
interface (`Parsed.eq_of_key?`).
-/

namespace ClientWrap.GoType

open ClientWrap.Text

/-- Some expression is read as the type. -/
def Parsed (t : GoType) : Prop :=
  ∃ expr, parse expr = .ok t

/-- A parsed type is spelled by some text. -/
theorem Parsed.spells {t : GoType} (h : t.Parsed) :
  ∃ s, Spells s t
  := by
  obtain ⟨expr, hexpr⟩ := h
  exact ⟨expr.toList, spells_of_parseChars hexpr⟩

/-- A parsed type is read back from its own text. -/
theorem parsed_iff {t : GoType} :
  t.Parsed ↔ parse t.spelling = .ok t
  := by
  constructor
  · intro h
    obtain ⟨s, hs⟩ := h.spells
    apply hs.spelling.parseChars_eq
  · intro h
    exact ⟨t.spelling, h⟩

instance : DecidablePred Parsed :=
  fun _ => decidable_of_iff _ parsed_iff.symm

/-- The parts of a named type that some text spells. -/
theorem SpellsPlain.of_named {s : List Char} {package name : String}
    (h : SpellsPlain s (.named package name)) :
  IsPath package.toList ∧ isIdentifier name.toList
  := by
  generalize ht : GoType.named package name = t at h
  induction h with
  | named hp hn _ =>
      obtain ⟨rfl, rfl⟩ := GoType.named.inj ht
      rw [String.toList_ofList, String.toList_ofList]
      exact ⟨hp, hn⟩
  | blanks _ _ _ ih => apply ih ht
  | _ => contradiction

/-- A parsed type of a package has a path and an identifier as its two names. -/
theorem Parsed.of_named {package name : String} (h : (named package name).Parsed) :
  IsPath package.toList ∧ isIdentifier name.toList
  := by
  obtain ⟨s, hs⟩ := h.spells
  cases hs with
  | plain hs => apply hs.of_named

/-- The packages of a plain type that some text spells are paths. -/
theorem SpellsPlain.isPath_of_mem {s : List Char} {t : GoType} (h : SpellsPlain s t)
    {package : String} (hpackage : package ∈ t.mentioned) :
  IsPath package.toList
  := by
  induction h with
  | identifier => contradiction
  | emptyInterface => contradiction
  | named hpath =>
      obtain rfl := List.mem_singleton.mp hpackage
      rwa [String.toList_ofList]
  | pointer _ ih => apply ih hpackage
  | slice _ ih => apply ih hpackage
  | map _ _ ihkey ihvalue => apply (List.mem_append.mp hpackage).elim ihkey ihvalue
  | blanks _ _ _ ih => apply ih hpackage

/-- The packages that a parsed type mentions have package paths. -/
theorem Parsed.isPath_of_mem {t : GoType} (h : t.Parsed) {package : String}
    (hpackage : package ∈ t.mentioned) :
  IsPath package.toList
  := by
  obtain ⟨s, hs⟩ := h.spells
  cases hs with
  | plain hs => apply hs.isPath_of_mem hpackage
  | variadic _ hs => apply hs.isPath_of_mem hpackage

/-- The name of a qualified name is what follows its last dot. -/
theorem splitLast_qualified {name : String} (h : isIdentifier name.toList) (package : String) :
  splitLast '.' (package ++ "." ++ name).toList = some (package.toList, name.toList)
  := by
  have hdot := not_mem_of_isIdentifier h (c := '.') rfl
  rw [String.toList_append, String.toList_append, List.append_assoc]
  apply splitLast_append hdot

/-- Both parts of a qualified name are determined. -/
theorem qualified_inj {package package' name name' : String} (hname : isIdentifier name.toList)
    (hname' : isIdentifier name'.toList) (h : package ++ "." ++ name = package' ++ "." ++ name') :
  package = package' ∧ name = name'
  := by
  have hsplit := splitLast_qualified hname package
  rw [h, splitLast_qualified hname' package'] at hsplit
  obtain ⟨hpackage, hname⟩ := Prod.mk.inj (Option.some.inj hsplit)
  exact ⟨(String.toList_inj.mp hpackage).symm, (String.toList_inj.mp hname).symm⟩

/-- Two parsed types with one qualified name are equal. -/
theorem Parsed.eq_of_key? {t t' : GoType} (h : t.Parsed) (h' : t'.Parsed) {a : String}
    (ha : t.key? = some a) (ha' : t'.key? = some a) :
  t = t'
  := by
  cases t with
  | named package name =>
      cases t' with
      | named package' name' =>
          have hkey := (Option.some.inj ha).trans (Option.some.inj ha').symm
          obtain ⟨rfl, rfl⟩ := qualified_inj h.of_named.2 h'.of_named.2 hkey
          rfl
      | _ => contradiction
  | _ => contradiction

end ClientWrap.GoType
