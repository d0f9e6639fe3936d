import ClientWrap.Proofs.GoType.Spelling
import ClientWrap.Proofs.Outcome

/-!
# Reading is the inverse of spelling

An expression is read as a type exactly if it spells the type (`parse_iff_spells`). Therefore an
expression spells at most one type, and a type that some expression spells is read back from its
own text.
-/

namespace ClientWrap.GoType

open ClientWrap.Text

/-! ### Paths and names -/

/-- The test for package paths is the grammar of paths. -/
theorem isPackagePath_iff {s : List Char} :
  isPackagePath s = true ↔ IsPath s
  := by
  have hpart : ∀ s : List Char, (!s.isEmpty && s.all isPathChar) = true ↔ IsPathPart s := by
    simp [IsPathPart]
  constructor
  · intro h
    induction hn : s.length using Nat.strongRecOn generalizing s with
    | _ n ih =>
        by_cases hs : '/' ∈ s
        · obtain ⟨a, b, rfl, ha⟩ := List.eq_append_cons_of_mem hs
          rw [isPackagePath, List.splitOn_append_cons_self_of_not_mem ha, List.all_cons,
            Bool.and_eq_true, hpart] at h
          apply IsPath.slash h.1
          apply ih b.length _ h.2 rfl
          simp [← hn]
          omega
        · rw [isPackagePath, List.splitOn_eq_singleton hs, List.all_cons, List.all_nil, Bool.and_true,
            hpart] at h
          apply IsPath.part h
  · intro h
    have hslash : ∀ s : List Char, IsPathPart s → '/' ∉ s := by
      intro s hs hmem
      have := hs.2 '/' hmem
      contradiction
    induction h with
    | part hs =>
        rw [isPackagePath, List.splitOn_eq_singleton (hslash _ hs), List.all_cons, List.all_nil,
          Bool.and_true]
        apply (hpart _).mpr hs
    | slash hs _ ih =>
        rw [isPackagePath, List.splitOn_append_cons_self_of_not_mem (hslash _ hs), List.all_cons,
          Bool.and_eq_true]
        exact ⟨(hpart _).mpr hs, ih⟩

/-- A text without the separator is not split. -/
theorem splitLast_of_not_mem {sep : Char} {s : List Char} (h : sep ∉ s) :
  splitLast sep s = none
  := by
  induction s with
  | nil => rfl
  | cons c s ih =>
      obtain ⟨hc, hs⟩ := not_or.mp (mt List.mem_cons.mpr h)
      rw [splitLast, ih hs]
      apply if_neg (Ne.symm hc)

/-- A text is split at a separator after which there is none. -/
theorem splitLast_append {sep : Char} {after : List Char} (h : sep ∉ after) (before : List Char) :
  splitLast sep (before ++ sep :: after) = some (before, after)
  := by
  induction before with
  | nil => simp [splitLast, splitLast_of_not_mem h]
  | cons c before ih => rw [List.cons_append, splitLast, ih]

/-- The separator stands between the parts of a split. -/
theorem eq_of_splitLast {sep : Char} {s before after : List Char}
    (h : splitLast sep s = some (before, after)) :
  s = before ++ sep :: after
  := by
  induction s generalizing before with
  | nil => contradiction
  | cons c s ih =>
      rw [splitLast] at h
      split at h
      · next b a hs =>
          obtain ⟨rfl, rfl⟩ := Prod.mk.inj (Option.some.inj h)
          rw [ih hs, List.cons_append]
      · split at h
        · next hc =>
            obtain ⟨rfl, rfl⟩ := Prod.mk.inj (Option.some.inj h)
            rw [hc, List.nil_append]
        · contradiction

/-- A path and what is split off it make up the text. -/
theorem splitPath_append (s : List Char) :
  (splitPath s).1 ++ (splitPath s).2 = s
  := by
  rw [splitPath]
  cases h : splitLast '/' s with
  | none => rfl
  | some p => simp [eq_of_splitLast h]

/-- The slash at which a text is split stands before a last part without slashes. -/
theorem exists_splitPath_append (path : List Char) {last : List Char} (h : '/' ∉ last) :
  ∃ lead rest, splitPath (path ++ last) = (lead, rest ++ last) ∧ lead ++ rest = path
  := by
  by_cases hp : '/' ∈ path
  · obtain ⟨b, a, hab, hb⟩ := List.eq_append_cons_of_mem (List.mem_reverse.mpr hp)
    obtain rfl : path = a.reverse ++ '/' :: b.reverse := by
      rw [← List.reverse_reverse path, hab]
      simp
    use a.reverse ++ ['/'], b.reverse
    rw [splitPath, List.append_assoc, List.cons_append, splitLast_append]
    · simp
    · simp [hb, h]
  · use [], path
    rw [splitPath, splitLast_of_not_mem (by simp [hp, h])]
    simp

/-- The key of a map ends at the bracket in front of its values. -/
theorem eq_of_closeKey {depth : Nat} {s key after : List Char}
    (h : closeKey depth s = some (key, after)) :
  s = key ++ ']' :: after
  := by
  induction s generalizing depth key with
  | nil => contradiction
  | cons c s ih =>
      rw [closeKey] at h
      split at h
      · next hc =>
          obtain ⟨rfl, rfl⟩ := Prod.mk.inj (Option.some.inj h)
          rw [hc.1, List.nil_append]
      · obtain ⟨⟨k, a⟩, hk, heq⟩ := Option.map_eq_some_iff.mp h
        obtain ⟨rfl, rfl⟩ := Prod.mk.inj heq
        rw [List.cons_append, ← ih hk]

/-- What is read as a name spells it, unless it begins like a variadic marker. -/
theorem spellsPlain_of_parseName {s : List Char} {t : GoType} (h : parseName s = .ok t)
    (hdots : ¬ "...".toList <+: s) :
  SpellsPlain s t
  := by
  have happend := splitPath_append s
  rw [parseName] at h
  generalize splitPath s = p at h happend
  obtain ⟨path, last⟩ := p
  simp only at h happend
  split at h
  · split at h
    · contradiction
    · split at h
      · next hid =>
          obtain rfl := Except.ok.inj h
          apply SpellsPlain.identifier hid
      · contradiction
  · next before name hlast =>
      obtain rfl : s = (path ++ before) ++ '.' :: name := by
        rw [← happend, eq_of_splitLast hlast, List.append_assoc]
      split at h
      · contradiction
      · next hpath =>
          split at h
          · contradiction
          · next hname =>
              obtain rfl := Except.ok.inj h
              apply SpellsPlain.named _ _ hdots
              · apply isPackagePath_iff.mp
                simpa using hpath
              · simpa using hname

/-- An identifier is read as a type of the language itself. -/
theorem parseName_identifier {s : List Char} (h : isIdentifier s) :
  parseName s = .ok (builtin (String.ofList s))
  := by
  have hslash := not_mem_of_isIdentifier h (c := '/') rfl
  have hdot := not_mem_of_isIdentifier h (c := '.') rfl
  rw [parseName, splitPath, splitLast_of_not_mem hslash]
  simp only
  rw [splitLast_of_not_mem hdot]
  simp [h]

/-- A name after a package path is split from the path. -/
theorem parseName_named {path name : List Char} (hp : IsPath path) (hn : isIdentifier name) :
  parseName (path ++ '.' :: name) = .ok (named (String.ofList path) (String.ofList name))
  := by
  have hslash : '/' ∉ '.' :: name := by simp [not_mem_of_isIdentifier hn (c := '/') rfl]
  have hdot := not_mem_of_isIdentifier hn (c := '.') rfl
  obtain ⟨lead, rest, hsplit, rfl⟩ := exists_splitPath_append path hslash
  rw [parseName, hsplit]
  simp only
  rw [splitLast_append hdot]
  simp [isPackagePath_iff.mpr hp, hn]

/-! ### Plain types -/

/-- Blanks around a plain type do not matter. -/
theorem SpellsPlain.of_trim {s : List Char} {t : GoType} (h : SpellsPlain (trim s) t) :
  SpellsPlain s t
  := by
  obtain ⟨before, after, hb, ha, hs⟩ := exists_trim s
  rw [hs]
  apply SpellsPlain.blanks hb ha h

/-- What is read as a type without a marker spells it. -/
theorem spellsPlain_of_parsePlain {s : List Char} {t : GoType} (h : parsePlain s = .ok t) :
  SpellsPlain s t
  := by
  fun_induction parsePlain s generalizing t with
  | case1 => contradiction
  | case2 => contradiction
  | case3 s rest hs ih =>
      obtain ⟨u, hu, rfl⟩ := Outcome.map_eq_ok.mp h
      apply SpellsPlain.of_trim
      rw [hs]
      apply SpellsPlain.pointer (ih hu)
  | case4 s rest hs ih =>
      obtain ⟨u, hu, rfl⟩ := Outcome.map_eq_ok.mp h
      apply SpellsPlain.of_trim
      rw [hs]
      apply SpellsPlain.slice (ih hu)
  | case5 => contradiction
  | case6 s rest hs key value hclose ihkey ihvalue =>
      obtain ⟨k, hk, h⟩ := Outcome.bind_eq_ok.mp h
      obtain ⟨v, hv, h⟩ := Outcome.bind_eq_ok.mp h
      obtain rfl := Except.ok.inj h
      apply SpellsPlain.of_trim
      rw [hs, eq_of_closeKey hclose]
      apply SpellsPlain.map (ihkey hk) (ihvalue hv)
  | case7 => contradiction
  | case8 s _ _ _ _ _ _ hs =>
      obtain rfl := Except.ok.inj h
      apply SpellsPlain.of_trim
      rw [hs]
      apply SpellsPlain.emptyInterface
  | case9 s _ hdots =>
      apply SpellsPlain.of_trim
      apply spellsPlain_of_parseName h
      rintro ⟨rest, hrest⟩
      apply hdots rest hrest.symm

/-! Reading a type by what its trimmed expression begins with. -/

/-- A star is read as a pointer to what follows it. -/
theorem parsePlain_pointer {s rest : List Char} (h : trim s = '*' :: rest) :
  parsePlain s = (parsePlain rest).map pointer
  := by
  rw [parsePlain]
  split <;> simp_all

/-- Empty brackets are read as a slice of what follows them. -/
theorem parsePlain_slice {s rest : List Char} (h : trim s = '[' :: ']' :: rest) :
  parsePlain s = (parsePlain rest).map slice
  := by
  rw [parsePlain]
  split <;> simp_all

/-- A map is read from its key in brackets and what follows them. -/
theorem parsePlain_map {s rest key value : List Char}
    (h : trim s = 'm' :: 'a' :: 'p' :: '[' :: rest) (hk : closeKey 0 rest = some (key, value)) :
  parsePlain s = do return map (← parsePlain key) (← parsePlain value)
  := by
  rw [parsePlain]
  split
  case h_5 rest' hrest =>
    obtain rfl : rest = rest' := by simp_all
    split <;> simp_all
  all_goals simp_all

/-- A text without any of the marks of other types is read as a name. -/
theorem parsePlain_name {s name : List Char} (h : trim s = name) (hne : name ≠ [])
    (hdots : ¬ "...".toList <+: name) (hstar : '*' ∉ name) (hbracket : '[' ∉ name)
    (hempty : name ≠ "interface\x7b\x7d".toList) :
  parsePlain s = parseName name
  := by
  subst h
  rw [parsePlain]
  split
  case h_7 => rw [if_neg hempty]
  all_goals simp_all

/-- The empty interface is read as a type of the language itself. -/
theorem parsePlain_emptyInterface {s : List Char} (h : trim s = "interface\x7b\x7d".toList) :
  parsePlain s = .ok (builtin "interface\x7b\x7d")
  := by
  rw [parsePlain]
  split
  case h_7 => rw [if_pos h, h]; rfl
  all_goals simp_all

/-- An identifier between blanks is read as a type of the language itself. -/
theorem parsePlain_identifier {s name : List Char} (h : trim s = name) (hn : isIdentifier name) :
  parsePlain s = .ok (builtin (String.ofList name))
  := by
  rw [parsePlain_name h (ne_nil_of_isIdentifier hn), parseName_identifier hn]
  · rintro ⟨rest, rfl⟩
    contradiction
  · apply not_mem_of_isIdentifier hn rfl
  · apply not_mem_of_isIdentifier hn rfl
  · rintro rfl
    contradiction

/-- A path and an identifier between blanks are read as a type of a package. -/
theorem parsePlain_named {s path name : List Char} (h : trim s = path ++ '.' :: name)
    (hp : IsPath path) (hn : isIdentifier name) (hdots : ¬ "...".toList <+: path ++ '.' :: name) :
  parsePlain s = .ok (named (String.ofList path) (String.ofList name))
  := by
  have hchars := hp.named_chars hn
  rw [parsePlain_name h (by simp) hdots, parseName_named hp hn]
  · intro hc
    apply (hchars _ hc).2.2.2 rfl
  · intro hc
    apply (hchars _ hc).2.1 rfl
  · intro heq
    have hdot : '.' ∉ "interface\x7b\x7d".toList := by decide
    apply hdot
    rw [← heq]
    simp

/-- A text that spells a plain type is read as that type, and so is every text that is the same when
it is trimmed, since the reader trims its text at every level. -/
theorem SpellsPlain.parsePlain_eq {s : List Char} {t : GoType} (h : SpellsPlain s t) :
  ∀ s', trim s' = trim s → parsePlain s' = .ok t
  := by
  induction h with
  | identifier hs =>
      intro s' htrim
      have hrest := all_isIdentRest_of_isIdentifier hs
      rw [trim_eq_self_of_not_blank fun c hc =>
        not_isBlank_of_isPathChar (isPathChar_of_isIdentRest (hrest c hc))] at htrim
      apply parsePlain_identifier htrim hs
  | emptyInterface =>
      intro s' htrim
      apply parsePlain_emptyInterface
      rw [htrim]
      decide
  | named hp hn hdots =>
      intro s' htrim
      rw [trim_eq_self_of_not_blank fun c hc => (hp.named_chars hn c hc).1] at htrim
      apply parsePlain_named htrim hp hn hdots
  | pointer _ ih =>
      intro s' htrim
      rw [trim_cons rfl] at htrim
      rw [parsePlain_pointer htrim, ih _ (trim_trimEnd _)]
      rfl
  | slice _ ih =>
      intro s' htrim
      rw [trim_cons rfl, trimEnd_cons_of_not_blank rfl] at htrim
      rw [parsePlain_slice htrim, ih _ (trim_trimEnd _)]
      rfl
  | @map s₁ s₂ _ _ hkey _ ihkey ihvalue =>
      intro s' htrim
      have hend := trimEnd_append_cons (c := ']') rfl ('a' :: 'p' :: '[' :: s₁) s₂
      rw [trim_cons rfl] at htrim
      rw [parsePlain_map (htrim.trans (congrArg _ hend)) (hkey.closeKey_append _),
        ihkey _ rfl, ihvalue _ (trim_trimEnd _)]
      rfl
  | blanks hb ha _ ih =>
      intro s' htrim
      rw [trim_append hb ha] at htrim
      apply ih s' htrim

/-! ### Types with the marker -/

/-- What is read as a type spells it. -/
theorem spells_of_parseChars {s : List Char} {t : GoType} (h : parseChars s = .ok t) :
  Spells s t
  := by
  obtain ⟨before, after, hb, ha, hs⟩ := exists_trim s
  rw [parseChars] at h
  split at h
  · next rest hrest =>
      obtain ⟨u, hu, rfl⟩ := Outcome.map_eq_ok.mp h
      have hu := SpellsPlain.blanks (List.forall_mem_nil _) ha (spellsPlain_of_parsePlain hu)
      rw [hs, hrest, List.append_assoc]
      apply Spells.variadic hb hu
  · apply Spells.plain
    apply SpellsPlain.of_trim (spellsPlain_of_parsePlain h)

/-- The marker of remaining arguments is refused inside a type. -/
theorem parsePlain_dots {s rest : List Char} (h : trim s = '.' :: '.' :: '.' :: rest) :
  parsePlain s = .error .innerVariadic
  := by
  rw [parsePlain]
  split <;> simp_all

/-- A text that spells a type is read as that type. -/
theorem Spells.parseChars_eq {s : List Char} {t : GoType} (h : Spells s t) :
  parseChars s = .ok t
  := by
  rw [parseChars]
  cases h with
  | plain h =>
      split
      · next rest hrest =>
          have herror := h.parsePlain_eq s rfl
          rw [parsePlain_dots hrest] at herror
          contradiction
      · apply h.parsePlain_eq
        apply trim_trim
  | variadic hb h =>
      have htrim : ∀ before s : List Char, (∀ c ∈ before, isBlank c) →
          trim (before ++ '.' :: '.' :: '.' :: s) = '.' :: '.' :: '.' :: trimEnd s := by
        intro before s hb
        have := trim_append hb (List.forall_mem_nil _) ('.' :: '.' :: '.' :: s)
        rw [List.append_nil] at this
        rw [this, trim_cons rfl]
        apply congrArg
        apply trimEnd_append_cons rfl ['.'] s
      rw [htrim _ _ hb]
      simp only
      rw [h.parsePlain_eq _ (trim_trimEnd _)]
      rfl

/-- An expression is read as a type exactly if it spells that type. It spells no other type,
and the text of the type is read as the type again. -/
theorem parse_iff_spells (s : String) (t : GoType) :
  (parse s = .ok t ↔ Spells s.toList t)
    ∧ (∀ t', Spells s.toList t → Spells s.toList t' → t = t')
    ∧ (Spells s.toList t → parse t.spelling = .ok t)
  := by
  and_intros
  · constructor
    · apply spells_of_parseChars
    · apply Spells.parseChars_eq
  · intro t' h h'
    have := h.parseChars_eq.symm.trans h'.parseChars_eq
    apply Except.ok.inj this
  · intro h
    apply h.spelling.parseChars_eq

end ClientWrap.GoType
