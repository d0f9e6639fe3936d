import ClientWrap.Proofs.Code.Lines
import ClientWrap.Proofs.Text.Sorted
import Mathlib.Algebra.GroupWithZero.Nat

/-!
# Reading an import block

A reader of lines finds the imports of a file with their aliases, group by group, where the path of
an import is read as a string literal. A file prints paths as they are, so the reader finds its
imports exactly if no path has a character that ends, escapes or breaks a literal
(`File.importGroups?_text`): if some path has one, what is read takes more characters than there
are.
-/

namespace ClientWrap.Code

open ClientWrap.Text

/-! ### The reader -/

/-- The import that a line declares: a tab, the alias, a space and the path as a literal. -/
def importOf? (line : String) : Option (String × String) :=
  match line.toList with
  | '\t' :: spec =>
    match spec.dropWhile (· != ' ') with
    | ' ' :: '"' :: literal =>
      match unescape literal with
      | some (path, []) => some (String.ofList (spec.takeWhile (· != ' ')), String.ofList path)
      | _ => none
    | _ => none
  | _ => none

/-- The imports in lines up to a closing parenthesis: those before the first empty line, and those
of each group after it. -/
def importsFrom? : List String → Option (List (String × String) × List (List (String × String)))
  | [] => none
  | line :: rest =>
    if line = ")" then some ([], [])
    else if line = "" then (importsFrom? rest).map fun read => ([], read.1 :: read.2)
    else (importOf? line).bind fun i => (importsFrom? rest).map fun read => (i :: read.1, read.2)

/-- The groups of imports in the first import block of a text. -/
def importGroups? (text : String) : Option (List (List (String × String))) :=
  (importsFrom? (((lines text).dropWhile (· != "import (")).drop 1)).map fun read =>
    read.1 :: read.2

/-! ### What a file imports -/

/-- The alias and the path of an imported package. -/
def importSpec (path : String) : String × String :=
  (Naming.packageAlias path, path)

/-- The imports of the file in groups, those of the standard library first. -/
def File.importGroups (f : File) : List (List (String × String)) :=
  [(f.imports.filter isStandard).map importSpec,
    (f.imports.filter (!isStandard ·)).map importSpec].filter (· != [])

/-- Leaving out empty groups leaves out no import. -/
theorem flatten_groups (standard others : List String) :
  ([standard.map importSpec, others.map importSpec].filter (· != [])).flatten
    = (standard ++ others).map importSpec
  := by
  cases standard <;> cases others <;> simp

/-- The character ends, escapes or breaks a literal. -/
def IsMark (c : Char) : Prop :=
  c = '"' ∨ c = '\\' ∨ c = '\n'

instance : DecidablePred IsMark :=
  fun c => inferInstanceAs (Decidable (c = '"' ∨ c = '\\' ∨ c = '\n'))

/-- No character of the path ends, escapes or breaks a literal. -/
def Quotable (path : String) : Prop :=
  ∀ c ∈ path.toList, ¬ IsMark c

instance : DecidablePred Quotable :=
  fun path => List.decidableBAll (fun c => ¬ IsMark c) path.toList

/-! ### Reading what is printed -/

/-- A path without marks of literals is read back as it is. -/
theorem unescape_of_quotable {s : List Char} (h : ∀ c ∈ s, ¬ IsMark c) :
  unescape (s ++ ['"']) = some (s, [])
  := by
  induction s with
  | nil => rfl
  | cons c s ih =>
      obtain ⟨hc, hs⟩ := List.forall_mem_cons.mp h
      simp only [IsMark, not_or] at hc
      rw [List.cons_append, unescape, ih hs]
      · rfl
      all_goals simp_all

variable {path : String} {rest : List String}

/-- The line of a quotable path is a single line. -/
theorem Quotable.oneLine_importLine (h : Quotable path) :
  OneLine (importLine path)
  := by
  have hpath : OneLine path := fun hmem => h _ hmem (Or.inr (Or.inr rfl))
  simp +decide [importLine, hpath]

/-- The line of a quotable path is read as its import. -/
theorem Quotable.importOf?_importLine (h : Quotable path) :
  importOf? (importLine path) = some (importSpec path)
  := by
  have halias : ∀ c ∈ (Naming.packageAlias path).toList, (c != ' ') = true := by
    intro c hc
    rw [Naming.packageAlias, String.toList_ofList] at hc
    have := List.all_eq_true.mp (Naming.aliasChars_all path.toList) c hc
    rw [bne_iff_ne]
    rintro rfl
    contradiction
  have hline : (importLine path).toList
      = '\t' :: ((Naming.packageAlias path).toList ++ ' ' :: '"' :: (path.toList ++ ['"'])) := by
    simp [importLine]
  rw [importOf?, hline]
  simp only
  rw [List.dropWhile_append_of_pos halias, List.takeWhile_append_of_pos halias]
  simp [unescape_of_quotable h, importSpec]

/-- The line of an import neither ends the block nor a group. -/
theorem importLine_ne (path : String) :
  importLine path ≠ ")" ∧ importLine path ≠ ""
  := by
  constructor
  · apply mt (congrArg String.toList)
    simp [importLine]
  · apply mt (congrArg String.toList)
    simp [importLine]

/-- The lines that are printed for imports are read as these. -/
theorem importsFrom?_importLines {paths : List String} (h : ∀ path ∈ paths, Quotable path) :
  importsFrom? (paths.map importLine ++ rest)
    = (importsFrom? rest).map fun read => (paths.map importSpec ++ read.1, read.2)
  := by
  induction paths with
  | nil => simp
  | cons path paths ih =>
      obtain ⟨hpath, hpaths⟩ := List.forall_mem_cons.mp h
      obtain ⟨hclosing, hempty⟩ := importLine_ne path
      rw [List.map_cons, List.cons_append, importsFrom?, if_neg hclosing, if_neg hempty,
        hpath.importOf?_importLine, ih hpaths, Option.bind_some, Option.map_map]
      rfl

/-- The lines between the parentheses of an import block. -/
def specLines (standard others : List String) : List String :=
  standard.map importLine ++ (if standard.isEmpty || others.isEmpty then [] else [""])
    ++ others.map importLine

/-- The lines of quotable paths are single lines. -/
theorem oneLine_specLines {standard others : List String}
    (hstandard : ∀ path ∈ standard, Quotable path) (hothers : ∀ path ∈ others, Quotable path) :
  ∀ l ∈ specLines standard others, OneLine l
  := by
  rw [specLines, List.forall_mem_append, List.forall_mem_append, List.forall_mem_map,
    List.forall_mem_map]
  and_intros
  · intro path hpath
    apply (hstandard path hpath).oneLine_importLine
  · split <;> decide
  · intro path hpath
    apply (hothers path hpath).oneLine_importLine

/-- The lines of an import block are read as its groups. -/
theorem importsFrom?_specLines {standard others : List String}
    (hstandard : ∀ path ∈ standard, Quotable path) (hothers : ∀ path ∈ others, Quotable path)
    (h : standard ≠ [] ∨ others ≠ []) :
  (importsFrom? (specLines standard others ++ ")" :: rest)).map (fun read => read.1 :: read.2)
    = some ([standard.map importSpec, others.map importSpec].filter (· != []))
  := by
  have hend : importsFrom? (")" :: rest) = some ([], []) := by rw [importsFrom?, if_pos rfl]
  rw [specLines, List.append_assoc, List.append_assoc, importsFrom?_importLines hstandard]
  cases standard with
  | nil =>
      have hne : others ≠ [] := by simpa using h
      simp [importsFrom?_importLines hothers, hend, hne]
  | cons path paths =>
      cases others with
      | nil => simp [hend]
      | cons path' paths' =>
          have hgap : importsFrom? ("" :: ((path' :: paths').map importLine ++ ")" :: rest))
              = some ([], [(path' :: paths').map importSpec]) := by
            rw [importsFrom?, if_neg (by decide), if_pos rfl, importsFrom?_importLines hothers, hend]
            simp
          simp only [List.isEmpty_cons, Bool.or_self, Bool.false_eq_true, ↓reduceIte,
            List.singleton_append, hgap]
          simp

/-! ### What is read is as long as the lines -/

/-- A literal that is read has at least the length of its value and one character more for each mark
in it. -/
theorem length_of_unescape {l s after : List Char} (h : unescape l = some (s, after)) :
  s.length + s.countP IsMark + 1 + after.length ≤ l.length
  := by
  fun_induction unescape l generalizing s after with
  | case1 => contradiction
  | case2 rest =>
      obtain ⟨rfl, rfl⟩ := Prod.mk.inj (Option.some.inj h)
      simp [Nat.add_comm]
  | case3 => contradiction
  | case4 l rest ih =>
      obtain ⟨c, -, h⟩ := Option.bind_eq_some_iff.mp h
      obtain ⟨⟨s', after'⟩, hread, h⟩ := Option.bind_eq_some_iff.mp h
      obtain ⟨rfl, rfl⟩ := Prod.mk.inj (Option.some.inj h)
      have hlength := ih hread
      rw [List.countP_cons, List.length_cons, List.length_cons, List.length_cons]
      split <;> omega
  | case5 c rest hquote hfeed hescape ih =>
      obtain ⟨⟨s', after'⟩, hread, h⟩ := Option.bind_eq_some_iff.mp h
      obtain ⟨rfl, rfl⟩ := Prod.mk.inj (Option.some.inj h)
      have hlength := ih hread
      have hmark : ¬ IsMark c := by
        rintro (rfl | rfl | rfl)
        · apply hquote rfl
        · cases rest with
          | nil => contradiction
          | cons l rest => apply hescape l rest rfl rfl
        · apply hfeed rfl
      rw [List.countP_cons_of_neg (by simpa using hmark), List.length_cons, List.length_cons]
      omega

/-- The number of characters of the line that an import takes if its path is escaped. -/
def specLength (i : String × String) : ℕ :=
  i.1.toList.length + i.2.toList.length + i.2.toList.countP IsMark + 4

/-- An import that is read is no longer than its line. -/
theorem length_of_importOf? {line : String} {i : String × String} (h : importOf? line = some i) :
  specLength i ≤ line.toList.length
  := by
  rw [importOf?] at h
  split at h
  · next spec hline =>
      split at h
      · next literal hliteral =>
          split at h
          · next path hread =>
              obtain rfl := Option.some.inj h
              have hlength := length_of_unescape hread
              have hspec := congrArg List.length
                (List.takeWhile_append_dropWhile (p := (· != ' ')) (l := spec))
              rw [hliteral, List.length_append] at hspec
              rw [specLength, hline, String.toList_ofList, String.toList_ofList]
              simp only [List.length_cons, List.length_nil] at *
              omega
          · contradiction
      · contradiction
  · contradiction

/-- The number of characters of lines with their line feeds. -/
def textLength (ls : List String) : ℕ :=
  (ls.map fun l => l.toList.length + 1).sum

/-- The imports that are read up to a closing parenthesis take no more than the lines before it. -/
theorem length_of_importsFrom? {ls : List String} {first : List (String × String)}
    {others : List (List (String × String))}
    (h : importsFrom? (ls ++ ")" :: rest) = some (first, others)) :
  ((first ++ others.flatten).map fun i => specLength i + 1).sum + others.length ≤ textLength ls
  := by
  induction ls generalizing first others with
  | nil =>
      rw [List.nil_append, importsFrom?, if_pos rfl] at h
      obtain ⟨rfl, rfl⟩ := Prod.mk.inj (Option.some.inj h)
      simp
  | cons line ls ih =>
      rw [textLength, List.map_cons, List.sum_cons, ← textLength]
      rw [List.cons_append, importsFrom?] at h
      split at h
      · obtain ⟨rfl, rfl⟩ := Prod.mk.inj (Option.some.inj h)
        simp
      · split at h
        · obtain ⟨⟨first', others'⟩, hread, h⟩ := Option.map_eq_some_iff.mp h
          obtain ⟨rfl, rfl⟩ := Prod.mk.inj h
          have hlength := ih hread
          simp only [List.nil_append, List.flatten_cons, List.length_cons]
          omega
        · obtain ⟨i, hi, h⟩ := Option.bind_eq_some_iff.mp h
          obtain ⟨⟨first', others'⟩, hread, h⟩ := Option.map_eq_some_iff.mp h
          obtain ⟨rfl, rfl⟩ := Prod.mk.inj h
          have hlength := ih hread
          have hline := length_of_importOf? hi
          simp only [List.cons_append, List.map_cons, List.sum_cons]
          omega

/-- The length of lines is that of their parts. -/
@[simp]
theorem textLength_append (ls ls' : List String) :
  textLength (ls ++ ls') = textLength ls + textLength ls'
  := by
  rw [textLength, List.map_append, List.sum_append]
  rfl

/-- The lines of imports are as long as what they stand for would be with an escape for each mark,
less these escapes. -/
theorem textLength_importLines (paths : List String) :
  textLength (paths.map importLine) + (paths.map fun path => path.toList.countP IsMark).sum
    = ((paths.map importSpec).map fun i => specLength i + 1).sum
  := by
  induction paths with
  | nil => rfl
  | cons path paths ih =>
      have hline : (importLine path).toList.length
          = (Naming.packageAlias path).toList.length + path.toList.length + 4 := by
        simp [importLine]
        omega
      rw [textLength] at ih ⊢
      simp only [List.map_cons, List.sum_cons, hline, specLength, importSpec] at ih ⊢
      omega

/-- The lines of a text have its length, with the end of the last one. -/
theorem textLength_lines (l : String) :
  textLength (lines l) = l.toList.length + 1
  := by
  have hsplit : ∀ s : List Char,
      ((s.splitOn '\n').map fun part => part.length + 1).sum = s.length + 1 := by
    intro s
    induction s with
    | nil => simp
    | cons c s ih =>
        rw [List.splitOn_cons_eq_if_modifyHead]
        split
        · simp [ih, Nat.add_comm]
        · obtain ⟨part, parts, hparts⟩ := List.exists_cons_of_ne_nil (List.splitOn_ne_nil '\n' s)
          rw [hparts] at ih ⊢
          simp only [List.modifyHead_cons, List.map_cons, List.sum_cons, List.length_cons] at ih ⊢
          omega
  rw [textLength, lines, List.map_map]
  simpa [Function.comp_def] using hsplit l.toList

/-- Breaking lines up further does not change their length. -/
theorem textLength_flatMap_lines (ls : List String) :
  textLength (ls.flatMap lines) = textLength ls
  := by
  induction ls with
  | nil => rfl
  | cons l ls ih =>
      rw [List.flatMap_cons, textLength_append, textLength_lines, ih, textLength, textLength,
        List.map_cons, List.sum_cons]

/-- If the imports are read from the lines that are printed for them, then their paths can stand in
literals. -/
theorem quotable_of_importsFrom? {standard others : List String}
    (h : (importsFrom? ((specLines standard others).flatMap lines ++ ")" :: rest)).map
        (fun read => read.1 :: read.2)
      = some ([standard.map importSpec, others.map importSpec].filter (· != []))) :
  ∀ path ∈ standard ++ others, Quotable path
  := by
  obtain ⟨⟨first, groups⟩, hread, hgroups⟩ := Option.map_eq_some_iff.mp h
  have hlength := length_of_importsFrom? hread
  have hflatten : first ++ groups.flatten = (standard ++ others).map importSpec := by
    rw [← flatten_groups, ← hgroups, List.flatten_cons]
  have hgaps : textLength (specLines standard others)
      = textLength ((standard ++ others).map importLine) + groups.length := by
    have hcount := congrArg List.length hgroups
    rw [specLines, textLength_append, textLength_append, List.map_append, textLength_append]
    cases standard <;> cases others <;> simp [textLength] at hcount ⊢ <;> omega
  rw [textLength_flatMap_lines, hflatten, ← textLength_importLines, hgaps] at hlength
  have hmarks : ((standard ++ others).map fun path => path.toList.countP IsMark).sum = 0 := by
    omega
  intro path hpath c hc hmark
  have hzero := List.sum_eq_zero_iff_forall_eq_nat.mp hmarks _ (List.mem_map_of_mem hpath)
  apply List.countP_eq_zero.mp hzero c hc
  simpa using hmark

/-! ### Files -/

namespace File

variable {f : File}

/-- A file that imports something begins with the lines of its package clause and the opening line
of the import block. -/
theorem lines_eq (h : f.imports ≠ []) :
  f.lines = [generatedMark, "", "package " ++ f.package, "", "import ("]
    ++ (specLines (f.imports.filter isStandard) (f.imports.filter (!isStandard ·))
      ++ ")" :: f.bodyLines)
  := by
  rw [lines, preambleLines, importLines, if_neg (by simpa using h)]
  simp only [List.partition_eq_filter_filter, specLines]
  simp
  rfl

/-- The lines of the text after the opening line of the import block. -/
theorem dropWhile_lines_text (hpackage : isIdentifier f.package.toList) (h : f.imports ≠ []) :
  ((Text.lines f.text).dropWhile (· != "import (")).drop 1
    = (specLines (f.imports.filter isStandard) (f.imports.filter (!isStandard ·))).flatMap
        Text.lines
      ++ ")" :: (f.bodyLines.flatMap Text.lines ++ [""])
  := by
  have hheader : ∀ l ∈ [generatedMark, "", "package " ++ f.package, "", "import ("], OneLine l := by
    have hpackage : OneLine ("package " ++ f.package) := by
      simp +decide [oneLine_of_isIdentifier hpackage]
    simp +decide [hpackage]
  have hclause : "package " ++ f.package ≠ "import (" := by
    apply mt (congrArg String.toList)
    simp
  have hclosing : Text.lines ")" = [")"] := lines_of_oneLine (by decide)
  rw [text, lines_ofLines_flatMap, lines_eq h, List.flatMap_append, flatMap_lines hheader,
    List.flatMap_append, List.flatMap_cons, hclosing]
  simp +decide [hclause]

/-- The imports of a file are read from its text exactly if their paths can stand in literals. -/
theorem importGroups?_text (hpackage : isIdentifier f.package.toList) (h : f.imports ≠ []) :
  importGroups? f.text = some f.importGroups ↔ ∀ path ∈ f.imports, Quotable path
  := by
  have hparts : ∀ path, path ∈ f.imports.filter isStandard ++ f.imports.filter (!isStandard ·)
      ↔ path ∈ f.imports := by
    intro path
    rw [List.mem_append, List.mem_filter, List.mem_filter]
    cases isStandard path <;> simp
  rw [importGroups?, dropWhile_lines_text hpackage h, importGroups]
  constructor
  · intro hread path hpath
    apply quotable_of_importsFrom? hread path ((hparts path).mpr hpath)
  · intro hquotable
    have hstandard : ∀ path ∈ f.imports.filter isStandard, Quotable path := by
      intro path hpath
      apply hquotable path (List.mem_of_mem_filter hpath)
    have hothers : ∀ path ∈ f.imports.filter (!isStandard ·), Quotable path := by
      intro path hpath
      apply hquotable path (List.mem_of_mem_filter hpath)
    have hne : f.imports.filter isStandard ≠ [] ∨ f.imports.filter (!isStandard ·) ≠ [] := by
      obtain ⟨path, hpath⟩ := List.exists_mem_of_ne_nil _ h
      rcases List.mem_append.mp ((hparts path).mpr hpath) with hmem | hmem
      · exact Or.inl (List.ne_nil_of_mem hmem)
      · exact Or.inr (List.ne_nil_of_mem hmem)
    rw [flatMap_lines (oneLine_specLines hstandard hothers)]
    apply importsFrom?_specLines hstandard hothers hne

end File

end ClientWrap.Code
