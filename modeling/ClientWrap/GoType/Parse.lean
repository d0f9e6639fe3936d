import ClientWrap.GoType
import ClientWrap.Text.Blank
import ClientWrap.Text.Identifier
import ClientWrap.Text.Lines

/-!
# Reading a type

A type expression is read by recursive descent. Blanks may surround every type of the expression.
The key of a map ends at the bracket that closes the one after `map`. A name is split from its
package at the last dot after the last slash, because package paths may hold dots themselves.
-/

namespace ClientWrap.GoType

open ClientWrap.Text

/-- Why an expression is no type. -/
inductive Fault where
  | empty
  | innerVariadic
  | unbalancedKey
  | fixedArray
  | missingName
  | badIdentifier
  | badPackage
  | badName
  deriving DecidableEq, Repr

/-- The wording of a fault. -/
def Fault.message : Fault → String
  | empty => "empty type"
  | innerVariadic => "variadic marker is only allowed at the outermost level"
  | unbalancedKey => "unbalanced map key brackets"
  | fixedArray => "fixed size arrays are not supported"
  | missingName => "missing type name after package path"
  | badIdentifier => "invalid identifier"
  | badPackage => "invalid package path"
  | badName => "invalid type name"

/-- The characters of a part of a package path. -/
def isPathChar (c : Char) : Bool :=
  c.isAlphanum || c == '_' || c == '.' || c == '~' || c == '-'

/-- Whether the text is a package path: parts between slashes, none of them empty. -/
def isPackagePath (s : List Char) : Bool :=
  (s.splitOn '/').all fun part => !part.isEmpty && part.all isPathChar

/-- The text before the bracket that closes `depth + 1` open ones, and the text after it. -/
def closeKey (depth : Nat) : List Char → Option (List Char × List Char)
  | [] => none
  | c :: rest =>
    if c = ']' ∧ depth = 0 then some ([], rest)
    else
      let depth := if c = ']' then depth - 1 else if c = '[' then depth + 1 else depth
      (closeKey depth rest).map fun (key, after) => (c :: key, after)

/-- The text before the last occurrence of a character, and the text after it. -/
def splitLast (sep : Char) : List Char → Option (List Char × List Char)
  | [] => none
  | c :: rest =>
    match splitLast sep rest with
    | some (before, after) => some (c :: before, after)
    | none => if c = sep then some ([], rest) else none

/-- The text up to its last slash, and the text after it. -/
def splitPath (s : List Char) : List Char × List Char :=
  match splitLast '/' s with
  | some (path, last) => (path ++ ['/'], last)
  | none => ([], s)

/-- A name, with the package before it if there is one. -/
def parseName (s : List Char) : Except Fault GoType :=
  let (path, last) := splitPath s
  match splitLast '.' last with
  | none =>
    if !path.isEmpty then .error .missingName
    else if isIdentifier s then .ok (builtin (String.ofList s))
    else .error .badIdentifier
  | some (before, name) =>
    if !isPackagePath (path ++ before) then .error .badPackage
    else if !isIdentifier name then .error .badName
    else .ok (named (String.ofList (path ++ before)) (String.ofList name))

/-- The key of a map type and what follows it are both shorter than the text they are read from. -/
theorem closeKey_length {depth : Nat} {s key after : List Char}
    (h : closeKey depth s = some (key, after)) :
  key.length < s.length ∧ after.length < s.length
  := by
  induction s generalizing depth key after with
  | nil => simp [closeKey] at h
  | cons c rest ih =>
    rw [closeKey] at h
    split at h
    · simp only [Option.some.injEq, Prod.mk.injEq] at h
      simp [← h.1, ← h.2]
    · obtain ⟨⟨k, a⟩, hk, heq⟩ := Option.map_eq_some_iff.1 h
      simp only [Prod.mk.injEq] at heq
      have := ih hk
      simp only [← heq.1, ← heq.2, List.length_cons]
      omega

/-- A type without the variadic marker. -/
def parsePlain (expr : List Char) : Except Fault GoType :=
  match _h : trim expr with
  | [] => .error .empty
  | '.' :: '.' :: '.' :: _ => .error .innerVariadic
  | '*' :: rest => (parsePlain rest).map pointer
  | '[' :: ']' :: rest => (parsePlain rest).map slice
  | 'm' :: 'a' :: 'p' :: '[' :: rest =>
    match _hk : closeKey 0 rest with
    | none => .error .unbalancedKey
    | some (key, value) => do
      let key ← parsePlain key
      let value ← parsePlain value
      return map key value
  | '[' :: _ => .error .fixedArray
  | s =>
    if s = "interface\x7b\x7d".toList then .ok (builtin (String.ofList s)) else parseName s
termination_by expr.length
decreasing_by
  · have h := length_trim_le expr
    rw [_h, List.length_cons] at h
    omega
  · have h := length_trim_le expr
    rw [_h, List.length_cons, List.length_cons] at h
    omega
  all_goals
    have h := length_trim_le expr
    have hk := closeKey_length _hk
    rw [_h] at h
    simp only [List.length_cons] at h hk
    omega

/-- The type that a text spells, with the variadic marker allowed in front. -/
def parseChars (expr : List Char) : Except Fault GoType :=
  match trim expr with
  | '.' :: '.' :: '.' :: rest => (parsePlain rest).map variadic
  | s => parsePlain s

/-- The type that an expression spells. -/
def parse (expr : String) : Except Fault GoType :=
  parseChars expr.toList

end ClientWrap.GoType
