import ClientWrap.GoType

/-!
# Import aliases

A package is imported under an alias made from its path, so that a type prints the same wherever
it is mentioned. Two paths may have one alias; `clash?` finds the first such pair.

Main statements:

* `aliasChars_all`: an alias holds identifier characters only.
-/

namespace ClientWrap

namespace Naming

/-- The characters that an alias keeps. -/
def isAliasChar (c : Char) : Bool :=
  c.isAlphanum || c == '_'

/-- An underscore for every character that an identifier cannot hold, and one in front of a
leading digit. -/
def aliasChars (path : List Char) : List Char :=
  let cs := path.map fun c => if isAliasChar c then c else '_'
  match cs with
  | [] => []
  | c :: _ => if c.isDigit then '_' :: cs else cs

/-- The alias under which a package is imported. -/
def packageAlias (path : String) : String :=
  String.ofList (aliasChars path.toList)

/-- The first path of an ascending list whose alias an earlier path has, with that path: the alias
and the two paths in order. `seen` holds the paths before the list. -/
def clashAfter? (seen : List String) : List String → Option (String × String × String)
  | [] => none
  | path :: rest =>
    match seen.find? fun q => packageAlias q == packageAlias path with
    | some first => some (packageAlias path, first, path)
    | none => clashAfter? (seen ++ [path]) rest

/-- The first two paths of an ascending list with one alias. -/
def clash? (paths : List String) : Option (String × String × String) :=
  clashAfter? [] paths

/-- An alias holds identifier characters only. -/
theorem aliasChars_all (path : List Char) :
  (aliasChars path).all isAliasChar = true
  := by
  have h : ((path.map fun c => if isAliasChar c then c else '_')).all isAliasChar = true := by
    simp only [List.all_map, List.all_eq_true, Function.comp]
    intro c _
    by_cases hc : isAliasChar c
    · simp [hc]
    · simp [hc]; decide
  unfold aliasChars
  simp only
  split
  · rfl
  · next c _ heq =>
    split
    · rw [List.all_cons, h, Bool.and_true]; decide
    · exact h

end Naming

namespace GoType

/-- The type as a file prints it, with the alias of its package before each name. -/
def text : GoType → String
  | builtin name => name
  | named package name => Naming.packageAlias package ++ "." ++ name
  | pointer element => "*" ++ element.text
  | slice element => "[]" ++ element.text
  | map key value => "map[" ++ key.text ++ "]" ++ value.text
  | variadic element => "..." ++ element.text

/-- The name of the type without its package; the printed type if it has no name of its own. -/
def shortName : GoType → String
  | named _ name => name
  | t => t.text

end GoType

end ClientWrap
