import ClientWrap.Text.Ascending

/-!
# Types of method signatures

A Go type as a signature of a described method can mention it: a name, with or without the
package that declares it, and what pointers, slices, maps and a variadic marker make of types.

`GoType.spelling` writes a type with the full path of every package, `GoType.packages` is the set
of packages that it mentions.
-/

namespace ClientWrap

/-- A type in a signature. A `named` type carries the import path of its package. -/
inductive GoType where
  | builtin (name : String)
  | named (package name : String)
  | pointer (element : GoType)
  | slice (element : GoType)
  | map (key value : GoType)
  | variadic (element : GoType)
  deriving DecidableEq, Repr, Inhabited

namespace GoType

/-- The type with the full import path before each name of a package. -/
def spelling : GoType → String
  | builtin name => name
  | named package name => package ++ "." ++ name
  | pointer element => "*" ++ element.spelling
  | slice element => "[]" ++ element.spelling
  | map key value => "map[" ++ key.spelling ++ "]" ++ value.spelling
  | variadic element => "..." ++ element.spelling

/-- The packages of a type in the order in which it mentions them. -/
def mentioned : GoType → List String
  | builtin _ => []
  | named package _ => [package]
  | pointer element | slice element | variadic element => element.mentioned
  | map key value => key.mentioned ++ value.mentioned

/-- The set of the packages that a type mentions. -/
def packages (t : GoType) : List String :=
  Text.ascending t.mentioned

/-- Whether the type stands for the remaining arguments of a call. -/
def isVariadic : GoType → Bool
  | variadic _ => true
  | _ => false

/-- The qualified name of an interface type, under which schemas describe its methods. -/
def key? : GoType → Option String
  | named package name => some (package ++ "." ++ name)
  | _ => none

/-- The key of an interface type is how the type is spelled in a schema. -/
theorem spelling_of_key? {t : GoType} {k : String} (h : t.key? = some k) :
  t.spelling = k
  := by cases t <;> simp_all [key?, spelling]

end GoType

end ClientWrap
