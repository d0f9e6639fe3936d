import ClientWrap.Method

/-!
# Schemas

What is known of the interfaces of a clientset. A `SchemaSource` is a description as it is written
down: each interface declares methods and embeds other interfaces. A `Schema` is the description
worked out: each interface with all its methods, in ascending order of their names.
-/

namespace ClientWrap

/-- An interface as it is declared. -/
structure InterfaceDecl where
  name : GoType
  embeds : List GoType
  methods : List Method
  deriving DecidableEq, Repr, Inhabited

/-- A description of interfaces as it is written down. The methods of external interfaces are not
described. -/
structure SchemaSource where
  root : GoType
  interfaces : List InterfaceDecl
  externals : List GoType
  deriving DecidableEq, Repr

/-- The methods of interfaces that have been worked out, under the qualified names of the
interfaces and in ascending order of these names. -/
abbrev MethodTable := List (String × List Method)

namespace MethodTable

/-- The methods under a name. -/
def methodsOf? (table : MethodTable) (name : String) : Option (List Method) :=
  (table.find? (·.1 == name)).map (·.2)

/-- The table with methods put under a name. -/
def insert (name : String) (methods : List Method) : MethodTable → MethodTable
  | [] => [(name, methods)]
  | entry :: rest =>
    if name < entry.1 then (name, methods) :: entry :: rest
    else if name = entry.1 then (name, methods) :: rest
    else entry :: insert name methods rest

end MethodTable

/-- A description of interfaces with the methods of every declared interface. -/
structure Schema where
  root : GoType
  interfaces : MethodTable
  externals : List String
  deriving DecidableEq, Repr

namespace Schema

/-- The methods of an interface under its qualified name. -/
def methodsOf? (s : Schema) (name : String) : Option (List Method) :=
  s.interfaces.methodsOf? name

/-- The methods of an interface type, if they are described. -/
def methods? (s : Schema) (t : GoType) : Option (List Method) :=
  t.key?.bind s.methodsOf?

/-- Whether a type is known to be an interface. -/
def isInterface (s : Schema) : GoType → Bool
  | .builtin name => name == "error"
  | .named package name =>
    let key := package ++ "." ++ name
    (s.methodsOf? key).isSome || s.externals.contains key
  | _ => false

end Schema

end ClientWrap
