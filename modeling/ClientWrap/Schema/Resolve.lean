import ClientWrap.Error
import ClientWrap.Schema.Basic

/-!
# Resolving a schema

The methods of an interface are its own and those of the interfaces it embeds, at any depth. A
method may be declared more than once if all declarations agree.

`methodsFrom` follows the embeddings. It works out each interface once and keeps its methods in a
table. The declarations on the path to an interface are taken out of those that may be used below
it, which makes the search end and shows an interface that embeds itself.
-/

namespace ClientWrap

open ClientWrap.Text

namespace Method

/-- Why a method of an interface is refused, if it is. -/
def fault? (m : Method) (interface : String) : Option SchemaFault :=
  if !isExported m.name.toList then some (.unexported interface m.name)
  else if m.params.dropLast.any GoType.isVariadic then
    some (.variadicNotLast interface m.name)
  else if m.results.any GoType.isVariadic then some (.variadicResult interface m.name)
  else none

/-- A method set, in ascending order of names, with one more method. There is none if the set has
another method of that name. -/
def insertInto? (m : Method) : List Method → Option (List Method)
  | [] => some [m]
  | n :: rest =>
    if m.name < n.name then some (m :: n :: rest)
    else if m.name = n.name then if m = n then some (n :: rest) else none
    else (insertInto? m rest).map (n :: ·)

end Method

/-- The qualified name of an interface type. -/
def qualified (t : GoType) : Except Error String :=
  match t.key? with
  | some key => .ok key
  | none => .error (.schema (.unqualified t))

/-- The method set of an interface with one more method. -/
def addMethod (interface : String) (set : List Method) (m : Method) :
    Except Error (List Method) :=
  match m.insertInto? set with
  | some set => .ok set
  | none => .error (.schema (.conflict interface m.name))

/-- The method set of an interface with one more method that the interface itself declares. -/
def addOwnMethod (interface : String) (set : List Method) (m : Method) :
    Except Error (List Method) :=
  match m.fault? interface with
  | some fault => .error (.schema fault)
  | none => addMethod interface set m

namespace InterfaceDecl

/-- The qualified name of the declared interface; the spelling of its type if it has none. -/
def key (d : InterfaceDecl) : String :=
  d.name.spelling

/-- The declarations of other interfaces than the named one. -/
def others (decls : List InterfaceDecl) (name : String) : List InterfaceDecl :=
  decls.filter (·.key != name)

/-- Without a declared interface there are fewer declarations. -/
theorem length_others_lt {decls : List InterfaceDecl} {name : String} {d : InterfaceDecl}
    (h : decls.find? (·.key == name) = some d) :
  (others decls name).length < decls.length
  := by
  apply List.length_filter_lt_length_iff_exists.2
  exact ⟨d, List.mem_of_find?_eq_some h, by simpa using List.find?_some h⟩

end InterfaceDecl

/-- The method set of an interface with the methods of one more embedded interface, which
`search` finds with the help of a table. -/
def inherit (interface : String)
    (search : MethodTable → String → Except Error (List Method × MethodTable))
    (found : List Method × MethodTable) (embedded : GoType) :
    Except Error (List Method × MethodTable) := do
  let key ← qualified embedded
  let (methods, table) ← search found.2 key
  let set ← methods.foldlM (addMethod interface) found.1
  return (set, table)

/-- The methods of an interface, and the table with what has been worked out on the way to them.
`usable` holds the declarations that are not on the path to the interface. -/
def methodsFrom (declared : List String) (usable : List InterfaceDecl) (table : MethodTable)
    (name : String) : Except Error (List Method × MethodTable) :=
  match table.methodsOf? name with
  | some methods => .ok (methods, table)
  | none =>
    match _h : usable.find? (·.key == name) with
    | none =>
      if declared.contains name then .error (.schema (.embedsItself name))
      else .error (.unknownInterface (.embedded name))
    | some d => do
      let (inherited, table) ← d.embeds.foldlM (inherit name fun table key =>
        methodsFrom declared (InterfaceDecl.others usable name) table key) ([], table)
      let methods ← d.methods.foldlM (addOwnMethod name) inherited
      return (methods, table.insert name methods)
termination_by usable.length
decreasing_by
  exact InterfaceDecl.length_others_lt _h

/-- The table with the methods of one more interface. -/
def tabulate (decls : List InterfaceDecl) (declared : List String) (table : MethodTable)
    (name : String) : Except Error MethodTable :=
  (methodsFrom declared decls table name).map (·.2)

namespace SchemaSource

/-- The qualified names of the declared interfaces, in the order of their declarations. -/
def declaredNames (seen : List String) : List InterfaceDecl → Except Error (List String)
  | [] => .ok seen
  | d :: rest => do
    let key ← qualified d.name
    if seen.contains key then throw (.schema (.repeatedInterface key))
    declaredNames (seen ++ [key]) rest

/-- The qualified name of an external interface. -/
def externalName (declared : List String) (t : GoType) : Except Error String := do
  let key ← qualified t
  if declared.contains key then throw (.schema (.declaredExternal key))
  return key

/-- The qualified names of the external interfaces. -/
def externalNames (declared : List String) (externals : List GoType) :
    Except Error (List String) :=
  externals.mapM (externalName declared)

/-- The schema that a description stands for. -/
def resolve (s : SchemaSource) : Except Error Schema := do
  let declared ← declaredNames [] s.interfaces
  let externals ← externalNames declared s.externals
  let root ← qualified s.root
  if !declared.contains root then throw (.unknownInterface (.asRoot root))
  let interfaces ← (ascending declared).foldlM (tabulate s.interfaces declared) []
  return ⟨s.root, interfaces, ascending externals⟩

end SchemaSource

end ClientWrap
