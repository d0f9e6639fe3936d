import ClientWrap.Schema.Basic

/-!
# Clientsets

What is wrapped: a clientset gives access to typed clients, a client to resources, and a resource
has operations. At each level some methods are passed through as they are.
-/

namespace ClientWrap

open ClientWrap.Text

/-- A method of a clientset or client: passed through, or an accessor of something wrapped. -/
inductive Member (α : Type) where
  | direct (method : Method)
  | wrapped (item : α)
  deriving DecidableEq, Repr

/-- What a member wraps. -/
def Member.item? {α : Type} : Member α → Option α
  | direct _ => none
  | wrapped item => some item

/-- Whether the objects of a resource live in a namespace. -/
inductive Scope where
  | namespaced
  | cluster
  deriving DecidableEq, Repr

/-- A resource with the accessor that gives it and the operations of its interface. -/
structure Resource where
  accessor : Method
  type : GoType
  scope : Scope
  operations : List Method
  deriving DecidableEq, Repr

/-- A typed client with the accessor that gives it. -/
structure Client where
  accessor : Method
  type : GoType
  members : List (Member Resource)
  deriving DecidableEq, Repr

/-- A clientset: the root interface of a schema. -/
structure Clientset where
  type : GoType
  members : List (Member Client)
  deriving DecidableEq, Repr

/-- The text without the occurrences of the word `Interface`. -/
def dropInterface : List Char → List Char
  | 'I' :: 'n' :: 't' :: 'e' :: 'r' :: 'f' :: 'a' :: 'c' :: 'e' :: rest => dropInterface rest
  | c :: rest => c :: dropInterface rest
  | [] => []

namespace Resource

/-- The name of a resource is that of its accessor. -/
def name (r : Resource) : String := r.accessor.name

/-- The kind of the objects of a resource. -/
def kind (r : Resource) : String :=
  String.ofList (dropInterface r.type.shortName.toList)

/-- The operations that take a context. -/
def traced (r : Resource) : List Method :=
  r.operations.filter Method.hasContext

end Resource

namespace Client

/-- The name of a client is that of its accessor. -/
def name (c : Client) : String := c.accessor.name

/-- The name of the interface of a client. -/
def typeName (c : Client) : String := c.type.shortName

/-- The field that holds the wrapped client. -/
def field (c : Client) : String := lowerString c.accessor.name

/-- The type that wraps the client. -/
def wrapper (c : Client) : String := "wrapped" ++ c.typeName

/-- The function that makes the wrapper of the client. -/
def constructor (c : Client) : String := "new" ++ c.typeName

/-- The resources of a client, in the order of its members. -/
def resources (c : Client) : List Resource :=
  c.members.filterMap Member.item?

end Client

namespace Resource

/-- The type that wraps the resource of a client. -/
def wrapper (r : Resource) (c : Client) : String :=
  "wrapped" ++ c.typeName ++ r.type.shortName

/-- The function that makes the wrapper of the resource of a client. -/
def constructor (r : Resource) (c : Client) : String :=
  "new" ++ c.typeName ++ r.type.shortName

end Resource

namespace Clientset

/-- The clients of a clientset, in the order of its members. -/
def clients (cs : Clientset) : List Client :=
  cs.members.filterMap Member.item?

/-- The package of the root interface. -/
def package (cs : Clientset) : String :=
  match cs.type with
  | .named package _ => package
  | _ => ""

/-- The number of resources of all clients. -/
def resourceCount (cs : Clientset) : Nat :=
  (cs.clients.flatMap Client.resources).length

end Clientset

end ClientWrap
