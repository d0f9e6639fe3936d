import ClientWrap.GoType.Parse

/-!
# Faults of documents

Why a document, text in one of the data formats, does not describe the value that a reader wants.
-/

namespace ClientWrap

/-- Why a value cannot be read from a document. -/
inductive DataFault where
  /-- The text is not a document of its format. -/
  | malformed
  | wrongType (found wanted : String)
  | missingField (name : String)
  | duplicateField (name : String)
  | unknownVariant (found : String) (known : List String)
  | tooShort (length : Nat) (wanted : String) (fields : Nat)
  | badType (expr : String) (fault : GoType.Fault)
  deriving DecidableEq, Repr

namespace DataFault

/-- The wording of an expression that is no type. -/
def badTypeMessage (expr : String) (fault : GoType.Fault) : String :=
  s!"Invalid type expression '{expr}': {fault.message}"

/-- The wording of a fault; a malformed text has none, because its format's own rules decide
where it goes wrong. -/
def message? : DataFault → Option String
  | malformed => none
  | wrongType found wanted => s!"invalid type: {found}, expected {wanted}"
  | missingField name => s!"missing field `{name}`"
  | duplicateField name => s!"duplicate field `{name}`"
  | unknownVariant found known =>
    let names := " or ".intercalate (known.map fun k => s!"`{k}`")
    s!"unknown variant `{found}`, expected {names}"
  | tooShort length wanted fields =>
    s!"invalid length {length}, expected {wanted} with {fields} elements"
  | badType expr fault => badTypeMessage expr fault

end DataFault

end ClientWrap
