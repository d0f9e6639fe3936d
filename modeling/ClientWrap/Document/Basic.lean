import ClientWrap.Document.Fault
import ClientWrap.Text.Blank
import ClientWrap.Text.Columns

/-!
# Documents

The values that a text in a data format can describe, whichever the format. A document may end
where its text stops making sense: the place is marked as `broken`. Readers go through a document
in the order of the text, so that they meet a fault of the value before a later fault of the text.

A field that a reader does not know is passed over, and so is the value of it, unless the text of
that value is broken.

In messages a text stands between quotes, and what cannot be seen of it is written by its code
point.
-/

namespace ClientWrap.Text

/-- The digits of a number in base 16, in lower case. -/
def hexDigits (n : Nat) : List Char :=
  Nat.toDigits 16 n

/-- Whether a character leaves no mark of its own. -/
def isInvisible (c : Char) : Bool :=
  (isBlank c && c != ' ') || c.toNat < 0x20 || (0x7F ≤ c.toNat && c.toNat < 0xA0) ||
    c.toNat == 0xAD || (0xE000 ≤ c.toNat && c.toNat < 0xF900) || 0xE0000 ≤ c.toNat ||
    (0x300 ≤ c.toNat && charColumns c == 0)

/-- A character as a message shows it. -/
def shownChar (c : Char) : List Char :=
  if c = '"' then ['\\', '"']
  else if c = '\\' then ['\\', '\\']
  else if c = '\n' then ['\\', 'n']
  else if c = '\r' then ['\\', 'r']
  else if c = '\t' then ['\\', 't']
  else if c = '\x00' then ['\\', '0']
  else if isInvisible c then ['\\', 'u', '\x7b'] ++ hexDigits c.toNat ++ ['\x7d']
  else [c]

/-- A string as a message shows it. -/
def shown (s : String) : String :=
  String.ofList ('"' :: (s.toList.flatMap shownChar ++ ['"']))

end ClientWrap.Text

namespace ClientWrap

/-- The formats in which documents are written. -/
inductive Format where
  | json
  | toml
  | yaml
  deriving DecidableEq, Repr

/-- A value described by a text. -/
inductive Document where
  | null
  /-- A place where nothing is written. It is read as an empty value of the kind wanted. -/
  | blank
  | bool (b : Bool)
  | integer (n : Int)
  /-- A number that is no integer, by its decimal text. -/
  | float (text : String)
  | text (s : String)
  | list (items : List Document)
  | record (fields : List (String × Document))
  /-- A scalar of some other kind, which no reader wants. -/
  | other
  /-- A scalar that is written rightly but has no value. -/
  | valueless
  /-- The place where the text stops making sense. -/
  | broken
  deriving Repr, Inhabited

namespace Document

mutual

/-- Whether no place in the document is broken. -/
def isSound : Document → Bool
  | broken => false
  | list items => allSound items
  | record fields => fieldsSound fields
  | _ => true

/-- Whether no place in the documents is broken. -/
def allSound : List Document → Bool
  | [] => true
  | d :: rest => d.isSound && allSound rest

/-- Whether no place in the values of the fields is broken. -/
def fieldsSound : List (String × Document) → Bool
  | [] => true
  | (_, d) :: rest => d.isSound && fieldsSound rest

end

/-- What a message says was found. -/
def found : Document → String
  | null => "null"
  | bool b => if b then "boolean `true`" else "boolean `false`"
  | integer n => s!"integer `{n}`"
  | float digits => s!"floating point `{digits}`"
  | text s => "string " ++ Text.shown s
  | list _ => "sequence"
  | record _ => "map"
  | blank | other | valueless | broken => "nothing"

/-- The fault of a document of the wrong kind. -/
def mismatch (wanted : String) : Document → DataFault
  | broken | valueless => .malformed
  | d => .wrongType d.found wanted

/-- Reads a string. -/
def readTextAs (wanted : String) : Document → Except DataFault String
  | text s => .ok s
  | blank => .ok ""
  | d => .error (d.mismatch wanted)

/-- Reads a string. -/
def readText : Document → Except DataFault String :=
  readTextAs "a string"

/-- Reads a truth value. -/
def readBool : Document → Except DataFault Bool
  | bool b => .ok b
  | d => .error (d.mismatch "a boolean")

/-- Reads a list with a reader for its items. -/
def readList {α : Type} (read : Document → Except DataFault α) :
    Document → Except DataFault (List α)
  | list items => items.mapM read
  | blank => .ok []
  | d => .error (d.mismatch "a sequence")

/-- Reads a value that may be missing. -/
def readOptional {α : Type} (read : Document → Except DataFault α) :
    Document → Except DataFault (Option α)
  | null => .ok none
  | d => (read d).map some

/-- Whether a document in a format stands for nothing beside a name. -/
def isUnit (format : Format) : Document → Bool
  | null => true
  | list items => format == .toml && items.isEmpty
  | record fields => format == .toml && fields.isEmpty
  | _ => false

/-- Reads one of several names. A name may stand as the only field of a record, with nothing as its
value. -/
def readVariant {α : Type} (format : Format) (known : List (String × α)) :
    Document → Except DataFault α
  | text s =>
    match known.find? (·.1 == s) with
    | some v => .ok v.2
    | none => .error (.unknownVariant s (known.map (·.1)))
  | record ((s, d) :: rest) =>
    match known.find? (·.1 == s) with
    | none =>
      if s = "" ∧ !d.isSound then .error .malformed
      else .error (.unknownVariant s (known.map (·.1)))
    | some v =>
      if !d.isUnit format then .error (d.mismatch "unit")
      else if rest.isEmpty then .ok v.2
      else .error .malformed
  | _ => .error .malformed

end Document

/-- A field of a record: its name, whether it must be there, and what its value adds to what has
been read so far. -/
structure FieldReader (σ : Type) where
  name : String
  required : Bool
  read : σ → Document → Except DataFault σ

/-- How a record is read: what messages call it, and its fields. -/
structure RecordReader (σ : Type) where
  wanted : String
  fields : List (FieldReader σ)

namespace RecordReader

variable {σ : Type}

/-- Reads fields by name. The names that have been read are returned with the result. -/
def readNamed (r : RecordReader σ) (seen : List String) (s : σ) :
    List (String × Document) → Except DataFault (List String × σ)
  | [] => .ok (seen, s)
  | (name, d) :: rest =>
    match r.fields.find? (·.name == name) with
    | none => if d.isSound then r.readNamed seen s rest else .error .malformed
    | some f => do
      if seen.contains name then throw (.duplicateField name)
      r.readNamed (name :: seen) (← f.read s d) rest

/-- Reads items as the fields from the one with index `i` on. Items beyond the last field are a
fault if `exact` is set. -/
def readPlaced (r : RecordReader σ) (exact : Bool) (i : Nat) (s : σ) :
    List (FieldReader σ) → List Document → Except DataFault σ
  | [], [] => .ok s
  | [], _ :: _ => if exact then .error .malformed else .ok s
  | f :: fs, d :: ds => do r.readPlaced exact (i + 1) (← f.read s d) fs ds
  | f :: fs, [] =>
    if f.required then .error (.tooShort i r.wanted r.fields.length)
    else r.readPlaced exact (i + 1) s fs []

/-- Reads a record onto what has been read before. In most formats a list is read as a record with
its items in the order of the fields. -/
def read (r : RecordReader σ) (format : Format) (s : σ) : Document → Except DataFault σ
  | .record fields => do
    let (seen, s) ← r.readNamed [] s fields
    match r.fields.find? fun f => f.required && !seen.contains f.name with
    | some f => throw (.missingField f.name)
    | none => return s
  | .list items =>
    match format with
    | .json => r.readPlaced true 0 s r.fields items
    | .toml => r.readPlaced false 0 s r.fields items
    | .yaml => .error (.wrongType "sequence" r.wanted)
  | .blank => r.readPlaced true 0 s r.fields []
  | d => .error (d.mismatch r.wanted)

end RecordReader

end ClientWrap
