import ClientWrap.Document.Basic

/-!
# Tables of TOML

The tables that the lines of a text in TOML build up. A table is defined once: by a header, or by
the dotted keys that go through it. A header may go through tables that have not been defined yet,
and one of them may be defined later.
-/

namespace ClientWrap.Toml

/-- How a table came to be: by a header or braces of its own, by a header that goes through it, or
by dotted keys. -/
inductive Origin where
  | defined
  | implied
  | dotted
  deriving DecidableEq, Repr

/-- What a key stands for: a value, a table, or an array of tables, the last of which comes
first. -/
inductive Item where
  | value (d : Document)
  | table (origin : Origin) (fields : List (String × Item))
  | tables (all : List (List (String × Item)))

/-- The fields of a table in the order in which they were made. -/
abbrev Fields := List (String × Item)

namespace Fields

/-- What a key stands for. -/
def get? (fs : Fields) (key : String) : Option Item :=
  (fs.find? (·.1 == key)).map (·.2)

/-- The fields with a key standing for something else. -/
def set (key : String) (item : Item) : Fields → Fields
  | [] => [(key, item)]
  | (k, i) :: rest => if k = key then (key, item) :: rest else (k, i) :: set key item rest

/-- Changes the fields of the table that a path leads to from a table with an origin. Tables on
the way that are not there yet are made. Of an array of tables the last is entered. Dotted keys do
not go through a table that is defined. -/
def alter (dotted : Bool) (f : Origin → Fields → Option Fields) :
    List String → Origin → Fields → Option Fields
  | [], origin, fs => f origin fs
  | key :: path, _, fs =>
    match fs.get? key with
    | none => do
      let origin := if dotted then Origin.dotted else .implied
      return fs.set key (.table origin (← alter dotted f path origin []))
    | some (.value _) => none
    | some (.tables []) => none
    | some (.tables (last :: before)) => do
      return fs.set key (.tables ((← alter dotted f path .defined last) :: before))
    | some (.table origin sub) =>
      if dotted && origin == .defined then none
      else do return fs.set key (.table origin (← alter dotted f path origin sub))

/-- The fields with one more key that has a value. A table that dotted keys have made takes values
by dotted keys only, and other tables take none by them. -/
def insertValue (byPath : Bool) (key : String) (d : Document) (origin : Origin) (fs : Fields) :
    Option Fields :=
  if (origin == .dotted) != byPath then none
  else
    match fs.get? key with
    | some _ => none
    | none => some (fs ++ [(key, .value d)])

/-- The fields with a table defined by a header of its own. -/
def define (key : String) (_ : Origin) (fs : Fields) : Option Fields :=
  match fs.get? key with
  | none => some (fs.set key (.table .defined []))
  | some (.table .implied sub) => some (fs.set key (.table .defined sub))
  | some _ => none

/-- The fields with one more table in an array. -/
def append (key : String) (_ : Origin) (fs : Fields) : Option Fields :=
  match fs.get? key with
  | none => some (fs.set key (.tables [[]]))
  | some (.tables all) => some (fs.set key (.tables ([] :: all)))
  | some _ => none

/-- Applies a change to the last key of a path in the table that the keys before it lead to. -/
def alterLast (dotted : Bool) (path : List String)
    (f : String → Origin → Fields → Option Fields) (origin : Origin) (fs : Fields) :
    Option Fields :=
  match path.reverse with
  | [] => none
  | key :: before => fs.alter dotted (f key) before.reverse origin

/-- The fields with a value under a key with dots. -/
def insertDotted (path : List String) (d : Document) (origin : Origin) (fs : Fields) :
    Option Fields :=
  fs.alterLast true path (fun key => insertValue (1 < path.length) key d) origin

end Fields

mutual

/-- What a key stands for, as a document. -/
def Item.toDocument : Item → Document
  | .value d => d
  | .table _ fields => .record (fieldDocuments fields)
  | .tables all => .list (tableDocuments [] all)

/-- The fields of a table as documents. -/
def fieldDocuments : List (String × Item) → List (String × Document)
  | [] => []
  | (key, item) :: rest => (key, item.toDocument) :: fieldDocuments rest

/-- The tables of an array as documents before those in `done`, first to last. -/
def tableDocuments (done : List Document) : List (List (String × Item)) → List Document
  | [] => done
  | fields :: before => tableDocuments (.record (fieldDocuments fields) :: done) before

end

end ClientWrap.Toml
