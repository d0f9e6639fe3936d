import ClientWrap.Report
import ClientWrap.Schema.Resolve

/-!
# Loading a schema

A schema is loaded from a file that holds a description of interfaces in JSON or in YAML. What the
program does with the description does not depend on how the two formats are read, so their readers
are handed to it.
-/

namespace ClientWrap

/-- The readers of the formats in which descriptions of interfaces are written down: each takes the
text of a file to the description in it. -/
structure SchemaReaders where
  json : String → Except DataFault SchemaSource
  yaml : String → Except DataFault SchemaSource

namespace Schema

/-- The schema that a text in JSON describes. -/
def ofJson (readers : SchemaReaders) (text : String) : Except Error Schema := do
  let source ← (readers.json text).mapError .json
  source.resolve

/-- The schema that a text in YAML describes. -/
def ofYaml (readers : SchemaReaders) (text : String) : Except Error Schema := do
  let source ← (readers.yaml text).mapError .yaml
  source.resolve

/-- Whether a path is that of a file in JSON. -/
def isJsonPath (p : Path) : Bool :=
  match p.extension? with
  | some ext => ext.toList.map Char.toLower == "json".toList
  | none => false

/-- The schema that a file describes. -/
def load (readers : SchemaReaders) (files : FileTree) (path : Path) : Report Error Schema := do
  let text ← Report.ofExcept <|
    (files.readText path).mapError fun fault => Error.schema (.unreadable path fault)
  let schema ← Report.ofExcept <|
    if isJsonPath path then ofJson readers text else ofYaml readers text
  Report.note (.schemaLoaded path.text schema.interfaces.length)
  return schema

end Schema

end ClientWrap
