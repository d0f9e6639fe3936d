import ClientWrap.Document.Json
import ClientWrap.Document.Yaml
import ClientWrap.Schema.Load

/-!
# Reading a schema

A schema is written down as a document with the root interface, the declared interfaces and the
external ones. Types are written as expressions. `SchemaReaders.standard` reads such documents.
-/

namespace ClientWrap

/-- Reads a type. -/
def GoType.read (d : Document) : Except DataFault GoType := do
  let expr ← d.readText
  (GoType.parse expr).mapError (.badType expr)

/-- How a method is read. -/
def Method.reader : RecordReader Method where
  wanted := "struct MethodDecl"
  fields := [
    ⟨"name", true, fun m d => do return { m with name := ← d.readText }⟩,
    ⟨"params", false, fun m d => do return { m with params := ← d.readList GoType.read }⟩,
    ⟨"results", false, fun m d => do return { m with results := ← d.readList GoType.read }⟩]

/-- Reads a method. -/
def Method.read (format : Format) : Document → Except DataFault Method :=
  Method.reader.read format ⟨"", [], []⟩

/-- How an interface is read. -/
def InterfaceDecl.reader (format : Format) : RecordReader InterfaceDecl where
  wanted := "struct InterfaceDecl"
  fields := [
    ⟨"name", true, fun i d => do return { i with name := ← GoType.read d }⟩,
    ⟨"embeds", false, fun i d => do return { i with embeds := ← d.readList GoType.read }⟩,
    ⟨"methods", false, fun i d => do
      return { i with methods := ← d.readList (Method.read format) }⟩]

/-- Reads an interface. -/
def InterfaceDecl.read (format : Format) : Document → Except DataFault InterfaceDecl :=
  (InterfaceDecl.reader format).read format ⟨.builtin "", [], []⟩

namespace SchemaSource

/-- How a description of interfaces is read. -/
def reader (format : Format) : RecordReader SchemaSource where
  wanted := "struct SchemaFile"
  fields := [
    ⟨"root", true, fun s d => do return { s with root := ← GoType.read d }⟩,
    ⟨"interfaces", false, fun s d => do
      return { s with interfaces := ← d.readList (InterfaceDecl.read format) }⟩,
    ⟨"externalInterfaces", false, fun s d => do
      return { s with externals := ← d.readList GoType.read }⟩]

/-- Reads a description of interfaces. -/
def read (format : Format) : Document → Except DataFault SchemaSource :=
  (reader format).read format ⟨.builtin "", [], []⟩

end SchemaSource

/-- The readers of documents in JSON and in YAML. -/
def SchemaReaders.standard : SchemaReaders where
  json := Json.readWith (SchemaSource.read .json)
  yaml text :=
    match Yaml.parse? text with
    | none => .error .malformed
    | some d => SchemaSource.read .yaml d

end ClientWrap
