import ClientWrap.Document.Toml.Scalar
import ClientWrap.Document.Toml.Table

/-!
# TOML

Reads a text in TOML, line by line: headers of tables, keys with values, comments. Values nest less
deep than `maxDepth`, and keys have fewer parts than that.
-/

namespace ClientWrap.Toml

/-- The depth that values and keys stay below. -/
def maxDepth : Nat := 80

/-- Whether a character may stand in a key without quotes. -/
def isKeyChar (c : Char) : Bool :=
  c.isAlphanum || c == '-' || c == '_'

/-- One part of a key. -/
def keyPart? (s : List Char) : Option (String × List Char) :=
  match s with
  | '"' :: rest => basicString [] (rest.length + 1) rest
  | '\'' :: rest => literalString [] rest
  | _ =>
    let name := s.takeWhile isKeyChar
    if name.isEmpty then none else some (String.ofList name, s.dropWhile isKeyChar)

/-- The parts of a key, of which there are less than `n` more, and the text after the key and the
blanks behind it. -/
def keyParts? : Nat → List Char → Option (List String × List Char)
  | 0, _ => none
  | n + 1, s => do
    let (part, rest) ← keyPart? (skipSpace s)
    match skipSpace rest with
    | '.' :: rest =>
      let (parts, rest) ← keyParts? n rest
      return (part :: parts, rest)
    | rest => return ([part], rest)

/-- A key. -/
def key? (s : List Char) : Option (List String × List Char) :=
  keyParts? (maxDepth - 1) s

/-- The text after the comment here, up to the end of the line. -/
def comment? (s : List Char) : Option (List Char) :=
  match s.dropWhile isPrintable with
  | [] => some []
  | rest => (newline? rest).map fun _ => rest

/-- The text after blanks, line breaks and comments, of which there are at most `n`. -/
def skipComments : Nat → List Char → Option (List Char)
  | 0, _ => none
  | n + 1, s =>
    match skipLines s with
    | '#' :: rest => do skipComments n (← comment? rest)
    | s => some s

mutual

/-- A value that nests less deep than `depth`, read in at most `fuel` steps. -/
def value? (depth : Nat) : Nat → List Char → Option (Document × List Char)
  | 0, _ => none
  | fuel + 1, s =>
    match s with
    | [] => none
    | '[' :: rest =>
      match depth with
      | 0 => none
      | depth + 1 => do
        let (ds, rest) ← arrayItems? depth fuel rest
        return (.list ds, rest)
    | '\x7b' :: rest =>
      match depth with
      | 0 => none
      | depth + 1 =>
        match skipSpace rest with
        | '\x7d' :: rest => some (.record [], rest)
        | _ => do
          let (fs, rest) ← inlineFields? depth [] fuel rest
          return (.record (fieldDocuments fs), rest)
    | c :: _ =>
      if c == '"' || c == '\'' then (string? s).map fun (t, rest) => (.text t, rest)
      else (bool? s) <|> (number? s)

/-- The items of an array up to its end. -/
def arrayItems? (depth : Nat) : Nat → List Char → Option (List Document × List Char)
  | 0, _ => none
  | fuel + 1, s => do
    let s ← skipComments (s.length + 1) s
    match s with
    | ']' :: rest => some ([], rest)
    | _ =>
      let (d, rest) ← value? depth fuel s
      match ← skipComments (rest.length + 1) rest with
      | ']' :: rest => some ([d], rest)
      | ',' :: rest =>
        let (ds, rest) ← arrayItems? depth fuel rest
        return (d :: ds, rest)
      | _ => none

/-- The fields of a table in braces after those in `fs`, up to its end. -/
def inlineFields? (depth : Nat) (fs : Fields) : Nat → List Char → Option (Fields × List Char)
  | 0, _ => none
  | fuel + 1, s => do
    let (path, rest) ← key? s
    let rest ← expect? '=' rest
    let (d, rest) ← value? depth fuel (skipSpace rest)
    let fs ← Fields.insertDotted path d .defined fs
    match skipSpace rest with
    | '\x7d' :: rest => some (fs, rest)
    | ',' :: rest => inlineFields? depth fs fuel rest
    | _ => none

end

/-- A table under construction: all fields so far, and the path of the last header. -/
structure Draft where
  fields : Fields
  header : List String

/-- The text after the end of a line, where only blanks and a comment may stand before it. -/
def lineEnd? (s : List Char) : Option (List Char) :=
  match skipSpace s with
  | [] => some []
  | '#' :: rest => do
    match ← comment? rest with
    | [] => some []
    | rest => newline? rest
  | rest => newline? rest

/-- The draft after the header of a table. -/
def Draft.open? (t : Draft) (path : List String) : Option Draft := do
  return ⟨← t.fields.alterLast false path Fields.define .defined, path⟩

/-- The draft after the header of one more table in an array. -/
def Draft.append? (t : Draft) (path : List String) : Option Draft := do
  return ⟨← t.fields.alterLast false path Fields.append .defined, path⟩

/-- The draft with a value under a key of the table with the last header. -/
def Draft.insert? (t : Draft) (path : List String) (d : Document) : Option Draft := do
  let fields ← t.fields.alter false (fun origin fs => fs.insertDotted path d origin)
    t.header .defined
  return { t with fields := fields }

/-- One line with the draft after it. -/
def line? (t : Draft) (s : List Char) : Option (Draft × List Char) :=
  match s with
  | '#' :: _ | '\n' :: _ | '\r' :: _ => do return (t, ← lineEnd? s)
  | '[' :: '[' :: rest => do
    let (path, rest) ← key? rest
    let rest ← expect? ']' rest
    let rest ← expect? ']' rest
    return (← t.append? path, ← lineEnd? rest)
  | '[' :: rest => do
    let (path, rest) ← key? rest
    let rest ← expect? ']' rest
    return (← t.open? path, ← lineEnd? rest)
  | _ => do
    let (path, rest) ← key? s
    let rest ← expect? '=' rest
    let (d, rest) ← value? (maxDepth - 1) (2 * rest.length + 2) (skipSpace rest)
    return (← t.insert? path d, ← lineEnd? rest)

/-- The draft after all lines, of which there are at most `n`. -/
def linesFrom (t : Draft) : Nat → List Char → Option Draft
  | 0, _ => none
  | n + 1, s =>
    match skipSpace s with
    | [] => some t
    | s => do
      let (t, rest) ← line? t s
      linesFrom t n rest

/-- The document of a text. -/
def parse? (text : String) : Option Document := do
  let cs := text.toList
  let cs := if cs.head? = some '\uFEFF' then cs.tail else cs
  let t ← linesFrom ⟨[], []⟩ (cs.length + 1) cs
  return .record (fieldDocuments t.fields)

end ClientWrap.Toml
