import ClientWrap.Code.Expr
import ClientWrap.Text.Ascending
import ClientWrap.Text.Lines

/-!
# Emitted files

A file is a package clause, an import block and a sequence of declarations with the comments and
empty lines between them.

`File.imports` is the list of imported packages, `File.packages` what the declarations use.
-/

namespace ClientWrap.Code

open ClientWrap.Text

/-- A function, or a method when it has a receiver. -/
structure Func where
  receiver : Option String
  name : String
  params : List (String × GoType)
  results : List GoType
  body : List Stmt

/-- The parameters as they are printed. -/
def paramsText (params : List (String × GoType)) : String :=
  ", ".intercalate (params.map fun (name, t) => name ++ " " ++ t.text)

/-- The results as they are printed, with the space before them. -/
def resultsText : List GoType → String
  | [] => ""
  | [t] => " " ++ t.text
  | ts => " (" ++ ", ".intercalate (ts.map GoType.text) ++ ")"

namespace Func

/-- The line that opens the function. -/
def header (f : Func) : String :=
  let receiver :=
    match f.receiver with
    | some type => "(c *" ++ type ++ ") "
    | none => ""
  "func " ++ receiver ++ f.name ++ "(" ++ paramsText f.params ++ ")" ++ resultsText f.results ++
    " \x7b"

/-- The lines of the function. -/
def lines (f : Func) : List String :=
  f.header :: (f.body.flatMap Stmt.lines ++ ["\x7d"])

/-- The packages whose names the function uses. -/
def packages (f : Func) : List String :=
  f.params.flatMap (fun (_, t) => t.mentioned) ++ f.results.flatMap GoType.mentioned ++
    f.body.flatMap Stmt.packages

end Func

/-- A struct type. -/
structure Struct where
  name : String
  fields : List (String × GoType)

/-- The lines of a struct with the given fields. -/
def structLines (name : String) (fields : List (String × String)) : List String :=
  ["type " ++ name ++ " struct \x7b"] ++ fieldLines fields ++ ["\x7d"]

namespace Struct

/-- The lines of the struct. -/
def lines (s : Struct) : List String :=
  structLines s.name (s.fields.map fun (name, t) => (name, t.text))

/-- The packages whose names the struct uses. -/
def packages (s : Struct) : List String :=
  s.fields.flatMap fun (_, t) => t.mentioned

end Struct

/-- What follows the import block. -/
inductive Item where
  | gap
  | comment (text : String)
  | struct (s : Struct)
  | func (f : Func)

namespace Item

/-- The lines of the item. -/
def lines : Item → List String
  | gap => [""]
  | comment text => ["// " ++ text]
  | struct s => s.lines
  | func f => f.lines

/-- The packages whose names the item uses. -/
def packages : Item → List String
  | gap | comment _ => []
  | struct s => s.packages
  | func f => f.packages

/-- The struct that the item declares. -/
def struct? : Item → Option Struct
  | struct s => some s
  | _ => none

/-- The function that the item declares. -/
def func? : Item → Option Func
  | func f => some f
  | _ => none

end Item

/-- A file of the emitted program. -/
structure File where
  package : String
  imports : List String
  items : List Item

/-- The comment at the head of every emitted file. -/
def generatedMark : String :=
  "// Code generated by clientset-wrapgen. DO NOT EDIT."

/-- Whether a package belongs to the standard library: the first part of its path has no dot. -/
def isStandard (path : String) : Bool :=
  !(path.toList.takeWhile (· != '/')).contains '.'

/-- The line that imports a package under its alias. -/
def importLine (path : String) : String :=
  "\t" ++ Naming.packageAlias path ++ " \"" ++ path ++ "\""

/-- The lines of an import block, the packages of the standard library first. -/
def importLines (imports : List String) : List String :=
  if imports.isEmpty then []
  else
    let (standard, others) := imports.partition isStandard
    let gap := if standard.isEmpty || others.isEmpty then [] else [""]
    ["", "import ("] ++ standard.map importLine ++ gap ++ others.map importLine ++ [")"]

/-- The lines up to the end of the import block. -/
def preambleLines (package : String) (imports : List String) : List String :=
  [generatedMark, "", "package " ++ package] ++ importLines imports

namespace File

/-- The lines after the import block. -/
def bodyLines (f : File) : List String :=
  f.items.flatMap Item.lines

/-- The lines of the file. -/
def lines (f : File) : List String :=
  preambleLines f.package f.imports ++ f.bodyLines

/-- The text of the file. -/
def text (f : File) : String :=
  ofLines f.lines

/-- The packages whose names the declarations use. -/
def packages (f : File) : List String :=
  f.items.flatMap Item.packages

/-- The structs that the file declares. -/
def structs (f : File) : List Struct :=
  f.items.filterMap Item.struct?

/-- The functions and methods that the file declares. -/
def funcs (f : File) : List Func :=
  f.items.filterMap Item.func?

end File

end ClientWrap.Code
