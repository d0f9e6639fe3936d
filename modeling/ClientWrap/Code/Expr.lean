import ClientWrap.Naming.Alias
import ClientWrap.Text.Quoted

/-!
# Expressions and statements

The part of the Go language that wrappers are written in. A name of another package carries the
path of the package, so that the packages which a piece of code uses can be read off it.

The fields of a struct or of a literal are printed in two columns. The width of the first is that of
its longest entry counted in bytes, while its entries are padded by characters.
-/

namespace ClientWrap.Code

/-! ### Aligned columns -/

/-- The text followed by spaces up to a number of characters. -/
def padTo (width : Nat) (s : String) : String :=
  s ++ String.ofList (List.replicate (width - s.length) ' ')

/-- The number of bytes of the longest text. -/
def widest (texts : List String) : Nat :=
  texts.foldl (fun w s => max w s.utf8ByteSize) 0

/-- The fields of a struct, a name and a type on each line. -/
def fieldLines (fields : List (String × String)) : List String :=
  let width := widest (fields.map (·.1))
  fields.map fun (name, type) => "\t" ++ padTo width name ++ " " ++ type

/-- The fields of a literal, a name and a value on each line. -/
def keyedLines (indent : String) (pairs : List (String × String)) : List String :=
  let width := widest (pairs.map (·.1 ++ ":"))
  pairs.map fun (key, value) => indent ++ padTo width (key ++ ":") ++ " " ++ value ++ ","

/-! ### Expressions -/

/-- An expression. -/
inductive Expr where
  /-- A name of this file or of the function. -/
  | name (id : String)
  /-- A name of another package. -/
  | qualified (package id : String)
  /-- A string literal. -/
  | string (value : String)
  /-- A field or method of a value. -/
  | select (base : Expr) (id : String)
  | call (callee : Expr) (args : List Expr)
  /-- A slice passed as the remaining arguments of a call. -/
  | spread (e : Expr)
  /-- A pointer to a new value of a struct, its fields in order. -/
  | fresh (type : String) (values : List Expr)

namespace Expr

mutual

/-- The expression as it is printed. -/
def text : Expr → String
  | name id => id
  | qualified package id => Naming.packageAlias package ++ "." ++ id
  | string value => Text.quoted value
  | select base id => base.text ++ "." ++ id
  | call callee args => callee.text ++ "(" ++ ", ".intercalate (texts args) ++ ")"
  | spread e => e.text ++ "..."
  | fresh type values => "&" ++ type ++ "\x7b" ++ ", ".intercalate (texts values) ++ "\x7d"

/-- The expressions of a list as they are printed. -/
def texts : List Expr → List String
  | [] => []
  | e :: rest => e.text :: texts rest

end

mutual

/-- The packages whose names the expression uses. -/
def packages : Expr → List String
  | name _ | string _ => []
  | qualified package _ => [package]
  | select base _ => base.packages
  | call callee args => callee.packages ++ packagesAll args
  | spread e => e.packages
  | fresh _ values => packagesAll values

/-- The packages whose names the expressions of a list use. -/
def packagesAll : List Expr → List String
  | [] => []
  | e :: rest => e.packages ++ packagesAll rest

end

/-- The texts of expressions are the text of each. -/
theorem texts_eq_map (es : List Expr) :
  texts es = es.map text
  := by
  induction es with
  | nil => rfl
  | cons e rest ih => simp [texts, ih]

/-- The packages of expressions are those of each in turn. -/
theorem packagesAll_eq_flatMap (es : List Expr) :
  packagesAll es = es.flatMap packages
  := by
  induction es with
  | nil => rfl
  | cons e rest ih => simp [packagesAll, ih]

end Expr

/-- A statement on one line. -/
inductive Step where
  | run (e : Expr)
  | give (es : List Expr)
  | define (names : List String) (e : Expr)
  | assign (target : String) (e : Expr)
  | atReturn (e : Expr)

namespace Step

/-- The statement as it is printed. -/
def text : Step → String
  | run e => e.text
  | give es => "return " ++ ", ".intercalate (Expr.texts es)
  | define names e => ", ".intercalate names ++ " := " ++ e.text
  | assign target e => target ++ " = " ++ e.text
  | atReturn e => "defer " ++ e.text

/-- The packages whose names the statement uses. -/
def packages : Step → List String
  | run e | define _ e | assign _ e | atReturn e => e.packages
  | give es => Expr.packagesAll es

end Step

/-- A statement. -/
inductive Stmt where
  | step (s : Step)
  /-- A definition by a call with each argument on a line of its own. -/
  | defineCall (names : List String) (callee : Expr) (args : List Expr)
  /-- A pointer to a new value of a struct as the result, each field on a line of its own. -/
  | giveFresh (type : String) (fields : List (String × Expr))
  /-- Statements for the case that a value is there. -/
  | ifPresent (value : String) (body : List Step)

namespace Stmt

/-- The lines of the statement. -/
def lines : Stmt → List String
  | step s => ["\t" ++ s.text]
  | defineCall names callee args =>
    ["\t" ++ ", ".intercalate names ++ " := " ++ callee.text ++ "("] ++
      (Expr.texts args).map (fun a => "\t\t" ++ a ++ ",") ++ ["\t)"]
  | giveFresh type fields =>
    ["\treturn &" ++ type ++ "\x7b"] ++
      keyedLines "\t\t" (fields.map fun (key, e) => (key, e.text)) ++ ["\t\x7d"]
  | ifPresent value body =>
    ["\tif " ++ value ++ " != nil \x7b"] ++ body.map (fun s => "\t\t" ++ s.text) ++ ["\t\x7d"]

/-- The packages whose names the statement uses. -/
def packages : Stmt → List String
  | step s => s.packages
  | defineCall _ callee args => callee.packages ++ Expr.packagesAll args
  | giveFresh _ fields => fields.flatMap fun (_, e) => e.packages
  | ifPresent _ body => body.flatMap Step.packages

end Stmt

end ClientWrap.Code
