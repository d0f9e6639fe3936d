import ClientWrap.Proofs.Code.Lines

/-!
# The pieces of emitted code

The text after the import block falls into pieces (`File.printed_pieces`): the qualifiers that refer
to packages, and what stands between them. The packages that are referred to are those whose names
the declarations use (`File.qualifiers_pieces`).
-/

namespace ClientWrap.Code

open ClientWrap.Text

/-- A piece of printed code. -/
inductive Piece where
  /-- Text that refers to no package. -/
  | plain (text : String)
  /-- The alias of a package and the dot after it. -/
  | qualifier (package : String)
  deriving DecidableEq

namespace Piece

/-- The piece as it is printed. -/
def text : Piece → String
  | plain text => text
  | qualifier package => Naming.packageAlias package ++ "."

/-- The package that the piece refers to. -/
def package? : Piece → Option String
  | plain _ => none
  | qualifier package => some package

end Piece

open Piece

/-! ### Sequences of pieces -/

/-- The text that the pieces make up. -/
def printed (ps : List Piece) : String :=
  String.join (ps.map Piece.text)

/-- The packages that the pieces refer to, in their order. -/
def qualifiers (ps : List Piece) : List String :=
  ps.filterMap Piece.package?

/-- Sequences of pieces with commas between them. -/
def commas : List (List Piece) → List Piece
  | [] => []
  | [ps] => ps
  | ps :: qs :: rest => ps ++ plain ", " :: commas (qs :: rest)

section

variable {package : String} {ps qs : List Piece}

/-- No pieces print nothing. -/
@[simp]
theorem printed_nil :
  printed [] = ""
  := rfl

/-- Pieces print the text of the first one and then the others. -/
@[simp]
theorem printed_cons (p : Piece) :
  printed (p :: ps) = p.text ++ printed ps
  := by
  apply String.toList_inj.mp
  simp [printed, String.toList_join]

/-- Pieces one after another print their texts one after another. -/
@[simp]
theorem printed_append :
  printed (ps ++ qs) = printed ps ++ printed qs
  := by
  apply String.toList_inj.mp
  simp [printed, String.toList_join]

/-- Commas between pieces print commas between their texts. -/
@[simp]
theorem printed_commas {pss : List (List Piece)} :
  printed (commas pss) = ", ".intercalate (pss.map printed)
  := by
  induction pss with
  | nil => rfl
  | cons ps pss ih =>
      cases pss with
      | nil => simp [commas]
      | cons qs rest =>
          simp only [List.map_cons] at ih ⊢
          rw [commas, printed_append, printed_cons, ih, String.intercalate_cons_cons,
            String.append_assoc]
          rfl

/-- No pieces have no qualifiers. -/
@[simp]
theorem qualifiers_nil :
  qualifiers [] = []
  := rfl

/-- Plain text adds no qualifier. -/
@[simp]
theorem qualifiers_plain {text : String} :
  qualifiers (plain text :: ps) = qualifiers ps
  := rfl

/-- Pieces one after another have their qualifiers one after another. -/
@[simp]
theorem qualifiers_append :
  qualifiers (ps ++ qs) = qualifiers ps ++ qualifiers qs
  := List.filterMap_append

/-- Commas between pieces add no qualifiers. -/
@[simp]
theorem qualifiers_commas {pss : List (List Piece)} :
  qualifiers (commas pss) = pss.flatMap qualifiers
  := by
  induction pss with
  | nil => rfl
  | cons ps pss ih =>
      cases pss with
      | nil => simp [commas]
      | cons qs rest =>
          rw [commas, qualifiers_append, qualifiers_plain, ih]
          rfl

/-- The qualifiers are the packages of the pieces that are qualifiers. -/
theorem mem_qualifiers :
  package ∈ qualifiers ps ↔ qualifier package ∈ ps
  := by
  rw [qualifiers, List.mem_filterMap]
  constructor
  · rintro ⟨p, hp, h⟩
    cases p with
    | plain _ => contradiction
    | qualifier q =>
        obtain rfl := Option.some.inj h
        apply hp
  · intro h
    exact ⟨_, h, rfl⟩

end

end ClientWrap.Code

/-! ### Types -/

namespace ClientWrap.GoType

open ClientWrap.Code ClientWrap.Code.Piece

/-- The pieces of the type. -/
def pieces : GoType → List Piece
  | builtin name => [plain name]
  | named package name => [qualifier package, plain name]
  | pointer element => plain "*" :: element.pieces
  | slice element => plain "[]" :: element.pieces
  | map key value => plain "map[" :: (key.pieces ++ plain "]" :: value.pieces)
  | variadic element => plain "..." :: element.pieces

/-- The pieces of a type print its text. -/
@[simp]
theorem printed_pieces (t : GoType) :
  printed t.pieces = t.text
  := by
  induction t with
  | builtin name => simp [pieces, text, Piece.text]
  | named package name => simp [pieces, text, Piece.text]
  | pointer element ih | slice element ih | variadic element ih =>
      simp [pieces, text, Piece.text, ih]
  | map key value ihkey ihvalue =>
      simp [pieces, text, Piece.text, ihkey, ihvalue, String.append_assoc]

/-- The qualifiers of a type are the packages that it mentions. -/
@[simp]
theorem qualifiers_pieces (t : GoType) :
  qualifiers t.pieces = t.mentioned
  := by
  induction t with
  | builtin name => rfl
  | named package name => rfl
  | pointer element ih | slice element ih | variadic element ih => apply ih
  | map key value ihkey ihvalue => simp [pieces, mentioned, ihkey, ihvalue]

end ClientWrap.GoType

/-! ### Expressions and statements -/

namespace ClientWrap.Code

open ClientWrap.Text Piece

namespace Expr

mutual

/-- The pieces of the expression. -/
def pieces : Expr → List Piece
  | name id => [plain id]
  | qualified package id => [qualifier package, plain id]
  | string value => [plain (quoted value)]
  | select base id => base.pieces ++ [plain ("." ++ id)]
  | call callee args =>
    callee.pieces ++ plain "(" :: (commas (piecesEach args) ++ [plain ")"])
  | spread e => e.pieces ++ [plain "..."]
  | fresh type values =>
    plain ("&" ++ type ++ "\x7b") :: (commas (piecesEach values) ++ [plain "\x7d"])

/-- The pieces of each expression of a list. -/
def piecesEach : List Expr → List (List Piece)
  | [] => []
  | e :: rest => e.pieces :: piecesEach rest

end

mutual

/-- The pieces of an expression print its text. -/
@[simp]
theorem printed_pieces (e : Expr) :
  printed e.pieces = e.text
  := by
  cases e with
  | name id => simp [pieces, text, Piece.text]
  | qualified package id => simp [pieces, text, Piece.text]
  | string value => simp [pieces, text, Piece.text]
  | select base id => simp [pieces, text, Piece.text, printed_pieces base, String.append_assoc]
  | call callee args =>
      simp [pieces, text, Piece.text, printed_pieces callee, map_printed_piecesEach args,
        String.append_assoc]
  | spread e => simp [pieces, text, Piece.text, printed_pieces e]
  | fresh type values =>
      simp [pieces, text, Piece.text, map_printed_piecesEach values, String.append_assoc]

/-- The pieces of expressions print their texts. -/
@[simp]
theorem map_printed_piecesEach (es : List Expr) :
  (piecesEach es).map printed = texts es
  := by
  cases es with
  | nil => rfl
  | cons e rest =>
      rw [piecesEach, List.map_cons, printed_pieces e, map_printed_piecesEach rest, texts]

end

mutual

/-- The qualifiers of an expression are its packages. -/
@[simp]
theorem qualifiers_pieces (e : Expr) :
  qualifiers e.pieces = e.packages
  := by
  cases e with
  | name id => rfl
  | qualified package id => rfl
  | string value => rfl
  | select base id => simp [pieces, packages, qualifiers_pieces base]
  | call callee args =>
      simp [pieces, packages, qualifiers_pieces callee, flatMap_qualifiers_piecesEach args]
  | spread e => simp [pieces, packages, qualifiers_pieces e]
  | fresh type values => simp [pieces, packages, flatMap_qualifiers_piecesEach values]

/-- The qualifiers of expressions are their packages. -/
@[simp]
theorem flatMap_qualifiers_piecesEach (es : List Expr) :
  (piecesEach es).flatMap qualifiers = packagesAll es
  := by
  cases es with
  | nil => rfl
  | cons e rest =>
      rw [piecesEach, List.flatMap_cons, qualifiers_pieces e, flatMap_qualifiers_piecesEach rest,
        packagesAll]

end

end Expr

namespace Step

/-- The pieces of the statement. -/
def pieces : Step → List Piece
  | run e => e.pieces
  | give es => plain "return " :: commas (Expr.piecesEach es)
  | define names e => plain (", ".intercalate names ++ " := ") :: e.pieces
  | assign target e => plain (target ++ " = ") :: e.pieces
  | atReturn e => plain "defer " :: e.pieces

/-- The pieces of a statement on one line print its text. -/
@[simp]
theorem printed_pieces (s : Step) :
  printed s.pieces = s.text
  := by
  cases s <;> simp [pieces, text, Piece.text]

/-- The qualifiers of a statement on one line are its packages. -/
@[simp]
theorem qualifiers_pieces (s : Step) :
  qualifiers s.pieces = s.packages
  := by
  cases s <;> simp [pieces, packages]

end Step

/-- The fields of a struct, the pieces of a type for each name. -/
def fieldPieces (fields : List (String × List Piece)) : List (List Piece) :=
  let width := widest (fields.map (·.1))
  fields.map fun (name, type) => plain ("\t" ++ padTo width name ++ " ") :: type

/-- The fields of a literal, the pieces of a value for each name. -/
def keyedPieces (indent : String) (pairs : List (String × List Piece)) : List (List Piece) :=
  let width := widest (pairs.map (·.1 ++ ":"))
  pairs.map fun (key, value) =>
    plain (indent ++ padTo width (key ++ ":") ++ " ") :: (value ++ [plain ","])

/-- The pieces of fields print aligned fields. -/
theorem map_printed_fieldPieces (fields : List (String × List Piece)) :
  (fieldPieces fields).map printed = fieldLines (fields.map fun f => (f.1, printed f.2))
  := by
  simp [fieldPieces, fieldLines, Function.comp_def, Piece.text]

/-- The pieces of keys and values print aligned keys and values. -/
theorem map_printed_keyedPieces (indent : String) (pairs : List (String × List Piece)) :
  (keyedPieces indent pairs).map printed
    = keyedLines indent (pairs.map fun p => (p.1, printed p.2))
  := by
  simp [keyedPieces, keyedLines, Function.comp_def, Piece.text, String.append_assoc]

/-- Aligning fields adds no qualifiers. -/
theorem flatMap_qualifiers_fieldPieces (fields : List (String × List Piece)) :
  (fieldPieces fields).flatMap qualifiers = fields.flatMap fun f => qualifiers f.2
  := by
  simp [fieldPieces, List.flatMap_map]

/-- Aligning keys and values adds no qualifiers. -/
theorem flatMap_qualifiers_keyedPieces (indent : String) (pairs : List (String × List Piece)) :
  (keyedPieces indent pairs).flatMap qualifiers = pairs.flatMap fun p => qualifiers p.2
  := by
  simp [keyedPieces, List.flatMap_map]

namespace Stmt

/-- The pieces of each line of the statement. -/
def linePieces : Stmt → List (List Piece)
  | step s => [plain "\t" :: s.pieces]
  | defineCall names callee args =>
    [plain ("\t" ++ ", ".intercalate names ++ " := ") :: (callee.pieces ++ [plain "("])] ++
      (Expr.piecesEach args).map (fun a => plain "\t\t" :: (a ++ [plain ","])) ++ [[plain "\t)"]]
  | giveFresh type fields =>
    [[plain ("\treturn &" ++ type ++ "\x7b")]] ++
      keyedPieces "\t\t" (fields.map fun (key, e) => (key, e.pieces)) ++ [[plain "\t\x7d"]]
  | ifPresent value body =>
    [[plain ("\tif " ++ value ++ " != nil \x7b")]] ++
      body.map (fun s => plain "\t\t" :: s.pieces) ++ [[plain "\t\x7d"]]

/-- The pieces of a statement print its lines. -/
@[simp]
theorem map_printed_linePieces (s : Stmt) :
  s.linePieces.map printed = s.lines
  := by
  cases s with
  | step s => simp [linePieces, lines, Piece.text]
  | defineCall names callee args =>
      simp [linePieces, lines, Piece.text, ← Expr.map_printed_piecesEach, Function.comp_def,
        String.append_assoc]
  | giveFresh type fields =>
      simp [linePieces, lines, Piece.text, map_printed_keyedPieces, Function.comp_def]
  | ifPresent value body =>
      simp [linePieces, lines, Piece.text, Function.comp_def]

/-- The qualifiers of a statement are its packages. -/
@[simp]
theorem flatMap_qualifiers_linePieces (s : Stmt) :
  s.linePieces.flatMap qualifiers = s.packages
  := by
  cases s with
  | step s => simp [linePieces, packages]
  | defineCall names callee args =>
      simp [linePieces, packages, List.flatMap_map]
  | giveFresh type fields =>
      simp [linePieces, packages, flatMap_qualifiers_keyedPieces, List.flatMap_map]
  | ifPresent value body =>
      simp [linePieces, packages, List.flatMap_map]

end Stmt

/-! ### Functions, structs and files -/

/-- The pieces of the parameters. -/
def paramsPieces (params : List (String × GoType)) : List Piece :=
  commas (params.map fun (name, t) => plain (name ++ " ") :: t.pieces)

/-- The pieces of the results, with the space before them. -/
def resultsPieces : List GoType → List Piece
  | [] => []
  | [t] => plain " " :: t.pieces
  | ts => plain " (" :: (commas (ts.map GoType.pieces) ++ [plain ")"])

/-- The pieces of parameters print their list. -/
theorem printed_paramsPieces (params : List (String × GoType)) :
  printed (paramsPieces params) = paramsText params
  := by
  simp [paramsPieces, paramsText, Piece.text, Function.comp_def]

/-- The qualifiers of parameters are the packages of their types. -/
theorem qualifiers_paramsPieces (params : List (String × GoType)) :
  qualifiers (paramsPieces params) = params.flatMap fun p => p.2.mentioned
  := by
  simp [paramsPieces, List.flatMap_map]

/-- The pieces of results print their list. -/
theorem printed_resultsPieces (results : List GoType) :
  printed (resultsPieces results) = resultsText results
  := by
  match results with
  | [] => rfl
  | [t] => simp [resultsPieces, resultsText, Piece.text]
  | t :: u :: rest =>
      simp [resultsPieces, resultsText, Piece.text, Function.comp_def, String.append_assoc]

/-- The qualifiers of results are the packages of their types. -/
theorem qualifiers_resultsPieces (results : List GoType) :
  qualifiers (resultsPieces results) = results.flatMap GoType.mentioned
  := by
  match results with
  | [] => rfl
  | [t] => simp [resultsPieces]
  | t :: u :: rest => simp [resultsPieces, List.flatMap_map]

namespace Func

/-- The pieces of the line that opens the function. -/
def headerPieces (f : Func) : List Piece :=
  let receiver :=
    match f.receiver with
    | some type => "(c *" ++ type ++ ") "
    | none => ""
  plain ("func " ++ receiver ++ f.name ++ "(") ::
    (paramsPieces f.params ++ plain ")" :: (resultsPieces f.results ++ [plain " \x7b"]))

/-- The pieces of each line of the function. -/
def linePieces (f : Func) : List (List Piece) :=
  f.headerPieces :: (f.body.flatMap Stmt.linePieces ++ [[plain "\x7d"]])

/-- The pieces of the opening line of a function print that line. -/
theorem printed_headerPieces (f : Func) :
  printed f.headerPieces = f.header
  := by
  rw [headerPieces, header]
  cases f.receiver <;>
    simp [Piece.text, printed_paramsPieces, printed_resultsPieces, String.append_assoc]

/-- The pieces of a function print its lines. -/
theorem map_printed_linePieces (f : Func) :
  f.linePieces.map printed = f.lines
  := by
  simp [linePieces, lines, printed_headerPieces, List.map_flatMap, Piece.text]

/-- The qualifiers of a function are its packages. -/
theorem flatMap_qualifiers_linePieces (f : Func) :
  f.linePieces.flatMap qualifiers = f.packages
  := by
  simp [linePieces, headerPieces, packages, qualifiers_paramsPieces, qualifiers_resultsPieces,
    List.flatMap_assoc]

end Func

namespace Item

/-- The pieces of each line of the item. -/
def linePieces : Item → List (List Piece)
  | gap => [[]]
  | comment text => [[plain ("// " ++ text)]]
  | struct s =>
    [[plain ("type " ++ s.name ++ " struct \x7b")]] ++
      fieldPieces (s.fields.map fun (name, t) => (name, t.pieces)) ++ [[plain "\x7d"]]
  | func f => f.linePieces

/-- The pieces of a part of a file print its lines. -/
theorem map_printed_linePieces (item : Item) :
  item.linePieces.map printed = item.lines
  := by
  cases item with
  | gap => rfl
  | comment text => simp [linePieces, lines, Piece.text]
  | struct s =>
      simp [linePieces, lines, Struct.lines, structLines, map_printed_fieldPieces, Piece.text,
        Function.comp_def]
  | func f => apply f.map_printed_linePieces

/-- The qualifiers of a part of a file are its packages. -/
theorem flatMap_qualifiers_linePieces (item : Item) :
  item.linePieces.flatMap qualifiers = item.packages
  := by
  cases item with
  | gap => rfl
  | comment text => rfl
  | struct s =>
      simp [linePieces, packages, Struct.packages, flatMap_qualifiers_fieldPieces,
        List.flatMap_map]
  | func f => apply f.flatMap_qualifiers_linePieces

end Item

namespace File

/-- The pieces of the text after the import block. -/
def pieces (f : File) : List Piece :=
  (f.items.flatMap Item.linePieces).flatMap (· ++ [plain "\n"])

/-- The pieces of a file print its body. -/
theorem printed_pieces (f : File) :
  printed f.pieces = f.body
  := by
  have hlines : ∀ pss : List (List Piece),
      printed (pss.flatMap (· ++ [plain "\n"])) = ofLines (pss.map printed) := by
    intro pss
    induction pss with
    | nil => rfl
    | cons ps pss ih =>
        rw [List.flatMap_cons, printed_append, printed_append, ih, List.map_cons, ofLines_cons]
        rfl
  rw [pieces, hlines, List.map_flatMap, body, bodyLines]
  simp only [Item.map_printed_linePieces]

/-- The qualifiers of a file are the packages that its parts use. -/
theorem qualifiers_pieces (f : File) :
  qualifiers f.pieces = f.packages
  := by
  have hlines : ∀ pss : List (List Piece),
      qualifiers (pss.flatMap (· ++ [plain "\n"])) = pss.flatMap qualifiers := by
    intro pss
    induction pss with
    | nil => rfl
    | cons ps pss ih => simp [ih]
  rw [pieces, hlines, List.flatMap_assoc, packages]
  simp only [Item.flatMap_qualifiers_linePieces]

end File

end ClientWrap.Code
