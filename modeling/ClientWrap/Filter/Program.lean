import ClientWrap.Filter.Echo
import ClientWrap.Filter.Edit.Read

/-!
# Programs

The programs that a text can be sent through: `cat`, `tr`, `sed`, `echo`, `printf`, `true` and
`false`. Each is a function of its arguments and of the bytes that it finds on its input. Arguments
that it does not understand make it fail, as do the names of files.
-/

namespace ClientWrap.Filter

/-- What a program leaves behind: the bytes it put out, its exit code, and the part of its input
that it did not read. -/
structure Output where
  text : List Char
  code : Nat
  unread : List Char
  deriving DecidableEq, Repr

/-- The output of a program that has read all of its input. -/
def Output.all (text : List Char) : Output := ⟨text, 0, []⟩

/-- The output of a program that gives up. -/
def Output.failed (code : Nat) (input : List Char) : Output := ⟨[], code, input⟩

/-- Copies the input. -/
def cat (args : List String) (input : List Char) : Output :=
  if args.all (· == "-") then .all input else .failed 1 input

/-- The options in front of the sets of `tr`, and the sets. -/
def letterOptions? (o : LetterOptions) : List String → Option (LetterOptions × List String)
  | [] => some (o, [])
  | arg :: rest =>
    match arg.toList with
    | '-' :: '-' :: [] => some (o, rest)
    | '-' :: c :: cs => do
      let o ← (c :: cs).foldlM (fun (o : LetterOptions) c =>
        if c = 'c' ∨ c = 'C' then some { o with complemented := true }
        else if c = 'd' then some { o with deletes := true }
        else if c = 's' then some { o with squeezes := true }
        else none) o
      letterOptions? o rest
    | _ => some (o, arg :: rest)

/-- Exchanges, deletes or squeezes characters. -/
def tr (args : List String) (input : List Char) : Output :=
  let result? : Option (List Char) := do
    let (o, sets) ← letterOptions? ⟨false, false, false⟩ args
    editLetters? o (← sets.mapM fun s => letterParts? (bytesOf s).length (bytesOf s)) input
  match result? with
  | some text => .all text
  | none => .failed 1 input

/-- What the arguments of `sed` ask for. -/
structure EditRequest where
  quiet : Bool
  extended : Bool
  /-- The scripts that options give. -/
  scripts : List String
  /-- The arguments that are no options. -/
  others : List String
  deriving DecidableEq, Repr

/-- The request with the options of an argument added. The second part of the result tells whether
the next argument is a script. -/
def EditRequest.addOptions? (r : EditRequest) : List Char → Option (EditRequest × Bool)
  | [] => some (r, false)
  | 'n' :: cs => addOptions? { r with quiet := true } cs
  | 'E' :: cs => addOptions? { r with extended := true } cs
  | 'r' :: cs => addOptions? { r with extended := true } cs
  | 'e' :: [] => some (r, true)
  | 'e' :: cs => some ({ r with scripts := r.scripts ++ [String.ofList cs] }, false)
  | _ => none

/-- The request of arguments, added to what is known of it. `wantsScript` tells whether the first
argument is the script of an option before it. -/
def EditRequest.read? (r : EditRequest) (wantsScript : Bool) : List String → Option EditRequest
  | [] => if wantsScript then none else some r
  | arg :: rest =>
    if wantsScript then read? { r with scripts := r.scripts ++ [arg] } false rest
    else
      match arg.toList with
      | '-' :: '-' :: [] => some { r with others := r.others ++ rest }
      | '-' :: c :: cs =>
        match r.addOptions? (c :: cs) with
        | some (r, wantsScript) => read? r wantsScript rest
        | none => none
      | _ => read? { r with others := r.others ++ [arg] } false rest

/-- Edits lines by scripts, character by character if the input is a text. -/
def sed (args : List String) (input : List Char) : Output :=
  let result? : Option (List String × List Char × Nat) := do
    let r ← EditRequest.read? ⟨false, false, [], []⟩ false args
    let (scripts, files) ←
      match r.scripts, r.others with
      | [], script :: files => some ([script], files)
      | [], [] => none
      | scripts, files => some (scripts, files)
    let script := ("\n".intercalate scripts).toList
    let commands ← script? r.extended (script.length + 1) script
    match ofBytes? input with
    | some text =>
      let (text, code) := edit r.quiet commands text.toList
      return (files, bytesOf (String.ofList text), code)
    | none => return (files, edit r.quiet commands input)
  match result? with
  | some (files, text, code) =>
    if files.all (· == "-") then ⟨text, code, []⟩ else .failed 2 input
  | none => .failed 1 input

/-- The output of a program that puts out a text, if there is one, and reads nothing. -/
def Output.ofText? (text? : Option (List Char)) (input : List Char) : Output :=
  match text? with
  | some text => ⟨bytesOf (String.ofList text), 0, input⟩
  | none => .failed 2 input

/-- What the program with a name does to an input, if there is such a program. -/
def run? (program : String) (args : List String) (input : List Char) : Option Output :=
  match program with
  | "cat" => some (cat args input)
  | "tr" => some (tr args input)
  | "sed" => some (sed args input)
  | "echo" => some (.ofText? (some (echoed args)) input)
  | "printf" => some (.ofText? (printed? args) input)
  | "true" => some ⟨[], 0, input⟩
  | "false" => some (.failed 1 input)
  | _ => none

end ClientWrap.Filter
