import ClientWrap.Filter.Program

/-!
# Command lines

Scripts of a shell, as far as they only pass text on: lists of pipelines, words with quotes, and
output that is thrown away. The commands of a list share one input; what the first does not read is
left to the next.
-/

namespace ClientWrap.Filter.Shell

/-- A word or an operator of a script. -/
inductive Token where
  | word (s : String)
  /-- The end of a pipeline. -/
  | next
  | andNext
  | orNext
  | pipe
  /-- Output sent away, from the given channel. -/
  | divert (channel : Nat)
  deriving DecidableEq, Repr

/-- The text inside quotes up to the closing one. Inside double quotes a backslash takes the special
meaning from some characters. -/
def quotedPart? (quote : Char) (done : List Char) : List Char → Option (List Char × List Char)
  | [] => none
  | '\\' :: c :: rest =>
    if quote = '"' ∧ (c = '"' ∨ c = '\\' ∨ c = '$') then quotedPart? quote (c :: done) rest
    else if c = quote then some (('\\' :: done).reverse, rest)
    else quotedPart? quote (c :: '\\' :: done) rest
  | c :: rest => if c = quote then some (done.reverse, rest) else quotedPart? quote (c :: done) rest

/-- Whether a character ends a word. -/
def endsWord (c : Char) : Bool :=
  c == ' ' || c == '\t' || c == '\n' || c == ';' || c == '|' || c == '&' || c == '>'

/-- The word here onto the text `done`, and what follows it. -/
def word? (done : List Char) : Nat → List Char → Option (List Char × List Char)
  | 0, _ => none
  | fuel + 1, s =>
    match s with
    | [] => some (done, [])
    | '\\' :: c :: rest => word? (done ++ [c]) fuel rest
    | c :: rest =>
      if c = '\'' ∨ c = '"' then do
        let (part, rest) ← quotedPart? c [] rest
        word? (done ++ part) fuel rest
      else if endsWord c then some (done, s)
      else word? (done ++ [c]) fuel rest

/-- The text after the place that output is sent to. -/
def place? (s : List Char) : Option (List Char) :=
  match s with
  | '&' :: c :: rest => if c.isDigit then some rest else none
  | _ =>
    let s := (if s.head? = some '>' then s.tail else s).dropWhile (· == ' ')
    match word? [] (s.length + 1) s with
    | some (_ :: _, rest) => some rest
    | _ => none

/-- The tokens of a script, of which there are at most `n`. -/
def tokens? : Nat → List Char → Option (List Token)
  | 0, _ => none
  | n + 1, s =>
    match s with
    | [] => some []
    | ' ' :: rest => tokens? n rest
    | '\t' :: rest => tokens? n rest
    | '\n' :: rest => do return .next :: (← tokens? n rest)
    | '#' :: rest => tokens? n (rest.dropWhile (· != '\n'))
    | ';' :: rest => do return .next :: (← tokens? n rest)
    | '&' :: '&' :: rest => do return .andNext :: (← tokens? n rest)
    | '&' :: _ => none
    | '|' :: '|' :: rest => do return .orNext :: (← tokens? n rest)
    | '|' :: rest => do return .pipe :: (← tokens? n rest)
    | '>' :: rest => do return .divert 1 :: (← tokens? n (← place? rest))
    | '1' :: '>' :: rest => do return .divert 1 :: (← tokens? n (← place? rest))
    | '2' :: '>' :: rest => do return .divert 2 :: (← tokens? n (← place? rest))
    | _ => do
      let (w, rest) ← word? [] (s.length + 1) s
      return .word (String.ofList w) :: (← tokens? n rest)

/-- One command with its words, its output thrown away if `silent` is set. -/
structure Call where
  words : List String
  silent : Bool
  deriving DecidableEq, Repr

/-- When a pipeline of a list is run. -/
inductive Link where
  | always
  | onSuccess
  | onFailure
  deriving DecidableEq, Repr

/-- The pipelines that tokens stand for, with what has been read of the last pipeline and of its
last command. -/
def pipelinesFrom (link : Link) (calls : List Call) (call : Call) :
    List Token → List (Link × List Call)
  | [] => [(link, calls ++ [call])]
  | .word s :: rest => pipelinesFrom link calls { call with words := call.words ++ [s] } rest
  | .divert channel :: rest =>
    pipelinesFrom link calls { call with silent := call.silent || channel == 1 } rest
  | .pipe :: rest => pipelinesFrom link (calls ++ [call]) ⟨[], false⟩ rest
  | .next :: rest => (link, calls ++ [call]) :: pipelinesFrom .always [] ⟨[], false⟩ rest
  | .andNext :: rest => (link, calls ++ [call]) :: pipelinesFrom .onSuccess [] ⟨[], false⟩ rest
  | .orNext :: rest => (link, calls ++ [call]) :: pipelinesFrom .onFailure [] ⟨[], false⟩ rest

/-- What a command of a pipeline does to an input. -/
def Call.run (c : Call) (input : List Char) : Output :=
  match c.words with
  | [] => ⟨[], 0, input⟩
  | program :: args =>
    match run? program args input with
    | some o => if c.silent then { o with text := [] } else o
    | none => .failed 127 input

/-- What a pipeline does to an input. An exclamation mark before it turns failure into success and
success into failure. -/
def runPipeline (input : List Char) : List Call → Output
  | [] => ⟨[], 0, input⟩
  | c :: rest =>
    let negated := c.words.head? = some "!"
    let first := (if negated then { c with words := c.words.tail } else c).run input
    let o := rest.foldl (fun o c => { c.run o.text with unread := o.unread }) first
    if negated then { o with code := if o.code = 0 then 1 else 0 } else o

/-- The exit code that a pipeline asks for, where the last one left the code `code`. What is no
number asks for the code 2. -/
def exit? (code : Nat) : List Call → Option Nat
  | [⟨["exit"], _⟩] => some code
  | [⟨"exit" :: n :: _, _⟩] => some ((n.toNat?.map (· % 256)).getD 2)
  | _ => none

/-- The pipeline that takes the place of the script, if a pipeline asks for that. -/
def exec? : List Call → Option (List Call)
  | [⟨"exec" :: word :: words, silent⟩] => some [⟨word :: words, silent⟩]
  | _ => none

/-- What a list of pipelines does after it has put out some text and left a code. -/
def runList (o : Output) : List (Link × List Call) → Output
  | [] => o
  | (link, calls) :: rest =>
    let skip :=
      match link with
      | .always => false
      | .onSuccess => o.code != 0
      | .onFailure => o.code == 0
    if skip || calls.all (·.words.isEmpty) then runList o rest
    else
      match exit? o.code calls with
      | some code => { o with code := code }
      | none =>
        let run (calls : List Call) : Output :=
          let next := runPipeline o.unread calls
          { next with text := o.text ++ next.text }
        match exec? calls with
        | some calls => run calls
        | none => runList (run calls) rest

/-- What a script does to an input. A script that makes no sense exits with code 2. -/
def run (script : String) (input : List Char) : Output :=
  match tokens? (script.length + 1) script.toList with
  | some ts => runList ⟨[], 0, input⟩ (pipelinesFrom .always [] ⟨[], false⟩ ts)
  | none => .failed 2 input

end ClientWrap.Filter.Shell
