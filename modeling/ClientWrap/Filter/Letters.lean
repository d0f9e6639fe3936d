import ClientWrap.Filter.Classes

/-!
# Letter by letter

Replacing, deleting and squeezing the characters of a set in a text, where a character is a byte. A
set is written as characters, ranges and named classes, and its characters have an order. Programs
exchange bytes; a byte is held as the character with its code.
-/

namespace ClientWrap.Filter

/-- The bytes of a text. -/
def bytesOf (s : String) : List Char :=
  s.toUTF8.toList.map fun b => Char.ofNat b.toNat

/-- The text that bytes encode, if they encode one. -/
def ofBytes? (bytes : List Char) : Option String :=
  String.fromUTF8? (ByteArray.mk (bytes.map fun c => UInt8.ofNat c.toNat).toArray)

/-- All bytes. -/
def allBytes : List Char :=
  (List.range 256).map Char.ofNat

/-- A part of a written set: some characters, or those of a named class. -/
inductive LetterPart where
  | chars (cs : List Char)
  | named (name : String) (cs : List Char)
  deriving DecidableEq, Repr

namespace LetterPart

/-- The characters of a part, in order. -/
def letters : LetterPart → List Char
  | chars cs => cs
  | named _ cs => cs

/-- Whether a part is the class of capital letters or that of lower-case letters. -/
def isCase : LetterPart → Bool
  | named name _ => name == "upper" || name == "lower"
  | chars _ => false

/-- Whether a part is a class of other characters. -/
def isOtherClass (p : LetterPart) : Bool :=
  match p with
  | named _ _ => !p.isCase
  | chars _ => false

end LetterPart

/-- A character with the code that up to three octal digits write, and what follows them. -/
def octalChar? (s : List Char) : Option (Char × List Char) :=
  let isOctal (c : Char) : Bool := '0' ≤ c && c ≤ '7'
  let digits := (s.take 3).takeWhile isOctal
  if digits.isEmpty then none
  else
    let code := digits.foldl (fun n c => n * 8 + (c.toNat - '0'.toNat)) 0
    some (Char.ofNat (code % 256), s.drop digits.length)

/-- The character that a letter after a backslash stands for. -/
def letterEscape (c : Char) : Char :=
  match c with
  | 'a' => '\x07'
  | 'b' => '\x08'
  | 'f' => '\x0C'
  | 'n' => '\n'
  | 'r' => '\r'
  | 't' => '\t'
  | 'v' => '\x0B'
  | _ => c

/-- The character at the start of a written set, and what follows it. -/
def letter? : List Char → Option (Char × List Char)
  | [] => none
  | '\\' :: c :: rest =>
    match octalChar? (c :: rest) with
    | some found => some found
    | none => some (letterEscape c, rest)
  | c :: rest => some (c, rest)

/-- The parts of a written set, of which there are at most `n`. There are none if a range runs
backwards or a class is unknown. -/
def letterParts? : Nat → List Char → Option (List LetterPart)
  | _, [] => some []
  | 0, _ => none
  | n + 1, s => do
    let single : Option (List LetterPart) := do
      let (a, rest) ← letter? s
      match rest with
      | '-' :: next :: more =>
        let (b, rest) ← letter? (next :: more)
        if b < a then none
        return .chars (charsOf (a, b)) :: (← letterParts? n rest)
      | _ => return .chars [a] :: (← letterParts? n rest)
    match s with
    | '[' :: ':' :: rest =>
      match className? rest with
      | some (name, rest) =>
        let ranges ← classRanges? name
        return .named name (ranges.flatMap charsOf) :: (← letterParts? n rest)
      | none => single
    | _ => single

/-- The characters of parts, in order. -/
def lettersOf (parts : List LetterPart) : List Char :=
  parts.flatMap LetterPart.letters

/-- The positions of the classes of one case among the characters of parts, the first of which has
the position `n`. -/
def casePositions (n : Nat) : List LetterPart → List Nat
  | [] => []
  | p :: rest =>
    let more := casePositions (n + p.letters.length) rest
    if p.isCase then n :: more else more

/-- The characters that a set does not hold, in order. -/
def complement (set : List Char) : List Char :=
  allBytes.filter (!set.contains ·)

/-- A set with its last character repeated up to a length. -/
def padded (n : Nat) (into : List Char) : List Char :=
  match into.getLast? with
  | some last => into.take n ++ List.replicate (n - into.length) last
  | none => []

/-- The text with each character of a set replaced by the one at its position in `into`. Of several
positions the last counts. -/
def exchange (set into : List Char) (s : List Char) : List Char :=
  let pairs := (set.zip (padded set.length into)).reverse
  s.map fun c => ((pairs.find? (·.1 == c)).map (·.2)).getD c

/-- The text without the characters of a set. -/
def without (set : List Char) (s : List Char) : List Char :=
  s.filter (!set.contains ·)

/-- The text with runs of a character of a set cut down to one, after the character `before`. -/
def squeeze (set : List Char) (before : Option Char) : List Char → List Char
  | [] => []
  | c :: rest =>
    if set.contains c && before == some c then squeeze set before rest
    else c :: squeeze set (some c) rest

/-- What is done with the letters of a text. -/
structure LetterOptions where
  /-- Whether the first set stands for all other characters. -/
  complemented : Bool
  deletes : Bool
  squeezes : Bool
  deriving DecidableEq, Repr

/-- Whether one set can be replaced by another: the second set is not empty, its classes are classes
of a case that stand where the first set has such a class, and it does not end in a class if it has
to be made longer. All characters outside a class go to one character. -/
def canExchange (o : LetterOptions) (parts intoParts : List LetterPart) : Bool :=
  let set := lettersOf parts
  let into := lettersOf intoParts
  let positions := casePositions 0 parts
  let endsInClass :=
    match intoParts.getLast? with
    | some (.named _ _) => true
    | _ => false
  let hasClass := parts.any fun p => p.isCase || p.isOtherClass
  let oneTarget := into.all fun c => some c == into.head?
  !into.isEmpty && intoParts.all (!·.isOtherClass) &&
    (casePositions 0 intoParts).all (fun n => !o.complemented && positions.contains n) &&
    !(endsInClass && into.length < set.length) &&
    !(o.complemented && hasClass && !oneTarget)

/-- What is made of a text with one written set or with two. -/
def editLetters? (o : LetterOptions) (sets : List (List LetterPart)) (s : List Char) :
    Option (List Char) :=
  let resolved (parts : List LetterPart) : List Char :=
    if o.complemented then complement (lettersOf parts) else lettersOf parts
  match o.deletes, o.squeezes, sets with
  | true, false, [a] => some (without (resolved a) s)
  | true, true, [a, b] => some (squeeze (lettersOf b) none (without (resolved a) s))
  | false, true, [a] => some (squeeze (resolved a) none s)
  | false, squeezes, [a, b] =>
    if !canExchange o a b then none
    else
      let text := exchange (resolved a) (lettersOf b) s
      some (if squeezes then squeeze (lettersOf b) none text else text)
  | _, _, _ => none

end ClientWrap.Filter
