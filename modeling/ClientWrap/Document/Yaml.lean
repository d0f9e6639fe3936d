import ClientWrap.Document.Basic
import ClientWrap.Document.Yaml.Token

/-!
# YAML

Reads a text that holds exactly one document in YAML. Scalars are texts; a plain scalar without
characters is a blank. A mapping with a key that is no scalar has no fields and is nothing that a
reader wants.
-/

namespace ClientWrap.Yaml

/-- The mapping with given fields. -/
def record (fields : List (Document × Document)) : Document :=
  let named (f : Document × Document) : Option (String × Document) :=
    match f.1 with
    | .text s => some (s, f.2)
    | .blank => some ("", f.2)
    | _ => none
  match fields.mapM named with
  | some fs => .record fs
  | none => .other

mutual

/-- A node. Block collections begin here only if `block` is set, sequences at the indentation of
their key only if `indentless` is set. -/
def node (block indentless : Bool) : Nat → List Token → Option (Document × List Token)
  | 0, _ => none
  | fuel + 1, ts =>
    match ts with
    | .scalar isPlain s :: rest =>
      some (if isPlain && s.isEmpty then .blank else .text s, rest)
    | .openSequence :: rest => do
      let (items, rest) ← flowItems true fuel rest
      return (.list items, rest)
    | .openMapping :: rest => do
      let (fields, rest) ← flowFields true fuel rest
      return (record fields, rest)
    | .blockSequence :: rest =>
      if block then do
        let (items, rest) ← blockItems fuel rest
        return (.list items, rest)
      else none
    | .blockMapping :: rest =>
      if block then do
        let (fields, rest) ← blockFields fuel rest
        return (record fields, rest)
      else none
    | .blockEntry :: _ =>
      if indentless then do
        let (items, rest) ← indentlessItems fuel ts
        return (.list items, rest)
      else none
    | _ => none

/-- The items of a block sequence. -/
def blockItems : Nat → List Token → Option (List Document × List Token)
  | 0, _ => none
  | fuel + 1, ts =>
    match ts with
    | .blockEntry :: rest => do
      let (d, rest) ←
        match rest with
        | .blockEntry :: _ | .blockEnd :: _ => some (.blank, rest)
        | _ => node true false fuel rest
      let (ds, rest) ← blockItems fuel rest
      return (d :: ds, rest)
    | .blockEnd :: rest => some ([], rest)
    | _ => none

/-- The items of a sequence at the indentation of its key. -/
def indentlessItems : Nat → List Token → Option (List Document × List Token)
  | 0, _ => none
  | fuel + 1, ts =>
    match ts with
    | .blockEntry :: rest => do
      let (d, rest) ←
        match rest with
        | .blockEntry :: _ | .key :: _ | .value :: _ | .blockEnd :: _ => some (.blank, rest)
        | _ => node true false fuel rest
      let (ds, rest) ← indentlessItems fuel rest
      return (d :: ds, rest)
    | _ => some ([], ts)

/-- A key or a value of a block mapping, after its indicator. -/
def blockPart : Nat → List Token → Option (Document × List Token)
  | 0, _ => none
  | fuel + 1, ts =>
    match ts with
    | .key :: _ | .value :: _ | .blockEnd :: _ => some (.blank, ts)
    | _ => node true true fuel ts

/-- The fields of a block mapping. -/
def blockFields : Nat → List Token → Option (List (Document × Document) × List Token)
  | 0, _ => none
  | fuel + 1, ts =>
    match ts with
    | .key :: rest => do
      let (k, rest) ← blockPart fuel rest
      let (v, rest) ←
        match rest with
        | .value :: rest => blockPart fuel rest
        | _ => some (.blank, rest)
      let (fs, rest) ← blockFields fuel rest
      return ((k, v) :: fs, rest)
    | .value :: rest => do
      let (v, rest) ← blockPart fuel rest
      let (fs, rest) ← blockFields fuel rest
      return ((.blank, v) :: fs, rest)
    | .blockEnd :: rest => some ([], rest)
    | _ => none

/-- A key inside brackets, after its indicator. -/
def flowKey (close : Token) : Nat → List Token → Option (Document × List Token)
  | 0, _ => none
  | fuel + 1, ts =>
    match ts with
    | .value :: _ | .flowEntry :: _ => some (.blank, ts)
    | t :: _ => if t = close then some (.blank, ts) else node false false fuel ts
    | [] => none

/-- The value after a key inside brackets. -/
def flowValue (close : Token) : Nat → List Token → Option (Document × List Token)
  | 0, _ => none
  | fuel + 1, ts =>
    match ts with
    | .value :: .flowEntry :: rest => some (.blank, .flowEntry :: rest)
    | .value :: t :: rest =>
      if t = close then some (.blank, t :: rest) else node false false fuel (t :: rest)
    | _ => some (.blank, ts)

/-- The items of a sequence in brackets. An item may be a mapping of one field. -/
def flowItems (first : Bool) : Nat → List Token → Option (List Document × List Token)
  | 0, _ => none
  | fuel + 1, ts =>
    match ts with
    | .closeSequence :: rest => some ([], rest)
    | _ => do
      let ts ←
        match first, ts with
        | true, ts => some ts
        | false, .flowEntry :: rest => some rest
        | false, _ => none
      match ts with
      | .closeSequence :: rest => some ([], rest)
      | .key :: rest => do
        let (k, rest) ←
          match rest with
          | .value :: after | .flowEntry :: after | .closeSequence :: after => some (.blank, after)
          | _ => node false false fuel rest
        let (v, rest) ← flowValue .closeSequence fuel rest
        let (ds, rest) ← flowItems false fuel rest
        return (record [(k, v)] :: ds, rest)
      | _ => do
        let (d, rest) ← node false false fuel ts
        let (ds, rest) ← flowItems false fuel rest
        return (d :: ds, rest)

/-- The fields of a mapping in brackets. -/
def flowFields (first : Bool) : Nat → List Token → Option (List (Document × Document) × List Token)
  | 0, _ => none
  | fuel + 1, ts =>
    match ts with
    | .closeMapping :: rest => some ([], rest)
    | _ => do
      let ts ←
        match first, ts with
        | true, ts => some ts
        | false, .flowEntry :: rest => some rest
        | false, _ => none
      match ts with
      | .closeMapping :: rest => some ([], rest)
      | .key :: rest => do
        let (k, rest) ← flowKey .closeMapping fuel rest
        let (v, rest) ← flowValue .closeMapping fuel rest
        let (fs, rest) ← flowFields false fuel rest
        return ((k, v) :: fs, rest)
      | _ => do
        let (k, rest) ← node false false fuel ts
        let (fs, rest) ← flowFields false fuel rest
        return ((k, .blank) :: fs, rest)

end

/-- The document at the start of a text that does not end there. -/
def content (ts : List Token) : Option (Document × List Token) :=
  match ts with
  | [] | .documentStart :: _ | .documentEnd :: _ => some (.blank, ts)
  | _ => node true false (3 * ts.length + 3) ts

/-- The document of a text, if there is exactly one. -/
def parse? (text : String) : Option Document := do
  let ts ← tokens? text
  let (d, rest) ←
    match ts with
    | [] => none
    | .documentStart :: rest => content rest
    | _ => node true false (3 * ts.length + 3) ts
  if rest.all (· == .documentEnd) then some d else none

end ClientWrap.Yaml
