import ClientWrap.Clientset.Walk
import ClientWrap.Document.Yaml.Written
import ClientWrap.Listing.Theme

/-!
# Listings for programs

The resources of targets as data in JSON and in YAML: under the name of each target, in ascending
order of the names, the list of its resources.
-/

namespace ClientWrap.Json

/-- A digit of base 16 in lower case. -/
def hexDigit (n : Nat) : Char :=
  if n < 10 then Char.ofNat ('0'.toNat + n) else Char.ofNat ('a'.toNat + (n - 10))

/-- A character inside a string. -/
def writtenChar (c : Char) : List Char :=
  if c = '"' then ['\\', '"']
  else if c = '\\' then ['\\', '\\']
  else if c = '\x08' then ['\\', 'b']
  else if c = '\x0C' then ['\\', 'f']
  else if c = '\n' then ['\\', 'n']
  else if c = '\r' then ['\\', 'r']
  else if c = '\t' then ['\\', 't']
  else if c.toNat < 0x20 then
    ['\\', 'u', '0', '0', hexDigit (c.toNat / 16), hexDigit (c.toNat % 16)]
  else [c]

/-- The string for a text. -/
def written (s : String) : String :=
  String.ofList ('"' :: (s.toList.flatMap writtenChar ++ ['"']))

end ClientWrap.Json

namespace ClientWrap.Listing

/-- Targets in ascending order of their names. -/
def byName (targets : List (String × List ResourceRow)) : List (String × List ResourceRow) :=
  targets.mergeSort fun a b => a.1 ≤ b.1

/-- The fields of a resource, with texts written by a function. -/
def fields (write : String → String) (r : ResourceRow) : List (String × String) :=
  [("client", write r.client), ("resource", write r.resource), ("kind", write r.kind),
    ("scope", write r.scope.name), ("operations", toString r.operations),
    ("traced", toString r.traced)]

namespace Json

/-- The lines of a list, each item given by its lines. All items but the last have a comma. -/
def separated : List (List String) → List String
  | [] => []
  | [item] => item
  | item :: rest =>
    match item.reverse with
    | [] => separated rest
    | last :: before => (last ++ ",") :: before |>.reverse |>.append (separated rest)

/-- Lines between brackets, one step deeper. -/
def nested (start stop : String) (items : List (List String)) : List String :=
  if items.isEmpty then [start ++ stop]
  else start :: (separated items).map ("  " ++ ·) ++ [stop]

/-- Lines after a key. -/
def keyed (key : String) : List String → List String
  | [] => []
  | first :: rest => (ClientWrap.Json.written key ++ ": " ++ first) :: rest

/-- A resource. -/
def resource (r : ResourceRow) : List String :=
  nested "\x7b" "\x7d" ((fields ClientWrap.Json.written r).map fun f => keyed f.1 [f.2])

/-- A target with its resources. -/
def target (t : String × List ResourceRow) : List String :=
  keyed t.1 (nested "[" "]" (t.2.map resource))

/-- The listing of targets. -/
def text (targets : List (String × List ResourceRow)) : String :=
  "\n".intercalate (nested "\x7b" "\x7d" ((byName targets).map target))

end Json

namespace Yaml

/-- A resource as an item of a list. -/
def resource (r : ResourceRow) : List String :=
  match (fields ClientWrap.Yaml.written r).map fun f => f.1 ++ ": " ++ f.2 with
  | [] => []
  | first :: rest => ("- " ++ first) :: rest.map ("  " ++ ·)

/-- A target with its resources. A name that does not fit before a colon has a line of its own. -/
def target (t : String × List ResourceRow) : List String :=
  let items := t.2.flatMap resource
  if ClientWrap.Yaml.isSimpleKey t.1 then
    let key := ClientWrap.Yaml.written t.1
    if items.isEmpty then [key ++ ": []"] else (key ++ ":") :: items
  else
    let key := "? " ++ ClientWrap.Yaml.writtenKey t.1
    match items with
    | [] => [key, ": []"]
    | first :: rest => key :: (": " ++ first) :: rest.map ("  " ++ ·)

/-- The listing of targets. -/
def text (targets : List (String × List ResourceRow)) : String :=
  Text.ofLines ((byName targets).flatMap target)

end Yaml

end ClientWrap.Listing
