import ClientWrap.Settings.Basic
import ClientWrap.Text.Blank

/-!
# Overrides

Settings given as `key=value` on the command line. The text is split at the first `=`; blanks
around the key and the value do not count. Of several values for one key the last is taken. Keys
that name no setting are reported and change nothing.
-/

namespace ClientWrap

open ClientWrap.Text

/-- Why a text is no override. -/
inductive OverrideFault where
  | noValue (text : String)
  | noKey (text : String)
  deriving DecidableEq, Repr

/-- The wording of a fault. -/
def OverrideFault.message : OverrideFault → String
  | noValue text => s!"Invalid config format: '{text}'. Expected 'key=value'"
  | noKey text => s!"Empty key in config: '{text}'"

/-- Values by key, in ascending order of the keys. -/
structure Overrides where
  entries : List (String × String)
  deriving DecidableEq, Repr

namespace Overrides

/-- A list of entries in ascending order with one more entry, in place of one with its key. -/
def insertEntry (key value : String) : List (String × String) → List (String × String)
  | [] => [(key, value)]
  | (k, v) :: rest =>
    if key < k then (key, value) :: (k, v) :: rest
    else if key = k then (key, value) :: rest
    else (k, v) :: insertEntry key value rest

/-- The overrides with one more, in place of one with its key. -/
def insert (o : Overrides) (key value : String) : Overrides :=
  ⟨insertEntry key value o.entries⟩

/-- The value for a key. -/
def get? (o : Overrides) (key : String) : Option String :=
  (o.entries.find? (·.1 == key)).map (·.2)

/-- The key and the value of one override. -/
def parseOne (text : String) : Except OverrideFault (String × String) :=
  match text.toList.span (· != '=') with
  | (_, []) => .error (.noValue text)
  | (key, _ :: value) =>
    let key := trim key
    if key.isEmpty then .error (.noKey text)
    else .ok (String.ofList key, String.ofList (trim value))

/-- The overrides that a list of texts gives after those in `o`. -/
def parseOnto (o : Overrides) : List String → Except OverrideFault Overrides
  | [] => .ok o
  | text :: rest => do
    let (key, value) ← parseOne text
    parseOnto (o.insert key value) rest

/-- The overrides that a list of texts gives. -/
def parse (texts : List String) : Except OverrideFault Overrides :=
  parseOnto ⟨[]⟩ texts

/-- The setting that a key names, changed to a value. -/
def change? (key value : String) : Option (Settings → Settings) :=
  match key with
  | "output.file-name" => some fun s => { s with fileName := value }
  | "output.package" => some fun s => { s with package := value }
  | "rest.package" => some fun s => { s with restPackage := value }
  | "metrics.package" => some fun s => { s with metricsPackage := value }
  | "tracing.package" => some fun s => { s with tracing.package := value }
  | "tracing.attribute-package" => some fun s => { s with tracing.attributePackage := value }
  | "tracing.codes-package" => some fun s => { s with tracing.codesPackage := value }
  | "tracing.span-prefix" => some fun s => { s with tracing.spanLead := value }
  | "formatter" =>
    some fun s => { s with formatter := if (words value).isEmpty then none else some (words value) }
  | _ => none

/-- The settings with an override applied. -/
def applyOne (s : Settings) (entry : String × String) : Settings :=
  match change? entry.1 entry.2 with
  | some f => f s
  | none => s

/-- The settings with the overrides applied. -/
def apply (o : Overrides) (s : Settings) : Settings :=
  o.entries.foldl applyOne s

/-- The keys that name no setting, in ascending order. -/
def unknownKeys (o : Overrides) : List String :=
  (o.entries.map (·.1)).filter fun key => (change? key "").isNone

end Overrides

end ClientWrap
