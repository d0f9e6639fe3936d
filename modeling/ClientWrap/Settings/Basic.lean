import ClientWrap.Clientset.Walk

/-!
# Settings

What a run generates: targets, each a schema with outputs, and what is common to all of them. The
paths of a target are read from the directory of the settings file, once `resolvePaths` has been
told where that is. Settings are loaded from a file by a reader that is handed to the program.

`Settings.check` refuses settings that no run can follow; among other things, all emitted files
must be different by `Path.same`.
-/

namespace ClientWrap

/-- What a wrapper adds to the calls that it passes on. -/
inductive WrapperKind where
  | metrics
  | traces
  deriving DecidableEq, Repr

namespace WrapperKind

/-- The name of a kind. -/
def name : WrapperKind → String
  | metrics => "metrics"
  | traces => "traces"

/-- The kind with the given name. -/
def ofName? (s : String) : Option WrapperKind :=
  if s = "metrics" then some metrics else if s = "traces" then some traces else none

/-- The kind with the given name. -/
def parse (s : String) : Except Error WrapperKind :=
  match ofName? s with
  | some k => .ok k
  | none => .error (.settings (.unknownKind s))

/-- A kind is found by its name. -/
theorem ofName?_name (k : WrapperKind) :
  ofName? k.name = some k
  := by cases k <;> rfl

end WrapperKind

/-- The packages that traces use, and the word in front of every span name. -/
structure TracingSettings where
  package : String
  attributePackage : String
  codesPackage : String
  spanLead : String
  deriving DecidableEq, Repr

/-- One emitted file of a target. -/
structure OutputSettings where
  kind : WrapperKind
  dir : Path
  /-- The component that spans are reported for. -/
  component : Option String
  /-- The package clause, in place of the one of all outputs. -/
  package : Option String
  /-- The directory that a relative `dir` is read from. -/
  base : Option Path
  deriving DecidableEq, Repr

/-- A schema with the files to be emitted for it. -/
structure TargetSettings where
  name : String
  schema : Path
  newForConfig : Bool
  outputs : List OutputSettings
  deriving DecidableEq, Repr

/-- The settings of a run. -/
structure Settings where
  fileName : String
  package : String
  restPackage : String
  formatter : Option (List String)
  metricsPackage : String
  tracing : TracingSettings
  exclusions : Exclusions
  targets : List TargetSettings
  deriving DecidableEq, Repr

/-- The packages of traces where none are given. -/
def TracingSettings.default : TracingSettings where
  package := "github.com/kyverno/kyverno/pkg/tracing"
  attributePackage := "go.opentelemetry.io/otel/attribute"
  codesPackage := "go.opentelemetry.io/otel/codes"
  spanLead := "KUBE"

/-- The target about which nothing is given. -/
def TargetSettings.default : TargetSettings :=
  ⟨"", ⟨""⟩, true, []⟩

/-- The settings where nothing is given. -/
def Settings.default : Settings where
  fileName := "clientset.generated.go"
  package := "client"
  restPackage := "k8s.io/client-go/rest"
  formatter := none
  metricsPackage := "github.com/kyverno/kyverno/pkg/metrics"
  tracing := .default
  exclusions := .default
  targets := []

namespace OutputSettings

/-- The directory of the file. -/
def directory (o : OutputSettings) : Path :=
  match o.base with
  | some base => base.join o.dir
  | none => o.dir

/-- The path of the file. -/
def filePath (o : OutputSettings) (fileName : String) : Path :=
  o.directory.join ⟨fileName⟩

/-- The component that spans are reported for; the directory, with slashes between its parts,
unless another is given. -/
def componentName (o : OutputSettings) : String :=
  o.component.getD (String.ofList (o.dir.text.toList.map fun c => if c = '\\' then '/' else c))

/-- The package clause of the file. -/
def packageName (o : OutputSettings) (default : String) : String :=
  o.package.getD default

/-- The output with a relative directory read from `base`. -/
def resolvePaths (o : OutputSettings) (base : Path) : OutputSettings :=
  if o.dir.isAbsolute then o else { o with base := some base }

end OutputSettings

/-- The target with relative paths read from `base`. -/
def TargetSettings.resolvePaths (t : TargetSettings) (base : Path) : TargetSettings :=
  { t with
    schema := base.join t.schema
    outputs := t.outputs.map (·.resolvePaths base) }

namespace Settings

/-- The settings with the relative paths of all targets read from `base`. -/
def resolvePaths (s : Settings) (base : Path) : Settings :=
  { s with targets := s.targets.map (·.resolvePaths base) }

/-- Whether a name is that of a file in the output directory itself. -/
def isFileName (name : String) : Bool :=
  !name.toList.contains '/' && ".go".toList.isSuffixOf name.toList

/-- A package clause is an identifier without capital letters. -/
def checkPackage (package : String) : Except Error Unit :=
  if Text.isPackageName package.toList then .ok ()
  else .error (.settings (.badPackageName package))

/-- The paths of emitted files, `seen` and those of further outputs, if they are all different. -/
def checkOutputs (fileName : String) (seen : List Path) :
    List OutputSettings → Except Error (List Path)
  | [] => .ok seen
  | o :: rest => do
    match o.package with
    | some package => checkPackage package
    | none => pure ()
    let path := o.filePath fileName
    if seen.any path.same then throw (.settings (.sharedOutput path))
    checkOutputs fileName (seen ++ [path]) rest

/-- Checks targets one by one, after those with the names `names` and the emitted files `paths`. -/
def checkTargets (fileName : String) (names : List String) (paths : List Path) :
    List TargetSettings → Except Error Unit
  | [] => .ok ()
  | t :: rest => do
    if t.name = "" then throw (.settings .unnamedTarget)
    if names.contains t.name then throw (.settings (.repeatedTarget t.name))
    if t.outputs.isEmpty then throw (.settings (.noOutputs t.name))
    let paths ← checkOutputs fileName paths t.outputs
    checkTargets fileName (names ++ [t.name]) paths rest

/-- Refuses settings that no run can follow. -/
def check (s : Settings) : Except Error Unit := do
  if s.targets.isEmpty then throw (.settings .noTargets)
  if !isFileName s.fileName then throw (.settings (.badFileName s.fileName))
  checkPackage s.package
  if s.formatter = some [] then throw (.settings .emptyFormatter)
  checkTargets s.fileName [] [] s.targets

/-- The settings that a file describes to a reader, with relative paths read from the directory of
the file. -/
def load (read : String → Except DataFault Settings) (files : FileTree) (path : Path) :
    Except Error Settings := do
  let text ← (files.readText path).mapError fun fault => .settings (.unreadable path fault)
  let s ← (read text).mapError .toml
  match path.parent? with
  | some base => return s.resolvePaths base
  | none => return s

/-- The targets of a run: all of them, or the first with the given name. -/
def select (s : Settings) : Option String → Except Error (List TargetSettings)
  | none => .ok s.targets
  | some name =>
    match s.targets.find? (·.name == name) with
    | some t => .ok [t]
    | none => .error (.settings (.unknownTarget name))

end Settings

end ClientWrap
