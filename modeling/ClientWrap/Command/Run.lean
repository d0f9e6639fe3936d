import ClientWrap.Command.Arguments
import ClientWrap.Listing.Data
import ClientWrap.Listing.Rows
import ClientWrap.Settings.Overrides

/-!
# Running commands

What an invocation does to the file tree and what it prints. Events are noted in full; how many of
them are shown depends on the verbosity. An environment tells how files are read and how programs
are run.
-/

namespace ClientWrap.Command

/-- What commands are given from outside: the readers of schemas and of settings, and a way of
running formatters. -/
structure Environment where
  schemas : SchemaReaders
  settings : String → Except DataFault Settings
  execute : Execution

/-- Why a command fails. -/
inductive Failure where
  | error (e : Error)
  | badOverride (fault : OverrideFault)
  | outOfDate (files : Nat)
  deriving DecidableEq, Repr

/-- The wording of a failure, if it has one. -/
def Failure.message? : Failure → Option String
  | error e => e.message?
  | badOverride fault => fault.message
  | outOfDate files =>
    s!"{files} generated file(s) out of date, run `clientset-wrapgen generate`"

/-- What a command leaves behind. -/
structure Outcome where
  files : FileTree
  log : List Event
  stdout : String
  failure : Option Failure
  deriving Repr

namespace Outcome

/-- The exit code of a command. -/
def exitCode (o : Outcome) : Nat :=
  if o.failure.isSome then 1 else 0

/-- The lines of the log that are shown at a verbosity. -/
def shownLog (o : Outcome) (verbosity : Nat) : List String :=
  (o.log.filter fun e => e.level.shownAt verbosity).map fun e => e.level.name ++ " " ++ e.message

/-- The outcome of a computation that prints a text and leaves the file tree as it is. -/
def ofReport (files : FileTree) (r : Report Failure String) : Outcome :=
  match r.outcome with
  | .ok text => ⟨files, r.log, text, none⟩
  | .error e => ⟨files, r.log, "", some e⟩

end Outcome

/-- A computation whose failures are those of a command. -/
def lift {α : Type} (r : Report Error α) : Report Failure α :=
  r.mapError .error

/-- The settings with overrides applied. Keys that name no setting are noted. -/
def override (properties : List String) (s : Settings) : Report Failure Settings := do
  if properties.isEmpty then return s
  let o ← Report.ofExcept ((Overrides.parse properties).mapError Failure.badOverride)
  for key in o.unknownKeys do
    Report.note (.unknownProperty key)
  return o.apply s

namespace Invocation

/-- The settings of an invocation. -/
def loadSettings (i : Invocation) (env : Environment) (files : FileTree) :
    Report Failure Settings := do
  let s ← lift (Report.ofExcept (Settings.load env.settings files i.settings))
  override i.properties s

/-- The project of an invocation. -/
def loadProject (i : Invocation) (env : Environment) (files : FileTree) :
    Report Failure Project := do
  let s ← i.loadSettings env files
  let p ← lift (Report.ofExcept (Project.ofSettings env.execute s))
  return if i.noFormat then { p with formatter := none } else p

/-- Writes the emitted files and lists them. -/
def generate (i : Invocation) (env : Environment) (files : FileTree) : Outcome :=
  let project := i.loadProject env files
  match project.outcome with
  | .error e => ⟨files, project.log, "", some e⟩
  | .ok p =>
    let (files, written) := p.generate env.schemas files i.target
    Outcome.ofReport files do
      let _ ← project
      let fs ← lift written
      let rows := fs.map fun f => Listing.FileRow.of f.1 .upToDate f.2
      Report.note (.finished (fs.filter (·.2)).length fs.length)
      return Listing.files false rows ++ "\n"

/-- Lists the emitted files with their status, and fails if one is out of date. -/
def check (i : Invocation) (env : Environment) (files : FileTree) : Outcome :=
  let listed : Report Failure (List Listing.FileRow) := do
    let p ← i.loadProject env files
    let fs ← lift (p.check env.schemas files i.target)
    return fs.map fun f => Listing.FileRow.of f.1 f.2 false
  match listed.outcome with
  | .error e => ⟨files, listed.log, "", some e⟩
  | .ok rows =>
    let outdated := (rows.filter (·.status != .upToDate)).length
    ⟨files, listed.log, Listing.files false rows ++ "\n",
      if 0 < outdated then some (.outOfDate outdated) else none⟩

/-- The settings under which a schema of its own is inspected: those of the settings file, if there
is one. -/
def inspectionSettings (i : Invocation) (env : Environment) (files : FileTree) :
    Report Failure Settings := do
  if files.contains i.settings then i.loadSettings env files
  else
    Report.note (.settingsMissing i.settings.text)
    override i.properties Settings.default

/-- The resources of a schema of its own. -/
def inspectSchema (i : Invocation) (env : Environment) (files : FileTree) (path : Path) :
    Report Failure (List ResourceRow) := do
  let s ← i.inspectionSettings env files
  let schema ← lift (Schema.load env.schemas files path)
  let cs ← lift (schema.walk s.exclusions)
  return cs.rows

/-- The resources of the targets. -/
def inspectTargets (i : Invocation) (env : Environment) (files : FileTree) :
    Report Failure (List (String × List ResourceRow)) := do
  let p ← i.loadProject env files
  let targets ← lift (Report.ofExcept (p.settings.select i.target))
  targets.mapM fun t => do
    let cs ← lift (p.loadClientset env.schemas files t)
    return (t.name, cs.rows)

/-- The listing of resources in the form that was asked for. -/
def listing (i : Invocation) (targets : List (String × List ResourceRow)) : String :=
  match i.form with
  | .table => String.join (targets.map fun t => Listing.resources false t.1 t.2 ++ "\n")
  | .yaml => Listing.Yaml.text targets
  | .json => Listing.Json.text targets ++ "\n"

/-- Lists resources. -/
def inspect (i : Invocation) (env : Environment) (files : FileTree) : Outcome :=
  Outcome.ofReport files do
    match i.schema with
    | some path => return i.listing [(path.text, ← i.inspectSchema env files path)]
    | none => return i.listing (← i.inspectTargets env files)

/-- The paths that an invocation names. -/
def namedPaths (i : Invocation) : List Path :=
  i.settings :: i.schema.toList

/-- The paths of the schemas and emitted files that the settings of an invocation name. -/
def projectPaths (i : Invocation) (env : Environment) (files : FileTree) : List Path :=
  match (i.loadSettings env files).outcome with
  | .error _ => []
  | .ok s => s.targets.flatMap fun t => t.schema :: t.outputs.map (·.filePath s.fileName)

/-- Runs an invocation. -/
def run (i : Invocation) (env : Environment) (files : FileTree) : Outcome :=
  match i.verb with
  | .generate => i.generate env files
  | .check => i.check env files
  | .inspect => i.inspect env files

end Invocation

end ClientWrap.Command
