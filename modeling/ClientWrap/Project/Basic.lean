import ClientWrap.Formatter
import ClientWrap.Schema.Load
import ClientWrap.Settings.Basic
import ClientWrap.Wrapper.Render

/-!
# Projects

A project is settings that have passed their check, with the formatter of its emitted files.
Rendering reads schemas and gives files in memory; it is a `Report`, so that it cannot change the
file tree that it reads from. The readers of schemas and the formatter may be any functions.
-/

namespace ClientWrap

/-- Checked settings with the formatter that emitted files are sent through. -/
structure Project where
  settings : Settings
  formatter : Option Formatter

/-- An emitted file before it is written. -/
structure RenderedFile where
  target : String
  kind : WrapperKind
  path : Path
  text : String
  deriving DecidableEq, Repr

namespace Project

/-- The project of settings, with the formatter that they name. -/
def ofSettings (execute : Execution) (s : Settings) : Except Error Project := do
  s.check
  return ⟨s, s.formatter.map (Formatter.ofCommand execute)⟩

/-- The clientset of a target. -/
def loadClientset (p : Project) (readers : SchemaReaders) (files : FileTree)
    (t : TargetSettings) : Report Error Clientset := do
  let schema ← Schema.load readers files t.schema
  let cs ← schema.walk p.settings.exclusions
  Report.note (.schemaWalked cs.type.spelling t.schema.text)
  Report.note (.targetLoaded t.name cs.clients.length cs.resourceCount)
  return cs

/-- What an output adds to the calls that its wrappers pass on. -/
def instrumentation (p : Project) (o : OutputSettings) : Instrumentation :=
  match o.kind with
  | .metrics => Metrics.instrumentation p.settings.metricsPackage
  | .traces => Traces.instrumentation p.settings.tracing o.componentName

/-- The file of an output before it is formatted. -/
def renderFile (p : Project) (t : TargetSettings) (cs : Clientset) (o : OutputSettings) :
    Except Error Code.File :=
  let options := ⟨o.packageName p.settings.package, p.settings.restPackage, t.newForConfig⟩
  (p.instrumentation o).render options cs

/-- The emitted file of an output. -/
def renderOutput (p : Project) (t : TargetSettings) (cs : Clientset) (o : OutputSettings) :
    Report Error RenderedFile := do
  let file ← p.renderFile t cs o
  let text ←
    match p.formatter with
    | some format => format file.text
    | none => pure file.text
  return ⟨t.name, o.kind, o.filePath p.settings.fileName, text⟩

/-- The emitted files of a target. -/
def renderTarget (p : Project) (readers : SchemaReaders) (files : FileTree)
    (t : TargetSettings) : Report Error (List RenderedFile) := do
  let cs ← p.loadClientset readers files t
  t.outputs.mapM (p.renderOutput t cs)

/-- The emitted files of all targets, or of the one with a name. -/
def renderAll (p : Project) (readers : SchemaReaders) (files : FileTree)
    (target : Option String) : Report Error (List RenderedFile) := do
  let targets ← p.settings.select target
  return (← targets.mapM (p.renderTarget readers files)).flatten

end Project

end ClientWrap
