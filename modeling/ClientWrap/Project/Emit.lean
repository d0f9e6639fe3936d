import ClientWrap.Project.Basic

/-!
# Emitting files

Writes the files of a project where they differ from what is there, or only compares them. Texts
that differ in nothing but their line ends are the same. Nothing is written before all files of a
run are rendered.
-/

namespace ClientWrap

/-- How an emitted file compares with the one that is there. -/
inductive FileStatus where
  | upToDate
  | stale
  | missing
  deriving DecidableEq, Repr

namespace FileStatus

/-- The name of a status. -/
def name : FileStatus → String
  | upToDate => "up-to-date"
  | stale => "stale"
  | missing => "missing"

/-- The status with the given name. -/
def ofName? (s : String) : Option FileStatus :=
  [upToDate, stale, missing].find? (·.name == s)

end FileStatus

namespace FileTree

/-- How a text compares with the file at a path. A file that cannot be read counts as missing. -/
def status (t : FileTree) (p : Path) (text : String) : FileStatus :=
  match t.readText p with
  | .ok old => if Text.sameLines old text then .upToDate else .stale
  | .error _ => .missing

/-- The tree with the directory made that is to hold a file. -/
def makeHolder (t : FileTree) (p : Path) : FileTree × Except Error Unit :=
  match p.parent? with
  | none => (t, .ok ())
  | some parent =>
    if parent.text = "" then (t, .ok ())
    else
      let (t, result) := t.makeDirectories parent
      (t, result.mapError (.createDirectory parent))

/-- The tree with a text in a file, and whether the file had to be written. -/
def ensure (t : FileTree) (p : Path) (text : String) : FileTree × Report Error Bool :=
  if t.status p text = .upToDate then
    (t, do
      Report.note (.unchanged p.text)
      return false)
  else
    match t.makeHolder p with
    | (t, .error e) => (t, throw e)
    | (t, .ok ()) =>
      match t.write p (.text text) with
      | .error fault => (t, throw (.createFile p fault))
      | .ok t => (t, do
          Report.note (.updated p.text)
          return true)

/-- The tree with emitted files in place, each with whether it had to be written. The first file
that cannot be written ends the run; those before it stay. -/
def ensureAll (t : FileTree) :
    List RenderedFile → FileTree × Report Error (List (RenderedFile × Bool))
  | [] => (t, pure [])
  | f :: rest =>
    let (t', written) := t.ensure f.path f.text
    match written.outcome with
    | .error _ => (t', written.bind fun _ => pure [])
    | .ok b =>
      let (t'', others) := t'.ensureAll rest
      (t'', do
        let _ ← written
        return (f, b) :: (← others))

end FileTree

namespace Project

/-- The file tree after a run, and what the run did. -/
def generate (p : Project) (readers : SchemaReaders) (files : FileTree)
    (target : Option String) : FileTree × Report Error (List (RenderedFile × Bool)) :=
  let rendered := p.renderAll readers files target
  match rendered.outcome with
  | .error _ => (files, rendered.bind fun _ => pure [])
  | .ok fs =>
    let (files, written) := files.ensureAll fs
    (files, rendered.bind fun _ => written)

/-- The status of every emitted file. -/
def check (p : Project) (readers : SchemaReaders) (files : FileTree)
    (target : Option String) : Report Error (List (RenderedFile × FileStatus)) := do
  let fs ← p.renderAll readers files target
  return fs.map fun f => (f, files.status f.path f.text)

end Project

end ClientWrap
