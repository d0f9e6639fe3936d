import ClientWrap.Command.Standard

/-!
# The command line

Reads the files that an invocation names, runs it, writes the files that it has changed, and prints
what it has to say.
-/

namespace ClientWrap.Command

/-- What stands at a path of the file system. -/
def entryAt (path : String) : IO (Option Entry) := do
  try
    let place ← IO.FS.realPath path
    if ← place.isDir then return some .directory
    let bytes ← IO.FS.readBinFile path
    return some (.file (.ofBytes bytes.toList))
  catch _ => return none

/-- A tree with what stands at some paths and at the directories above them. -/
def lookUp (files : FileTree) (paths : List Path) : IO FileTree := do
  let mut files := files
  for path in paths do
    for p in path.ancestors.reverse do
      match ← entryAt p.text with
      | some e => files := files.place p e
      | none => pure ()
  return files

/-- Makes the directories above a path and writes its file where two trees differ in them. -/
def writeBack (before after : FileTree) (path : Path) : IO Unit := do
  for p in path.ancestors.reverse do
    if after.isDirectory p && !before.isDirectory p then IO.FS.createDirAll p.text
  match after.readText path, before.readText path with
  | .ok new, .ok old => if new ≠ old then IO.FS.writeFile path.text new
  | .ok new, .error _ => IO.FS.writeFile path.text new
  | _, _ => pure ()

/-- Runs an invocation on the file system. -/
def Invocation.perform (i : Invocation) : IO UInt32 := do
  let files ← lookUp .empty i.namedPaths
  let paths := i.projectPaths .standard files
  let files ← lookUp files paths
  let outcome := i.run .standard files
  for path in paths do
    writeBack files outcome.files path
  IO.print outcome.stdout
  for line in outcome.shownLog i.verbosity do
    IO.eprintln line
  match outcome.failure with
  | some f => IO.eprintln ("Error: " ++ f.message?.getD "malformed input")
  | none => pure ()
  return outcome.exitCode.toUInt32

end ClientWrap.Command

/-- The program. -/
def main (args : List String) : IO UInt32 := do
  match ClientWrap.Command.read args with
  | .ok invocation => invocation.perform
  | .error fault =>
    IO.eprintln "Usage: clientset-wrapgen [-v] <generate|check|inspect> [options]"
    return fault.exitCode.toUInt32
