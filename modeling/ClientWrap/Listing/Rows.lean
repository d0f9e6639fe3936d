import ClientWrap.Clientset.Walk
import ClientWrap.Listing.Table
import ClientWrap.Listing.Theme

/-!
# Listings for readers

The table of the resources of a target and the table of emitted files.
-/

namespace ClientWrap.Listing

/-- An emitted file as a listing shows it. -/
structure FileRow where
  target : String
  kind : WrapperKind
  path : String
  status : FileStatus
  /-- Whether the file was written during this run. -/
  written : Bool
  deriving DecidableEq, Repr

/-- The row of an emitted file. -/
def FileRow.of (f : RenderedFile) (status : FileStatus) (written : Bool) : FileRow :=
  ⟨f.target, f.kind, f.path.text, status, written⟩

/-- The number of runs of equal elements in a list. -/
def countRuns : List String → Nat
  | [] => 0
  | [_] => 1
  | a :: b :: rest => if a = b then countRuns (b :: rest) else countRuns (b :: rest) + 1

/-- The cells of a resource. -/
def resourceCells (r : ResourceRow) : List Cell :=
  [.left r.client, .left r.resource, .left r.kind, .left r.scope.title,
    .center (toString r.operations), .center (toString r.traced ++ "/" ++ toString r.operations)]

/-- The table of resources. -/
def resourceTable (rows : List ResourceRow) : Table where
  header := [.left "CLIENT", .left "RESOURCE", .left "KIND", .center "SCOPE",
    .center "OPERATIONS", .center "TRACED"]
  rows := rows.map resourceCells

/-- The listing of the resources of a target. Each client is counted once for every run of its
rows. -/
def resources (coloured : Bool) (target : String) (rows : List ResourceRow) : String :=
  if rows.isEmpty then "No resources discovered for target " ++ target
  else
    let clients := countRuns (rows.map (·.client))
    let counts := Colour.darkGrey.paint coloured s!"[{clients} clients, {rows.length} resources]"
    "╭─ Target " ++ target ++ " " ++ counts ++ " ─╮\n" ++ (resourceTable rows).text ++ "\n"

/-- What a listing says about the status of a file. -/
def FileRow.statusText (r : FileRow) : String :=
  if r.written then writtenIcon ++ " Written" else r.status.shown

/-- The table of emitted files. -/
def fileTable (rows : List FileRow) : Table where
  header := [.left "TARGET", .left "KIND", .left "FILE", .center "STATUS"]
  rows := rows.map fun r =>
    [.left r.target, .left r.kind.name, .left r.path, .left r.statusText]

/-- The line that explains the icons. -/
def legend (coloured : Bool) : String :=
  let icon (s : FileStatus) : String := s.colour.paint coloured s.icon
  let written := Colour.cyan.paint coloured writtenIcon
  "Legend: " ++ icon .upToDate ++ " Up to date  " ++ written ++ " Written  " ++ icon .stale ++
    " Stale  " ++ icon .missing ++ " Missing\n"

/-- The listing of emitted files. -/
def files (coloured : Bool) (rows : List FileRow) : String :=
  if rows.isEmpty then "No outputs configured"
  else (fileTable rows).text ++ "\n" ++ legend coloured

end ClientWrap.Listing
