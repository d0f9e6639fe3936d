import ClientWrap.Path
import ClientWrap.Text.Ascending

/-!
# File trees

The files and directories below a working directory, and what reading, writing and making
directories does to them. Paths are followed name by name as the operating system follows them: a
missing name, or a file where a directory is needed, stops the walk.

The view of a tree is `FileTree.get?`, which says what stands at a location.

Main statements:

* `get?_put`: writing at a location changes what stands there and nothing else.
-/

namespace ClientWrap

open ClientWrap.Text

/-- Why a file operation fails. -/
inductive FileFault where
  | notFound
  | alreadyThere
  | notDirectory
  | isDirectory
  | notText
  deriving DecidableEq, Repr

/-- The wording of a fault, with the number that the system gives it. -/
def FileFault.message : FileFault → String
  | notFound => "No such file or directory (os error 2)"
  | alreadyThere => "File exists (os error 17)"
  | notDirectory => "Not a directory (os error 20)"
  | isDirectory => "Is a directory (os error 21)"
  | notText => "stream did not contain valid UTF-8"

/-- What a file holds: text, or bytes that are none. -/
inductive Contents where
  | text (s : String)
  | binary (bytes : List UInt8)
  deriving DecidableEq, Repr

/-- The contents of the given bytes. -/
def Contents.ofBytes (bytes : List UInt8) : Contents :=
  match String.fromUTF8? (ByteArray.mk bytes.toArray) with
  | some s => .text s
  | none => .binary bytes

/-- What can stand at a location. -/
inductive Entry where
  | directory
  | file (contents : Contents)
  deriving DecidableEq, Repr

/-- A place in a tree: the names that lead to it from the working directory. The directories above
the working directory have the name `..`, the root of the file system the name `/`. -/
abbrev Location := List String

/-- The entries of a tree in the order in which they were made. The working directory and the
directories above it are not listed; they are always there. -/
structure FileTree where
  entries : List (Location × Entry)
  deriving Repr, Inhabited

namespace FileTree

/-- The tree of an empty working directory. -/
def empty : FileTree := ⟨[]⟩

/-- Whether a location is a directory in every tree. -/
def isFixed (loc : Location) : Bool :=
  loc.all (· == "..") || loc == ["/"]

/-- What stands at a location. -/
def get? (t : FileTree) (loc : Location) : Option Entry :=
  if isFixed loc then some .directory
  else (t.entries.find? (·.1 == loc)).map (·.2)

/-- The tree with an entry at a location. -/
def put (t : FileTree) (loc : Location) (e : Entry) : FileTree :=
  ⟨t.entries.filter (·.1 != loc) ++ [(loc, e)]⟩

/-- The tree without a location and all below it. -/
def erase (t : FileTree) (loc : Location) : FileTree :=
  ⟨t.entries.filter fun e => !loc.isPrefixOf e.1⟩

/-- Writing at a location changes what stands there and nothing else. -/
theorem get?_put (t : FileTree) (loc loc' : Location) (e : Entry) (h : isFixed loc = false) :
  (t.put loc e).get? loc' = if loc' = loc then some e else t.get? loc'
  := by
  by_cases hl : loc' = loc
  · subst hl
    have hn : (t.entries.filter (·.1 != loc')).find? (·.1 == loc') = none := by
      simp [List.find?_eq_none]
    simp [get?, put, h, List.find?_append, hn]
  · have hn : (t.entries.filter (·.1 != loc)).find? (·.1 == loc')
        = t.entries.find? (·.1 == loc') := by
      rw [List.find?_filter]
      congr 1
      funext x
      by_cases hx : x.1 = loc'
      · simp [hx, hl]
      · simp [hx]
    have hr : ([(loc, e)] : List (Location × Entry)).find? (·.1 == loc') = none := by
      simp [Ne.symm hl]
    simp [get?, put, List.find?_append, hn, hr, hl]

/-- The directory above a location. -/
def above (loc : Location) : Location :=
  if loc = ["/"] then loc
  else if loc.all (· == "..") then loc ++ [".."]
  else loc.dropLast

/-- The directory that a part of a path leads to from a directory. -/
def enter (t : FileTree) (loc : Location) (segment : String) : Except FileFault Location :=
  match Path.componentOf? segment with
  | some (.name n) =>
    match t.get? (loc ++ [n]) with
    | none => .error .notFound
    | some (.file _) => .error .notDirectory
    | some .directory => .ok (loc ++ [n])
  | some .up => .ok (above loc)
  | _ => .ok loc

/-- Where following a path begins. -/
def startOf (p : Path) : Location :=
  if p.isAbsolute then ["/"] else []

/-- The directory that holds the last name of a path, with that name; `none` in its place if the
path ends otherwise. Slashes at the end are looked through. -/
def holder (t : FileTree) (p : Path) : Except FileFault (Location × Option String) :=
  if p.text = "" then .error .notFound
  else
    match p.segments.reverse.dropWhile (· == "") with
    | [] => .ok (startOf p, none)
    | last :: before => do
      let loc ← before.reverse.foldlM t.enter (startOf p)
      match Path.componentOf? last with
      | some (.name n) => return (loc, some n)
      | _ => return (← t.enter loc last, none)

/-- Whether the path ends in a slash. -/
def endsOpen (p : Path) : Bool :=
  p.text.toList.getLast? == some '/'

/-- What a path leads to. -/
def stat (t : FileTree) (p : Path) : Except FileFault Entry := do
  let (loc, name) ← t.holder p
  match name with
  | none => return .directory
  | some n =>
    match t.get? (loc ++ [n]) with
    | none => throw .notFound
    | some (.file c) => if endsOpen p then throw .notDirectory else return .file c
    | some .directory => return .directory

/-- Whether a path leads to a directory. -/
def isDirectory (t : FileTree) (p : Path) : Bool :=
  match t.stat p with
  | .ok .directory => true
  | _ => false

/-- Whether a path leads to anything. -/
def contains (t : FileTree) (p : Path) : Bool :=
  match t.stat p with
  | .ok _ => true
  | .error _ => false

/-- The text of a file. -/
def readText (t : FileTree) (p : Path) : Except FileFault String := do
  match ← t.stat p with
  | .directory => throw .isDirectory
  | .file (.binary _) => throw .notText
  | .file (.text s) => return s

/-- The tree with a file written in place of what it held before. -/
def write (t : FileTree) (p : Path) (c : Contents) : Except FileFault FileTree := do
  let (loc, name) ← t.holder p
  match name with
  | none => throw .isDirectory
  | some n =>
    match t.get? (loc ++ [n]) with
    | some .directory => throw .isDirectory
    | some (.file _) =>
      if endsOpen p then throw .notDirectory else return t.put (loc ++ [n]) (.file c)
    | none => if endsOpen p then throw .isDirectory else return t.put (loc ++ [n]) (.file c)

/-- The tree with one more directory. -/
def makeDirectory (t : FileTree) (p : Path) : Except FileFault FileTree := do
  let (loc, name) ← t.holder p
  match name with
  | none => throw .alreadyThere
  | some n =>
    match t.get? (loc ++ [n]) with
    | some _ => throw .alreadyThere
    | none => return t.put (loc ++ [n]) .directory

/-- The tree with the directories of a list made, where each is followed by those above it. A
directory that is there already is left alone, and those above it are not looked at. The tree is
returned with those directories that were made before a failure. -/
def makeAll (t : FileTree) : List Path → FileTree × Except FileFault Unit
  | [] => (t, .ok ())
  | p :: above =>
    match t.makeDirectory p with
    | .ok t' => (t', .ok ())
    | .error .notFound =>
      match t.makeAll above with
      | (t', .error e) => (t', .error e)
      | (t', .ok ()) =>
        match t'.makeDirectory p with
        | .ok t'' => (t'', .ok ())
        | .error e => (t', if t'.isDirectory p then .ok () else .error e)
    | .error e => (t, if t.isDirectory p then .ok () else .error e)

/-- The tree with a directory and all directories above it. -/
def makeDirectories (t : FileTree) (p : Path) : FileTree × Except FileFault Unit :=
  t.makeAll p.ancestors

/-- The tree with an entry at what a path names, if the directory that is to hold it is there. -/
def place (t : FileTree) (p : Path) (e : Entry) : FileTree :=
  match t.holder p with
  | .ok (loc, some n) => t.put (loc ++ [n]) e
  | _ => t

/-- The tree without what a path names and all below it. -/
def remove (t : FileTree) (p : Path) : FileTree :=
  match t.holder p with
  | .ok (loc, some n) => t.erase (loc ++ [n])
  | _ => t

/-- The paths of all entries below the working directory in ascending order, those of directories
with a slash at the end. -/
def list (t : FileTree) : List String :=
  let inside := t.entries.filter fun e => e.1.head? != some ".." && e.1.head? != some "/"
  ascending <| inside.map fun e =>
    "/".intercalate e.1 ++ match e.2 with
      | .directory => "/"
      | .file _ => ""

end FileTree

end ClientWrap
