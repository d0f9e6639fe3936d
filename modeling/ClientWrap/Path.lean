import ClientWrap.Text.Lines

/-!
# Paths

Slash-separated paths of files. A path keeps its text as it was written or joined; nothing is
normalised. Two paths are the same when their components are, which forgets repeated slashes,
slashes at the end and every `.` but a leading one.

Main statements:

* `Path.join_of_isAbsolute`: joining an absolute path forgets the base.
-/

namespace ClientWrap

open ClientWrap.Text

/-- The path of a file or directory. -/
structure Path where
  text : String
  deriving DecidableEq, Repr, Inhabited

/-- A component of a path: the root, the directory itself, the one above it, or a name. -/
inductive Component where
  | root
  | here
  | up
  | name (text : String)
  deriving DecidableEq, Repr

namespace Path

/-- Whether the path begins at the root. -/
def isAbsolute (p : Path) : Bool :=
  p.text.toList.head? == some '/'

/-- The parts of the text between slashes. -/
def segments (p : Path) : List String :=
  (p.text.toList.splitOn '/').map String.ofList

/-- The component that a part of the text stands for inside a path. -/
def componentOf? (segment : String) : Option Component :=
  if segment = "" ∨ segment = "." then none
  else if segment = ".." then some .up
  else some (.name segment)

/-- The components of the path. -/
def components (p : Path) : List Component :=
  let segs := p.segments
  let lead :=
    if p.isAbsolute then [Component.root]
    else if segs.head? = some "." then [Component.here] else []
  lead ++ segs.filterMap componentOf?

/-- Whether two paths have the same components. -/
def same (p q : Path) : Bool :=
  p.components == q.components

/-- The path `q` read from the directory `base`. -/
def join (base q : Path) : Path :=
  if q.isAbsolute then q
  else if base.text = "" ∨ base.text.toList.getLast? = some '/' then ⟨base.text ++ q.text⟩
  else ⟨base.text ++ "/" ++ q.text⟩

/-- Whether a part of the text stands for no component inside a path. -/
def isSilent (segment : String) : Bool :=
  (componentOf? segment).isNone

/-- The text before the body of the path, the slash of the root or a leading dot, and the parts
of the body. -/
def body (p : Path) : String × List String :=
  match p.segments with
  | "" :: rest => if p.isAbsolute then ("/", rest) else ("", "" :: rest)
  | "." :: rest => (".", if rest.isEmpty then [] else "" :: rest)
  | segs => ("", segs)

/-- The directory that holds what the path names. It is the path without its last component and
what separates it from the one before; the root and the empty path have none. -/
def parent? (p : Path) : Option Path :=
  let (lead, segs) := p.body
  match segs.reverse.dropWhile isSilent with
  | _ :: above =>
    some ⟨lead ++ "/".intercalate (above.dropWhile isSilent).reverse⟩
  | [] => if lead = "." then some ⟨""⟩ else none

/-- The name that the path ends in. -/
def fileName? (p : Path) : Option String :=
  match p.components.getLast? with
  | some (.name n) => some n
  | _ => none

/-- The part of the file name after its last dot, unless that dot is the first character. -/
def extension? (p : Path) : Option String :=
  match p.fileName? with
  | none => none
  | some n =>
    match (n.toList.reverse.span (· != '.')) with
    | (_, []) => none
    | (ext, _ :: stem) => if stem.isEmpty then none else some (String.ofList ext.reverse)

/-- The path and the directories above it, innermost first, down to but without the empty path.
At most `n` of them are listed. -/
def ancestorsUpTo : Nat → Path → List Path
  | 0, _ => []
  | n + 1, p =>
    if p.text = "" then []
    else
      match p.parent? with
      | some q => p :: ancestorsUpTo n q
      | none => [p]

/-- The path and all directories above it, innermost first. -/
def ancestors (p : Path) : List Path :=
  p.ancestorsUpTo (p.segments.length + 1)

/-- An absolute path is read without the base. -/
theorem join_of_isAbsolute {base q : Path} (h : q.isAbsolute = true) :
  base.join q = q
  := by simp [join, h]

end Path

end ClientWrap
