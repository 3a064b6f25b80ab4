import Stencil.Keyed
import Stencil.Path

/-!
# File trees

The files that templates and data are read from, as one value: directories of
named entries, and files of bytes. A path leads to a place in the tree by going
through its segments one after the other, each of which has to start from a
directory. So a path that goes on behind a file, be it only by a slash, leads
nowhere, and so does one that passes through a name that is not there, even when
it goes up again at once. The empty path leads nowhere.
-/

namespace Stencil

/-- A `file` with its bytes, or a `directory` with the nodes of its entries under their names. -/
inductive FileNode where
  | file (content : ByteArray)
  | directory (entries : List (Text × FileNode))

namespace FileNode

/-- The entries of a directory; a `file` has none. -/
def entries? : FileNode → Option (List (Text × FileNode))
  | .file _ => none
  | .directory entries => some entries

/-- The node is a file. -/
def isFile : FileNode → Bool
  | .file _ => true
  | .directory _ => false

/-- The entry of a name in a list of entries, by `Keyed.get?`. -/
def child? (name : Text) (entries : List (Text × FileNode)) : Option FileNode :=
  Keyed.get? name entries

/-- The node that a row of names leads to: each of them is looked up by `child?` in the directory
that those before it lead to. -/
def at? : FileNode → List Text → Option FileNode
  | node, [] => some node
  | .file _, _ :: _ => none
  | .directory entries, name :: rest => (child? name entries).bind fun node => node.at? rest

/-- A list of entries with a `node` written at the end of a row of names, and with directories made
on the way to it where there are none. -/
def writeAmong (node : FileNode) :
    List Text → List (Text × FileNode) → List (Text × FileNode)
  | [], entries => entries
  | [name], entries => Keyed.put name node entries
  | name :: rest, entries =>
    let inside := ((child? name entries).bind entries?).getD []
    Keyed.put name (.directory (writeAmong node rest inside)) entries

/-- A directory with a `node` written at the end of a row of names, by `writeAmong`. -/
def write (tree : FileNode) (names : List Text) (node : FileNode) : FileNode :=
  match tree with
  | .file content => .file content
  | .directory entries => .directory (writeAmong node names entries)

mutual

/-- The rows of names that lead to the files below a node, for a `file` the empty one. -/
def filesBelow : FileNode → List (List Text)
  | .file _ => [[]]
  | .directory entries => filesAmong entries

/-- The rows of names that lead to the files below the entries of a directory. -/
def filesAmong : List (Text × FileNode) → List (List Text)
  | [] => []
  | (name, node) :: rest => (filesBelow node).map (name :: ·) ++ filesAmong rest

end

end FileNode

/-- A tree of files, and the `workingDirectory` from which relative paths are followed. -/
structure FileTree where
  root : FileNode
  workingDirectory : List Text := []

namespace FileTree

/-- One segment of a path, from the `place` that a row of names leads to. There must be a directory
at that place; `.` stays there, and `..` takes the last name off. -/
def step? (tree : FileTree) (place : List Text) (segment : Text) : Option (List Text) := do
  let entries ← (← tree.root.at? place).entries?
  if segment = [] ∨ segment = ['.'] then some place
  else if segment = ['.', '.'] then some place.dropLast
  else (FileNode.child? segment entries).map fun _ => place ++ [segment]

/-- The place that a path leads to, as the row of names from the root: its segments are followed by
`step?` from the root or from the `workingDirectory`. -/
def locate? (tree : FileTree) (path : Path) : Option (List Text) :=
  if path.written = [] then none
  else if path.isAbsolute then (Path.segments path.written).tail.foldlM tree.step? []
  else (Path.segments path.written).foldlM tree.step? tree.workingDirectory

/-- What stands at the place that `locate?` gives for a path. -/
def node? (tree : FileTree) (path : Path) : Option FileNode :=
  (tree.locate? path).bind tree.root.at?

/-- The path leads somewhere. -/
def holds (tree : FileTree) (path : Path) : Bool :=
  (tree.node? path).isSome

/-- The path leads to a file. -/
def isFile (tree : FileTree) (path : Path) : Bool :=
  match tree.node? path with
  | some (.file _) => true
  | _ => false

/-- The path leads to a directory. -/
def isDirectory (tree : FileTree) (path : Path) : Bool :=
  match tree.node? path with
  | some (.directory _) => true
  | _ => false

/-- The text of the file that a path leads to, if its bytes are UTF-8. -/
def readText? (tree : FileTree) (path : Path) : Option Text :=
  match tree.node? path with
  | some (.file content) => (String.fromUTF8? content).map String.toList
  | _ => none

/-- The entries of the directory that a path leads to, `[]` if it leads to no directory. -/
def entries (tree : FileTree) (path : Path) : List (Text × FileNode) :=
  ((tree.node? path).bind FileNode.entries?).getD []

/-- The path that leads to a `place` straight from the root. -/
def pathTo (place : List Text) : Path :=
  ⟨'/' :: Path.joinSegments place⟩

/-- The straight path `pathTo` where a path leads, or the path itself if it leads nowhere. -/
def canonical (tree : FileTree) (path : Path) : Path :=
  match tree.locate? path with
  | some place => pathTo place
  | none => path

/-- The paths of all files below the directory `dir`, at any depth: each name is put behind it by
`Path.join`. -/
def filesBelow (tree : FileTree) (dir : Path) : List Path :=
  (((tree.node? dir).map FileNode.filesBelow).getD []).map fun names =>
    names.foldl (fun path name => path.join ⟨name⟩) dir

end FileTree

end Stencil
