import Stencil.Text.Basic

/-!
# Paths

A path is a text of names between slashes, and it is printed as it was written.
What it says are its components: empty names and single dots say nothing, except
that a relative path may begin with a dot; two dots are a component of their
own. Two paths that say the same are equal, however they are written.

A name splits at its last dot into a stem and an extension, unless that dot is
its first character.
-/

namespace Stencil

/-- One step of a path. -/
inductive Component where
  | root
  | here
  | up
  | name (name : Text)
  deriving DecidableEq

/-- A path as it was written. -/
structure Path where
  written : Text
  deriving DecidableEq

namespace Path

/-- The pieces between the slashes of a text, which are one more than the slashes. -/
def segments : Text → List Text
  | [] => [[]]
  | '/' :: rest => [] :: segments rest
  | c :: rest =>
    match segments rest with
    | [] => [[c]]
    | segment :: others => (c :: segment) :: others

/-- A text of segments with slashes in between, the inverse of `segments`. -/
def joinSegments : List Text → Text
  | [] => []
  | [segment] => segment
  | segment :: rest => segment ++ ['/'] ++ joinSegments rest

/-- The path as `written` begins at the root. -/
def isAbsolute (path : Path) : Bool :=
  path.written.head? == some '/'

/-- The component that a segment stands for; `none` for an empty one and for `.`. -/
def component? (segment : Text) : Option Component :=
  if segment = [] ∨ segment = ['.'] then none
  else if segment = ['.', '.'] then some .up
  else some (.name segment)

/-- The components of a path: of its first segment, which may be `root` or `here`, and of the
others, as far as `component?` gives one for them. -/
def components (path : Path) : List Component :=
  match segments path.written with
  | [] => []
  | first :: rest =>
    let start :=
      if path.isAbsolute then [Component.root]
      else if first = ['.'] then [.here]
      else (component? first).toList
    start ++ rest.filterMap component?

/-- Two paths have the same `components`. -/
def same (a b : Path) : Bool :=
  a.components == b.components

/-- The `path` below the directory `dir`; an absolute path stands for itself. -/
def join (dir path : Path) : Path :=
  if path.isAbsolute then path
  else if dir.written = [] ∨ dir.written.getLast? = some '/' then ⟨dir.written ++ path.written⟩
  else ⟨dir.written ++ ['/'] ++ path.written⟩

/-- A segment that says nothing where it stands inside a path: `component?` gives none for it. -/
def isSilent (segment : Text) : Bool :=
  (component? segment).isNone

/-- The path without its last component, and without the `isSilent` segments before that component;
`none` if there is no component to take off. -/
def parent? (path : Path) : Option Path :=
  match segments path.written with
  | [] => none
  | first :: rest =>
    match rest.reverse.dropWhile isSilent with
    | _ :: before =>
      let kept := (before.dropWhile isSilent).reverse
      if path.isAbsolute ∧ kept = [] then some ⟨['/']⟩
      else some ⟨joinSegments (first :: kept)⟩
    | [] =>
      if first = [] then none else some ⟨[]⟩

/-- The last of the `components`, if it is a name. -/
def fileName? (path : Path) : Option Text :=
  match path.components.getLast? with
  | some (.name name) => some name
  | _ => none

/-- A name as the part before its last dot and the part after it; a name whose only dot comes first
has no second part. -/
def splitName (name : Text) : Text × Option Text :=
  let extension := (name.reverse.takeWhile (· ≠ '.')).reverse
  let stem := name.take (name.length - extension.length - 1)
  if extension.length = name.length ∨ stem = [] then (name, none)
  else (stem, some extension)

/-- The name of the file without its extension, the first part of `splitName`. -/
def stem? (path : Path) : Option Text :=
  path.fileName?.map fun name => (splitName name).1

/-- The extension of the file, if its name has one: the second part of `splitName`. -/
def extension? (path : Path) : Option Text :=
  path.fileName?.bind fun name => (splitName name).2

/-! ## The order of paths -/

/-- The place of the kinds of components among each other. -/
def Component.rank : Component → Nat
  | .root => 0
  | .here => 1
  | .up => 2
  | .name _ => 3

/-- A component comes before another one or is the same: names are compared by `Text.bytesLE`, other
components by their `rank`. -/
def Component.le : Component → Component → Bool
  | .name a, .name b => Text.bytesLE a b
  | a, b => Component.rank a ≤ Component.rank b

/-- A list of components comes before another one or is the same: `Component.le` decides at the
first place where they differ. -/
def componentsLE : List Component → List Component → Bool
  | [], _ => true
  | _ :: _, [] => false
  | a :: as, b :: bs => if a = b then componentsLE as bs else Component.le a b

/-- Paths in order, by `componentsLE` on their `components`. -/
def le (a b : Path) : Bool :=
  componentsLE a.components b.components

end Path

end Stencil
