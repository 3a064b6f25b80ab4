import Stencil.FileTree

/-!
# Places in a file tree

A path leads to a place, which is the row of names on the way there from the root. Two
paths may lead to one place however they are written, and the straight path to a place
says exactly the names of the place: so the straight paths of two files say the same
only if it is the same file. This takes a tree whose working directory is a row of names,
as every name that is met on the way is one.

A file can be overwritten. Then every path leads where it did, and what stands at every
other place is of the kind that it was.

Theorems:
- `components_pathTo`: a straight path says the names of its place.
- `locate?_eq_of_same_canonical`: files with one straight path stand at one place.
- `locate?_overwrite`: overwriting a file moves nothing.
- `readText?_overwrite`: it is the new content that is read.
-/

namespace Stencil

namespace Path

/-! ## Segments -/

/-- The text stands for itself where it is a segment of a path, as `component?` tells. -/
structure IsName (name : Text) : Prop where
  component?_eq : component? name = some (.name name)
  no_slash : '/' ∉ name

theorem segments_ne_nil (text : Text) : segments text ≠ [] := by
  fun_induction segments text <;> exact List.cons_ne_nil _ _

/-- There is no slash within one of the `segments`. -/
theorem no_slash_of_mem_segments {text segment : Text} (h : segment ∈ segments text) :
    '/' ∉ segment := by
  fun_induction segments text generalizing segment with
  | case1 =>
    rw [List.mem_singleton.mp h]
    exact List.not_mem_nil
  | case2 rest ih =>
    rcases List.mem_cons.mp h with rfl | hrest
    · exact List.not_mem_nil
    · exact ih hrest
  | case3 c rest hc hnone => exact absurd hnone (segments_ne_nil rest)
  | case4 c rest hc first others hsome ih =>
    rcases List.mem_cons.mp h with rfl | hothers
    · intro hslash
      rcases List.mem_cons.mp hslash with hslash | hslash
      · exact hc hslash.symm
      · exact ih (hsome ▸ List.mem_cons_self) hslash
    · exact ih (hsome ▸ List.mem_cons_of_mem _ hothers)

/-- A character that is no slash goes to the first of the `segments`. -/
theorem segments_cons {c : Char} (hc : c ≠ '/') {rest first : Text} {others : List Text}
    (h : segments rest = first :: others) : segments (c :: rest) = (c :: first) :: others := by
  rw [segments, h]
  exact hc

/-- The `segments` of a text without slashes are one. -/
theorem segments_of_no_slash : ∀ {name : Text}, '/' ∉ name → segments name = [name]
  | [], _ => rfl
  | c :: name, h => by
    obtain ⟨hc, hname⟩ := not_or.mp (mt List.mem_cons.mpr h)
    exact segments_cons (Ne.symm hc) (segments_of_no_slash hname)

/-- The `segments` go on behind a slash. -/
theorem segments_append_slash (rest : Text) :
    ∀ text : Text, segments (text ++ '/' :: rest) = segments text ++ segments rest
  | [] => rfl
  | c :: text => by
    have hrest := segments_append_slash rest text
    by_cases hc : c = '/'
    · subst hc
      show [] :: segments (text ++ '/' :: rest) = [] :: segments text ++ segments rest
      rw [hrest, List.cons_append]
    · obtain ⟨first, others, hsegments⟩ := List.exists_cons_of_ne_nil (segments_ne_nil text)
      rw [hsegments, List.cons_append] at hrest
      rw [List.cons_append, segments_cons hc hrest, segments_cons hc hsegments, List.cons_append]

/-- The `segments` of what `joinSegments` makes of names are the names. -/
theorem segments_joinSegments :
    ∀ {names : List Text}, names ≠ [] → (∀ name ∈ names, '/' ∉ name) →
      segments (joinSegments names) = names
  | [], h, _ => absurd rfl h
  | [name], _, h => segments_of_no_slash (h name List.mem_cons_self)
  | name :: next :: rest, _, h => by
    have hrest : segments (joinSegments (next :: rest)) = next :: rest :=
      segments_joinSegments (List.cons_ne_nil _ _)
        fun other hother => h other (List.mem_cons_of_mem _ hother)
    rw [joinSegments, List.append_assoc, List.singleton_append, segments_append_slash,
      segments_of_no_slash (h name List.mem_cons_self), hrest, List.singleton_append]
    exact List.cons_ne_nil _ _

/-- By `component?` names say themselves. -/
theorem filterMap_component? :
    ∀ {names : List Text}, (∀ name ∈ names, IsName name) →
      names.filterMap component? = names.map .name
  | [], _ => rfl
  | name :: rest, h => by
    have hrest := filterMap_component? fun other hother => h other (List.mem_cons_of_mem _ hother)
    rw [List.filterMap_cons_some (h name List.mem_cons_self).component?_eq, hrest, List.map_cons]

end Path

namespace FileTree

/-! ## Straight paths -/

/-- The `workingDirectory` is a row of names. -/
def WellPlaced (tree : FileTree) : Prop :=
  ∀ name ∈ tree.workingDirectory, Path.IsName name

/-- The straight path `pathTo` a place says the names of the place. -/
theorem components_pathTo {place : List Text} (h : ∀ name ∈ place, Path.IsName name) :
    (pathTo place).components = .root :: place.map .name := by
  have hnames : (Path.segments (Path.joinSegments place)).filterMap Path.component?
      = place.map .name := by
    cases place with
    | nil => rfl
    | cons name rest =>
      rw [Path.segments_joinSegments (List.cons_ne_nil _ _)
        fun name hname => (h name hname).no_slash]
      exact Path.filterMap_component? h
  show [Component.root] ++ _ = _
  rw [hnames]
  rfl

/-- Straight paths `pathTo` places that are the `same` lead to one place. -/
theorem eq_of_same_pathTo {place other : List Text} (hplace : ∀ name ∈ place, Path.IsName name)
    (hother : ∀ name ∈ other, Path.IsName name)
    (h : Path.same (pathTo place) (pathTo other)) : place = other := by
  have hcomponents : (pathTo place).components = (pathTo other).components := eq_of_beq h
  rw [components_pathTo hplace, components_pathTo hother, List.cons.injEq] at hcomponents
  exact (List.map_inj_right fun _ _ => Component.name.inj).mp hcomponents.2

variable {tree : FileTree}

/-- By `step?` a segment leads from a row of names to a row of names. -/
theorem isName_of_step? {place after : List Text} {segment : Text} (hslash : '/' ∉ segment)
    (hplace : ∀ name ∈ place, Path.IsName name) (h : tree.step? place segment = some after) :
    ∀ name ∈ after, Path.IsName name := by
  simp only [step?, Option.bind_eq_bind, Option.bind_eq_some_iff] at h
  obtain ⟨node, -, entries, -, h⟩ := h
  split at h
  next =>
    cases h
    exact hplace
  next hsaid =>
    split at h
    next =>
      cases h
      exact fun name hname => hplace name (List.dropLast_subset place hname)
    next hup =>
      -- The segment is no dot and no two dots, so it is a name.
      obtain ⟨child, -, rfl⟩ := Option.map_eq_some_iff.mp h
      intro name hname
      rcases List.mem_append.mp hname with hbefore | hlast
      · exact hplace name hbefore
      · rw [List.mem_singleton.mp hlast]
        refine ⟨?_, hslash⟩
        rw [Path.component?, if_neg hsaid, if_neg hup]

/-- Segments lead from a row of names to a row of names. -/
theorem isName_of_foldlM_step? :
    ∀ {segments place after : List Text}, (∀ segment ∈ segments, '/' ∉ segment) →
      (∀ name ∈ place, Path.IsName name) → segments.foldlM tree.step? place = some after →
      ∀ name ∈ after, Path.IsName name
  | [], place, after, _, hplace, h => by
    cases h
    exact hplace
  | segment :: rest, place, after, hslash, hplace, h => by
    rw [List.foldlM_cons] at h
    obtain ⟨middle, hstep, hrest⟩ := Option.bind_eq_some_iff.mp h
    have hmiddle := isName_of_step? (hslash segment List.mem_cons_self) hplace hstep
    exact isName_of_foldlM_step? (fun other hother => hslash other (List.mem_cons_of_mem _ hother))
      hmiddle hrest

/-- By `locate?` a path leads to a row of names. -/
theorem isName_of_locate? (placed : tree.WellPlaced) {path : Path} {place : List Text}
    (h : tree.locate? path = some place) : ∀ name ∈ place, Path.IsName name := by
  unfold locate? at h
  split at h
  next => cases h
  next =>
    split at h
    next =>
      refine isName_of_foldlM_step? ?_ (fun name hname => absurd hname List.not_mem_nil) h
      exact fun segment hsegment => Path.no_slash_of_mem_segments (List.mem_of_mem_tail hsegment)
    next =>
      exact isName_of_foldlM_step? (fun segment => Path.no_slash_of_mem_segments) placed h

/-- A path for which `isFile` holds leads somewhere by `locate?`, to a `.file`. -/
theorem exists_locate?_of_isFile {path : Path} (h : tree.isFile path) :
    ∃ place content,
      tree.locate? path = some place ∧ tree.root.at? place = some (.file content) := by
  unfold isFile at h
  split at h
  next content hnode =>
    obtain ⟨place, hplace, hat⟩ := Option.bind_eq_some_iff.mp hnode
    exact ⟨place, content, hplace, hat⟩
  next => cases h

/-- The `canonical` path of what stands at a place leads straight there. -/
theorem canonical_of_locate? {path : Path} {place : List Text}
    (h : tree.locate? path = some place) : tree.canonical path = pathTo place := by
  unfold canonical
  rw [h]

/-- Files with the `same` `canonical` path stand at one place. -/
theorem locate?_eq_of_same_canonical (placed : tree.WellPlaced) {file other : Path}
    (hfile : tree.isFile file) (hother : tree.isFile other)
    (h : Path.same (tree.canonical file) (tree.canonical other)) :
    tree.locate? file = tree.locate? other := by
  obtain ⟨place, _, hplace, -⟩ := exists_locate?_of_isFile hfile
  obtain ⟨last, _, hlast, -⟩ := exists_locate?_of_isFile hother
  rw [canonical_of_locate? hplace, canonical_of_locate? hlast] at h
  rw [hplace, hlast]
  rw [eq_of_same_pathTo (isName_of_locate? placed hplace) (isName_of_locate? placed hlast) h]

end FileTree

/-! ## Overwriting a file -/

namespace FileNode

/-- What stands at each row of `names` is a file below both nodes, or a directory below both, or
nothing below either. -/
def SameKinds (node other : FileNode) : Prop :=
  ∀ names, (node.at? names).map isFile = (other.at? names).map isFile

theorem at?_directory_cons (entries : List (Text × FileNode)) (name : Text) (rest : List Text) :
    (directory entries).at? (name :: rest)
      = (child? name entries).bind fun node => node.at? rest := by
  rw [at?]

theorem at?_file_cons (content : ByteArray) (name : Text) (rest : List Text) :
    (file content).at? (name :: rest) = none := by
  rw [at?]

theorem at?_nil (node : FileNode) : node.at? [] = some node := by
  cases node <;> rw [at?]

/-- By `at?` a row of names leads on from where its beginning leads. -/
theorem at?_append (second : List Text) :
    ∀ (first : List Text) (node : FileNode),
      node.at? (first ++ second) = (node.at? first).bind fun middle => middle.at? second
  | [], node => by rw [at?_nil, List.nil_append, Option.bind_some]
  | name :: rest, file content => by
    rw [List.cons_append, at?_file_cons, at?_file_cons, Option.bind_none]
  | name :: rest, directory entries => by
    rw [List.cons_append, at?_directory_cons, at?_directory_cons, Option.bind_assoc]
    exact Option.bind_congr fun child _ => at?_append second rest child

/-- What `writeAmong` wrote stands where it was written. -/
theorem at?_writeAmong (node : FileNode) :
    ∀ (name : Text) (rest : List Text) (entries : List (Text × FileNode)),
      (directory (writeAmong node (name :: rest) entries)).at? (name :: rest) = some node
  | name, [], entries => by
    rw [writeAmong, at?_directory_cons, child?, Keyed.get?_put, if_pos rfl, Option.bind_some,
      at?_nil]
  | name, next :: rest, entries => by
    rw [writeAmong, at?_directory_cons, child?, Keyed.get?_put, if_pos rfl, Option.bind_some]
    · exact at?_writeAmong node next rest _
    · exact List.cons_ne_nil _ _

/-- A file in the place of a file leaves `SameKinds`. -/
theorem sameKinds_writeAmong (content : ByteArray) :
    ∀ {name : Text} {rest : List Text} {entries : List (Text × FileNode)} {old : ByteArray},
      (directory entries).at? (name :: rest) = some (file old) →
      SameKinds (directory (writeAmong (file content) (name :: rest) entries)) (directory entries)
  | name, rest, entries, old, h => by
    intro others
    rw [at?_directory_cons] at h
    obtain ⟨child, hchild, hat⟩ := Option.bind_eq_some_iff.mp h
    cases others with
    | nil => rw [at?_nil, at?_nil]; rfl
    | cons other more =>
      cases rest with
      | nil =>
        rw [at?_nil, Option.some.injEq] at hat
        rw [writeAmong, at?_directory_cons, at?_directory_cons, child?, Keyed.get?_put]
        split
        next hname =>
          rw [← hname, hchild, hat]
          cases more with
          | nil => rfl
          | cons => rw [Option.bind_some, Option.bind_some, at?_file_cons, at?_file_cons]
        next => rfl
      | cons next rest =>
        -- What there is on the way to the file is a directory.
        cases child with
        | file => rw [at?_file_cons] at hat; cases hat
        | directory inside =>
          have hinside := sameKinds_writeAmong content hat
          rw [writeAmong, at?_directory_cons, at?_directory_cons, child?, Keyed.get?_put]
          · split
            next hname =>
              rw [← hname, hchild]
              exact hinside more
            next => rfl
          · exact List.cons_ne_nil _ _

end FileNode

namespace FileTree

/-- The tree with new `content` in the file at a `place`. -/
def overwrite (place : List Text) (content : ByteArray) (tree : FileTree) : FileTree :=
  { tree with root := tree.root.write place (.file content) }

variable {tree other : FileTree}

/-- A `step?` leads to the same place in trees of `SameKinds`. -/
theorem step?_eq_of_sameKinds (h : tree.root.SameKinds other.root) : tree.step? = other.step? := by
  funext place segment
  have hplace := h place
  have hsegment := h (place ++ [segment])
  rw [FileNode.at?_append, FileNode.at?_append] at hsegment
  unfold step?
  match htree : tree.root.at? place, hother : other.root.at? place with
  | none, none => rfl
  | none, some _ => rw [htree, hother] at hplace; cases hplace
  | some _, none => rw [htree, hother] at hplace; cases hplace
  | some (.file _), some (.file _) => rfl
  | some (.file _), some (.directory _) => rw [htree, hother] at hplace; cases hplace
  | some (.directory _), some (.file _) => rw [htree, hother] at hplace; cases hplace
  | some (.directory entries), some (.directory others) =>
    rw [htree, hother, Option.bind_some, Option.bind_some, FileNode.at?_directory_cons,
      FileNode.at?_directory_cons] at hsegment
    have hchild : (FileNode.child? segment entries).map (fun _ => place ++ [segment])
        = (FileNode.child? segment others).map fun _ => place ++ [segment] := by
      cases hentry : FileNode.child? segment entries <;>
        cases hother : FileNode.child? segment others <;>
        simp_all [FileNode.at?_nil]
    show (if _ then _ else if _ then _ else _) = if _ then _ else if _ then _ else _
    rw [hchild]

/-- By `locate?` a path leads to the same place in trees of `SameKinds`. -/
theorem locate?_eq_of_sameKinds (h : tree.root.SameKinds other.root)
    (hdirectory : tree.workingDirectory = other.workingDirectory) (path : Path) :
    tree.locate? path = other.locate? path := by
  unfold locate?
  rw [step?_eq_of_sameKinds h, hdirectory]

/-- Whether `isFile` holds of a path is told by the kind of what it leads to. -/
theorem isFile_eq (tree : FileTree) (path : Path) :
    tree.isFile path
      = (((tree.locate? path).bind tree.root.at?).map FileNode.isFile).getD false := by
  unfold isFile node?
  rcases (tree.locate? path).bind tree.root.at? with _ | ⟨_ | _⟩ <;> rfl

/-- A path leads to a file in both of two trees of `SameKinds`, or in neither. -/
theorem isFile_eq_of_sameKinds (h : tree.root.SameKinds other.root)
    (hdirectory : tree.workingDirectory = other.workingDirectory) (path : Path) :
    tree.isFile path = other.isFile path := by
  rw [isFile_eq, isFile_eq, locate?_eq_of_sameKinds h hdirectory, Option.map_bind, Option.map_bind]
  congr 1
  exact Option.bind_congr fun place _ => h place

/-- Below a root that is a file no segment leads anywhere. -/
theorem foldlM_step?_of_file {content : ByteArray} (hroot : tree.root = .file content)
    (start : List Text) {segments : List Text} (h : segments ≠ []) :
    segments.foldlM tree.step? start = none := by
  obtain ⟨segment, rest, rfl⟩ := List.exists_cons_of_ne_nil h
  have hstep : tree.step? start segment = none := by
    unfold step?
    rw [hroot]
    cases start <;> rfl
  rw [List.foldlM_cons, hstep]
  rfl

/-- A path that leads somewhere begins in a directory, so the root is one. -/
theorem exists_entries_of_locate? {path : Path} {place : List Text}
    (h : tree.locate? path = some place) : ∃ entries, tree.root = .directory entries := by
  cases hroot : tree.root with
  | directory entries => exact ⟨entries, rfl⟩
  | file content =>
    unfold locate? at h
    split at h
    next => cases h
    next hwritten =>
      split at h
      next habsolute =>
        obtain ⟨c, rest, hcons⟩ := List.exists_cons_of_ne_nil hwritten
        have hslash : c = '/' := by
          rw [Path.isAbsolute, hcons] at habsolute
          exact Option.some.inj (eq_of_beq habsolute)
        rw [hcons, hslash] at h
        rw [Path.segments, List.tail_cons,
          foldlM_step?_of_file hroot [] (Path.segments_ne_nil rest)] at h
        cases h
      next =>
        rw [foldlM_step?_of_file hroot _ (Path.segments_ne_nil path.written)] at h
        cases h

variable {path : Path} {place : List Text} {old : ByteArray}

/-- The place of a file is below the root. -/
theorem exists_cons_of_locate? (hplace : tree.locate? path = some place)
    (hfile : tree.root.at? place = some (.file old)) :
    ∃ name rest entries, place = name :: rest ∧ tree.root = .directory entries := by
  obtain ⟨entries, hroot⟩ := exists_entries_of_locate? hplace
  cases place with
  | nil =>
    rw [hroot, FileNode.at?_nil] at hfile
    cases hfile
  | cons name rest => exact ⟨name, rest, entries, rfl, hroot⟩

/-- To `overwrite` a file leaves `SameKinds`. -/
theorem sameKinds_overwrite (hplace : tree.locate? path = some place)
    (hfile : tree.root.at? place = some (.file old)) (content : ByteArray) :
    (tree.overwrite place content).root.SameKinds tree.root := by
  obtain ⟨name, rest, entries, rfl, hroot⟩ := exists_cons_of_locate? hplace hfile
  rw [hroot] at hfile
  show (tree.root.write (name :: rest) (.file content)).SameKinds tree.root
  rw [hroot]
  exact FileNode.sameKinds_writeAmong content hfile

/-- To `overwrite` a file moves nothing. -/
theorem locate?_overwrite (hplace : tree.locate? path = some place)
    (hfile : tree.root.at? place = some (.file old)) (content : ByteArray) (other : Path) :
    (tree.overwrite place content).locate? other = tree.locate? other :=
  locate?_eq_of_sameKinds (sameKinds_overwrite hplace hfile content) rfl other

/-- Overwriting a file leaves files files. -/
theorem isFile_overwrite (hplace : tree.locate? path = some place)
    (hfile : tree.root.at? place = some (.file old)) (content : ByteArray) (other : Path) :
    (tree.overwrite place content).isFile other = tree.isFile other :=
  isFile_eq_of_sameKinds (sameKinds_overwrite hplace hfile content) rfl other

/-- To `overwrite` a file leaves `canonical` paths as they are. -/
theorem canonical_overwrite (hplace : tree.locate? path = some place)
    (hfile : tree.root.at? place = some (.file old)) (content : ByteArray) (other : Path) :
    (tree.overwrite place content).canonical other = tree.canonical other := by
  unfold canonical
  rw [locate?_overwrite hplace hfile content other]

/-- What `readText?` reads of a file that has been overwritten is the new `content`. -/
theorem readText?_overwrite (hplace : tree.locate? path = some place)
    (hfile : tree.root.at? place = some (.file old)) (content : ByteArray) :
    (tree.overwrite place content).readText? path
      = (String.fromUTF8? content).map String.toList := by
  have hnode : (tree.overwrite place content).node? path = some (.file content) := by
    unfold node?
    rw [locate?_overwrite hplace hfile content path, hplace, Option.bind_some]
    obtain ⟨name, rest, entries, rfl, hroot⟩ := exists_cons_of_locate? hplace hfile
    show (tree.root.write (name :: rest) (.file content)).at? (name :: rest) = _
    rw [hroot]
    exact FileNode.at?_writeAmong (.file content) name rest entries
  unfold readText?
  rw [hnode]

end FileTree

end Stencil
