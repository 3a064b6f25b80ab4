import Mathlib.Data.List.Nodup
import Stencil.Proofs.FileTree.Entry

/-!
# Files below a directory

The files below a directory are found by going through its entries, and through those of
the directories among them. In a well-formed tree that gives each row of names that leads
from the directory to a file, and gives it once (`mem_filesBelow_iff`,
`nodup_filesBelow`).

The names are put behind the path to the directory one by one. However that path is
written, what it says then goes on by these names (`components_follow`), and it leads where
the names lead from the directory (`node?_follow`).
-/

namespace Stencil

namespace FileNode

variable {node : FileNode} {names : List Text}

/-! ## Rows of names -/

/-- By `at?` a row of names leads into a directory by one of its entries. -/
theorem at?_entry_cons (name : Text) (node : FileNode) (rest : List (Text × FileNode))
    (first : Text) (more : List Text) :
    (directory ((name, node) :: rest)).at? (first :: more)
      = if name = first then node.at? more else (directory rest).at? (first :: more) := by
  rw [at?_directory_cons, at?_directory_cons, child?, child?, Keyed.get?]
  split
  next => rw [Option.bind_some]
  next => rfl

/-- What is in `filesBelow` a directory is below its first entry or below the others. -/
theorem filesBelow_entry (name : Text) (node : FileNode) (rest : List (Text × FileNode)) :
    filesBelow (directory ((name, node) :: rest))
      = (filesBelow node).map (name :: ·) ++ filesBelow (directory rest) := by
  rw [filesBelow, filesAmong, filesBelow]

/-- Behind a directory a row of names begins with one of its keys. -/
theorem exists_cons_of_at?_directory {entries : List (Text × FileNode)} {content : ByteArray}
    (h : (directory entries).at? names = some (file content)) :
    ∃ first more, names = first :: more ∧ first ∈ Keyed.keys entries := by
  cases names with
  | nil =>
    rw [at?_nil] at h
    cases h
  | cons first more =>
    rw [at?_directory_cons] at h
    obtain ⟨child, hchild, -⟩ := Option.bind_eq_some_iff.mp h
    have hkey : Keyed.get? first entries ≠ none := by
      rw [← child?, hchild]
      exact Option.some_ne_none child
    exact ⟨first, more, rfl, Decidable.not_not.mp (mt Keyed.get?_eq_none_iff.mpr hkey)⟩

/-- **The files below a node**, `filesBelow`, are the rows of names that lead from it to a file. -/
theorem mem_filesBelow_iff (h : node.WellFormed) :
    names ∈ node.filesBelow ↔ ∃ content, node.at? names = some (file content) := by
  induction h generalizing names with
  | file content =>
    rw [filesBelow, List.mem_singleton]
    cases names with
    | nil => simp [at?_nil]
    | cons first more => simp [at?_file_cons]
  | empty =>
    rw [filesBelow, filesAmong]
    refine iff_of_false List.not_mem_nil fun hleads => ?_
    obtain ⟨content, hat⟩ := hleads
    obtain ⟨first, more, -, hkey⟩ := exists_cons_of_at?_directory hat
    exact List.not_mem_nil hkey
  | @entry name node rest _ new _ _ ihInside ihOthers =>
    rw [filesBelow_entry, List.mem_append, ihOthers, List.mem_map]
    constructor
    · intro hlisted
      rcases hlisted with ⟨more, hmore, rfl⟩ | ⟨content, hat⟩
      · obtain ⟨content, hat⟩ := ihInside.mp hmore
        exact ⟨content, by rw [at?_entry_cons, if_pos rfl, hat]⟩
      · obtain ⟨first, more, rfl, hkey⟩ := exists_cons_of_at?_directory hat
        have hne : name ≠ first := fun heq => new (heq ▸ hkey)
        exact ⟨content, by rw [at?_entry_cons, if_neg hne, hat]⟩
    · intro hleads
      obtain ⟨content, hat⟩ := hleads
      obtain ⟨first, more, rfl, -⟩ := exists_cons_of_at?_directory hat
      rw [at?_entry_cons] at hat
      split at hat
      next heq => exact Or.inl ⟨more, ihInside.mpr ⟨content, hat⟩, by rw [heq]⟩
      next => exact Or.inr ⟨content, hat⟩

/-- No file is twice in `filesBelow` a node. -/
theorem nodup_filesBelow (h : node.WellFormed) : node.filesBelow.Nodup := by
  induction h with
  | file content => exact List.nodup_singleton []
  | empty => exact List.nodup_nil
  | @entry name node rest _ new _ others ihInside ihOthers =>
    have hinjective : Function.Injective (name :: ·) := fun _ _ heq => (List.cons.inj heq).2
    rw [filesBelow_entry]
    refine (List.Nodup.map hinjective ihInside).append ihOthers fun names hfirst hother => ?_
    -- What lies behind the first entry begins with its name, and no other entry has it.
    obtain ⟨more, -, rfl⟩ := List.mem_map.mp hfirst
    obtain ⟨content, hat⟩ := (mem_filesBelow_iff others).mp hother
    obtain ⟨first, _, hnames, hkey⟩ := exists_cons_of_at?_directory hat
    obtain ⟨rfl, -⟩ := List.cons.inj hnames
    exact new hkey

/-- In a `WellFormed` node a row that leads to something is made of names. -/
theorem WellFormed.isName_of_at? {other : FileNode} :
    ∀ {names : List Text} {node : FileNode}, node.WellFormed → node.at? names = some other →
      ∀ name ∈ names, Path.IsName name
  | [], _, _, _ => fun _ hname => absurd hname List.not_mem_nil
  | first :: rest, .file content, _, hat => by
    rw [at?_file_cons] at hat
    cases hat
  | first :: rest, .directory entries, h, hat => by
    rw [at?_directory_cons] at hat
    obtain ⟨child, hchild, hrest⟩ := Option.bind_eq_some_iff.mp hat
    obtain ⟨hfirst, hinside⟩ := h.of_mem ((Keyed.get?_eq_some_iff h.nodup_keys).mp hchild)
    intro name hname
    rcases List.mem_cons.mp hname with rfl | hmore
    · exact hfirst
    · exact isName_of_at? hinside hrest name hmore

end FileNode

/-! ## Names behind a path -/

namespace Path

variable {dir : Path} {name : Text}

/-- The path `dir` with a row of `names` behind it, put there one by one by `join`. -/
def follow (dir : Path) (names : List Text) : Path :=
  names.foldl (fun path name => path.join ⟨name⟩) dir

/-- The text begins with no slash if it `IsName`. -/
theorem IsName.not_isAbsolute (h : IsName name) : ¬ isAbsolute ⟨name⟩ := by
  cases name with
  | nil => decide
  | cons c rest =>
    intro habsolute
    have hslash : c = '/' := Option.some.inj (eq_of_beq habsolute)
    exact h.no_slash (hslash ▸ List.mem_cons_self)

/-- Where `join` adds a name to a path, this is written behind it, with a slash in between unless
there is one. -/
theorem written_join (hwritten : dir.written ≠ []) (hname : IsName name) :
    ∃ front, (dir.written = front ∨ dir.written = front ++ ['/']) ∧
      (dir.join ⟨name⟩).written = front ++ '/' :: name := by
  unfold join
  rw [if_neg hname.not_isAbsolute]
  split
  next hslash =>
    have hlast := hslash.resolve_left hwritten
    obtain ⟨front, hfront⟩ := List.getLast?_eq_some_iff.mp hlast
    exact ⟨front, Or.inr hfront, by simp [hfront]⟩
  next => exact ⟨dir.written, Or.inl rfl, by simp⟩

theorem written_join_ne_nil (hwritten : dir.written ≠ []) (hname : IsName name) :
    (dir.join ⟨name⟩).written ≠ [] := by
  obtain ⟨front, -, hjoin⟩ := written_join hwritten hname
  rw [hjoin]
  exact List.append_ne_nil_of_right_ne_nil _ (List.cons_ne_nil _ _)

/-- A name that `join` adds behind a path leaves it beginning where it did. -/
theorem isAbsolute_join (hwritten : dir.written ≠ []) (hname : IsName name) :
    (dir.join ⟨name⟩).isAbsolute = dir.isAbsolute := by
  obtain ⟨front, hdir, hjoin⟩ := written_join hwritten hname
  unfold isAbsolute
  rw [hjoin]
  rcases hdir with hdir | hdir <;> rw [hdir] <;> cases front <;> simp_all

/-- The last of the `segments` of a path that goes on by a name is the name; what there was before
it is what the path had, except for an empty segment `behind` a slash at its end. -/
theorem segments_join (hwritten : dir.written ≠ []) (hname : IsName name) :
    ∃ first rest behind, (behind = [] ∨ behind = [[]]) ∧
      segments dir.written = first :: (rest ++ behind) ∧
      segments (dir.join ⟨name⟩).written = first :: (rest ++ [name]) := by
  obtain ⟨front, hdir, hjoin⟩ := written_join hwritten hname
  obtain ⟨first, rest, hfront⟩ := List.exists_cons_of_ne_nil (segments_ne_nil front)
  have hbehind : segments (dir.join ⟨name⟩).written = first :: (rest ++ [name]) := by
    rw [hjoin, segments_append_slash, segments_of_no_slash hname.no_slash, hfront,
      List.cons_append]
  rcases hdir with hdir | hdir
  · exact ⟨first, rest, [], Or.inl rfl, by rw [hdir, hfront, List.append_nil], hbehind⟩
  · refine ⟨first, rest, [[]], Or.inr rfl, ?_, hbehind⟩
    rw [hdir, segments_append_slash, hfront, List.cons_append]
    rfl

/-- The `components` of a path that goes on by a name are those of the path, and the name. -/
theorem components_join (hwritten : dir.written ≠ []) (hname : IsName name) :
    (dir.join ⟨name⟩).components = dir.components ++ [.name name] := by
  obtain ⟨first, rest, behind, hbehind, hdir, hjoin⟩ := segments_join hwritten hname
  have hsilent : behind.filterMap component? = [] := by
    rcases hbehind with rfl | rfl <;> rfl
  have hsaid : [name].filterMap component? = [.name name] := by
    rw [List.filterMap_cons_some hname.component?_eq, List.filterMap_nil]
  unfold components
  rw [hdir, hjoin, isAbsolute_join hwritten hname]
  dsimp only
  rw [List.filterMap_append, List.filterMap_append, hsilent, hsaid, List.append_nil,
    List.append_assoc]

/-- **A row of names behind a path** is said behind what the path says, in its `components`. -/
theorem components_follow :
    ∀ {names : List Text} {dir : Path}, dir.written ≠ [] → (∀ name ∈ names, IsName name) →
      (dir.follow names).components = dir.components ++ names.map .name
  | [], dir, _, _ => by rw [List.map_nil, List.append_nil]; rfl
  | name :: rest, dir, hwritten, hnames => by
    have hname := hnames name List.mem_cons_self
    have hrest := components_follow (written_join_ne_nil hwritten hname)
      fun other hother => hnames other (List.mem_cons_of_mem _ hother)
    show ((dir.join ⟨name⟩).follow rest).components = _
    rw [hrest, components_join hwritten hname, List.append_assoc, List.map_cons]
    rfl

/-- Rows of names behind one path are told by the `components` of the paths. -/
theorem eq_of_components_follow_eq (hwritten : dir.written ≠ []) {a b : List Text}
    (ha : ∀ name ∈ a, IsName name) (hb : ∀ name ∈ b, IsName name)
    (h : (dir.follow a).components = (dir.follow b).components) : a = b := by
  rw [components_follow hwritten ha, components_follow hwritten hb] at h
  exact (List.map_inj_right fun _ _ => Component.name.inj).mp (List.append_cancel_left h)

/-- The `fileName?` of the path that goes on by a row of names is the last of them. -/
theorem fileName?_follow {names : List Text} (hwritten : dir.written ≠ [])
    (hnames : ∀ other ∈ names ++ [name], IsName other) :
    (dir.follow (names ++ [name])).fileName? = some name := by
  unfold fileName?
  rw [components_follow hwritten hnames, List.map_append, List.map_singleton,
    ← List.append_assoc, List.getLast?_concat]

end Path

namespace FileTree

/-- What a row of `names` leads to, from where a `path` leads. -/
def behind? (tree : FileTree) (path : Path) (names : List Text) : Option FileNode :=
  (tree.node? path).bind fun node => node.at? names

variable {tree : FileTree} {dir : Path} {name : Text}

/-- What `behind?` finds is in the tree, and there is a node to begin with. -/
theorem exists_of_behind? {names : List Text} {other : FileNode}
    (h : tree.root.WellFormed) (hbehind : tree.behind? dir names = some other) :
    ∃ node, tree.node? dir = some node ∧ node.WellFormed ∧ node.at? names = some other := by
  obtain ⟨node, hnode, hat⟩ := Option.bind_eq_some_iff.mp hbehind
  obtain ⟨place, -, hplace⟩ := Option.bind_eq_some_iff.mp hnode
  exact ⟨node, hnode, h.at? hplace, hat⟩

/-- A segment behind an empty one leads where it would lead without it. -/
theorem step?_nil_bind (place : List Text) (segment : Text) :
    ((tree.step? place []).bind fun here => tree.step? here segment)
      = tree.step? place segment := by
  unfold step?
  simp only [Option.bind_eq_bind, true_or, if_true]
  cases hnode : tree.root.at? place with
  | none => rfl
  | some node =>
    cases hentries : node.entries? with
    | none => simp [hentries]
    | some entries => simp [hentries, hnode]

/-- By `locate?` a path that goes on by a name leads one `step?` further, whether or not there is a
slash at its end already. -/
theorem locate?_join (hwritten : dir.written ≠ []) (hname : Path.IsName name) :
    tree.locate? (dir.join ⟨name⟩)
      = (tree.locate? dir).bind fun place => tree.step? place name := by
  obtain ⟨first, rest, behind, hbehind, hdir, hjoin⟩ := Path.segments_join hwritten hname
  have hstep : ∀ place, [name].foldlM tree.step? place
      = (behind.foldlM tree.step? place).bind fun here => tree.step? here name := by
    intro place
    rw [List.foldlM_cons]
    rcases hbehind with rfl | rfl
    · exact Option.bind_fun_some _
    · rw [List.foldlM_cons]
      simp only [List.foldlM_nil, Option.pure_def, Option.bind_eq_bind, Option.bind_fun_some,
        step?_nil_bind]
  have hlast : ∀ (front start : List Text), (front ++ [name]).foldlM tree.step? start
      = ((front ++ behind).foldlM tree.step? start).bind fun here => tree.step? here name := by
    intro front start
    rw [List.foldlM_append, List.foldlM_append]
    exact (Option.bind_congr fun place _ => hstep place).trans (Option.bind_assoc ..).symm
  unfold locate?
  rw [if_neg hwritten, if_neg (Path.written_join_ne_nil hwritten hname),
    Path.isAbsolute_join hwritten hname, hdir, hjoin]
  split
  next => exact hlast rest []
  next => exact hlast (first :: rest) tree.workingDirectory

/-- **A row of names behind a path** leads by `node?` where the names lead from where the path
leads, which is `behind?`. -/
theorem node?_follow :
    ∀ {names : List Text} {dir : Path}, dir.written ≠ [] → (∀ name ∈ names, Path.IsName name) →
      tree.node? (dir.follow names) = tree.behind? dir names
  | [], dir, _, _ => by
    unfold behind?
    simp only [FileNode.at?_nil, Option.bind_fun_some]
    rfl
  | name :: rest, dir, hwritten, hnames => by
    have hname := hnames name List.mem_cons_self
    have hrest := node?_follow (Path.written_join_ne_nil hwritten hname)
      fun other hother => hnames other (List.mem_cons_of_mem _ hother)
    show tree.node? ((dir.join ⟨name⟩).follow rest) = _
    unfold behind? at hrest ⊢
    rw [hrest, node?_of_locate?_eq hname (locate?_join hwritten hname), Option.bind_assoc,
      Option.bind_assoc]
    refine Option.bind_congr fun node _ => ?_
    cases node with
    | file content => rw [FileNode.at?_file_cons]; rfl
    | directory entries => rw [FileNode.at?_directory_cons]; rfl

/-- A path that leads to a directory is not empty. -/
theorem written_ne_nil_of_isDirectory (h : tree.isDirectory dir) : dir.written ≠ [] := by
  intro hwritten
  have hnowhere : tree.node? dir = none := by
    unfold node? locate?
    rw [if_pos hwritten, Option.bind_none]
  unfold isDirectory at h
  rw [hnowhere] at h
  cases h

/-- **The files below a directory**, as paths in `filesBelow`, are those that `follow` makes of the
rows of names that lead from it to a file. -/
theorem mem_filesBelow_iff (h : tree.root.WellFormed) {path : Path} :
    path ∈ tree.filesBelow dir ↔ ∃ names content,
      tree.behind? dir names = some (.file content) ∧ dir.follow names = path := by
  unfold filesBelow behind?
  rw [List.mem_map]
  constructor
  · intro hlisted
    obtain ⟨names, hnames, hpath⟩ := hlisted
    cases hnode : tree.node? dir with
    | none =>
      rw [hnode] at hnames
      exact absurd hnames List.not_mem_nil
    | some node =>
      rw [hnode] at hnames
      obtain ⟨place, -, hat⟩ := Option.bind_eq_some_iff.mp hnode
      obtain ⟨content, hleads⟩ := (FileNode.mem_filesBelow_iff (h.at? hat)).mp hnames
      exact ⟨names, content, hleads, hpath⟩
  · intro hleads
    obtain ⟨names, content, hbehind, hpath⟩ := hleads
    obtain ⟨node, hnode, hwell, hat⟩ := exists_of_behind? h hbehind
    rw [hnode]
    exact ⟨names, (FileNode.mem_filesBelow_iff hwell).mpr ⟨content, hat⟩, hpath⟩

/-- No path is twice in `filesBelow` a directory. -/
theorem nodup_filesBelow (h : tree.root.WellFormed) (hwritten : dir.written ≠ []) :
    (tree.filesBelow dir).Nodup := by
  unfold filesBelow
  cases hnode : tree.node? dir with
  | none => exact List.nodup_nil
  | some node =>
    obtain ⟨place, -, hplace⟩ := Option.bind_eq_some_iff.mp hnode
    have hnames : ∀ names ∈ node.filesBelow, ∀ name ∈ names, Path.IsName name := by
      intro names hlisted
      obtain ⟨content, hat⟩ := (FileNode.mem_filesBelow_iff (h.at? hplace)).mp hlisted
      exact (h.at? hplace).isName_of_at? hat
    refine List.Nodup.map_on (fun a ha b hb heq => ?_) (FileNode.nodup_filesBelow (h.at? hplace))
    exact Path.eq_of_components_follow_eq hwritten (hnames a ha) (hnames b hb) (congrArg _ heq)

end FileTree

end Stencil
