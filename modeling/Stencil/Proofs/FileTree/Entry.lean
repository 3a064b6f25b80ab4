import Stencil.Proofs.FileTree.Place
import Stencil.Proofs.Value.Level

/-!
# Entries of directories

In a file tree as there can be one, the entries of a directory have names that a path can
say, and no name stands there twice. So what a directory lists and what is found below it
are the same: a path that goes on behind the directory by a name leads to the entry of
that name, whatever the path to the directory looks like.

A name with an extension is a stem, a dot and the extension, put together again.

Theorems:
- `splitName_eq_iff`: which names have a stem and an extension.
- `node?_below`: a path that goes on by a name leads to the entry of that name.
- `isFile_below_iff`: the files below a directory are the files among its entries.
-/

namespace Stencil

/-- With distinct keys what `get?` finds under a key is what stands there. -/
theorem Keyed.get?_eq_some_iff {α : Type} {key : Text} {value : α} :
    ∀ {table : Keyed α}, table.keys.Nodup → (table.get? key = some value ↔ (key, value) ∈ table)
  | [], _ => by simp [get?]
  | (k, first) :: rest, h => by
    obtain ⟨hk, hrest⟩ := List.nodup_cons.mp h
    rw [get?, List.mem_cons, Prod.mk.injEq]
    split
    next heq =>
      -- The key does not stand among the others once more.
      subst heq
      have hnot : (k, value) ∉ rest := fun hmem => hk (List.mem_map.mpr ⟨_, hmem, rfl⟩)
      rw [or_iff_left hnot, Option.some.injEq]
      exact ⟨fun hvalue => ⟨rfl, hvalue.symm⟩, fun hvalue => hvalue.2.symm⟩
    next hne =>
      rw [get?_eq_some_iff hrest]
      exact ⟨Or.inr, fun hmem => hmem.resolve_left fun heq => hne heq.1.symm⟩

namespace Path

/-! ## Names with an extension -/

/-- A name has no dot, or a last one. -/
theorem exists_lastDot (name : Text) :
    '.' ∉ name ∨ ∃ front back, '.' ∉ back ∧ name = front ++ '.' :: back := by
  by_cases hdot : '.' ∈ name
  · obtain ⟨back, front, hsplit, hback⟩ :=
      List.eq_append_cons_of_mem (List.mem_reverse.mpr hdot)
    refine Or.inr ⟨front.reverse, back.reverse, mt List.mem_reverse.mp hback, ?_⟩
    rw [← List.reverse_reverse name, hsplit, List.reverse_append, List.reverse_cons,
      List.append_assoc, List.singleton_append]
  · exact Or.inl hdot

/-- To read a name from its end passes over what has no dot, the part `back`. -/
theorem takeWhile_reverse_append (front : Text) {back : Text} (h : '.' ∉ back) :
    (front ++ back).reverse.takeWhile (· ≠ '.')
      = back.reverse ++ front.reverse.takeWhile (· ≠ '.') := by
  rw [List.reverse_append, List.takeWhile_append_of_pos]
  intro c hc
  exact decide_eq_true fun heq => h (heq ▸ List.mem_reverse.mp hc)

/-- By `splitName` a name without a dot does not split. -/
theorem splitName_of_not_mem {name : Text} (h : '.' ∉ name) : splitName name = (name, none) := by
  have hextension : name.reverse.takeWhile (· ≠ '.') = name.reverse := by
    have hwhole := takeWhile_reverse_append [] h
    rwa [List.nil_append, List.reverse_nil, List.takeWhile_nil, List.append_nil] at hwhole
  unfold splitName
  dsimp only
  rw [hextension, List.reverse_reverse, if_pos (Or.inl rfl)]

/-- By `splitName` a name splits at its last dot, unless that dot comes first. -/
theorem splitName_append (front : Text) {back : Text} (h : '.' ∉ back) :
    splitName (front ++ '.' :: back)
      = if front = [] then (front ++ '.' :: back, none) else (front, some back) := by
  have hextension : (front ++ '.' :: back).reverse.takeWhile (· ≠ '.') = back.reverse := by
    rw [List.append_cons, takeWhile_reverse_append _ h, List.reverse_append,
      List.takeWhile_append, List.reverse_singleton]
    simp
  have hlength : (front ++ '.' :: back).length = front.length + back.length + 1 := by
    rw [List.length_append, List.length_cons, Nat.add_assoc]
  have hshorter : back.length ≠ front.length + back.length + 1 := by omega
  have hfront : front.length + back.length + 1 - back.length - 1 = front.length := by omega
  unfold splitName
  dsimp only
  rw [hextension, List.reverse_reverse, hlength, hfront, List.take_left]
  simp only [hshorter, false_or]

/-- **Which names have an extension** by `splitName`: those of a `stem` that is not empty, a dot,
and the `extension` without dots. -/
theorem splitName_eq_iff {name stem extension : Text} :
    splitName name = (stem, some extension) ↔
      stem ≠ [] ∧ '.' ∉ extension ∧ name = stem ++ '.' :: extension := by
  constructor
  · intro h
    rcases exists_lastDot name with hdot | ⟨front, back, hback, rfl⟩
    · rw [splitName_of_not_mem hdot] at h
      cases h
    · rw [splitName_append front hback] at h
      split at h
      next => cases h
      next hfront =>
        cases h
        exact ⟨hfront, hback, rfl⟩
  · rintro ⟨hstem, hdot, rfl⟩
    rw [splitName_append stem hdot, if_neg hstem]

/-! ## Paths that go on -/

/-- The path with one more `segment` behind it. -/
def below (path : Path) (segment : Text) : Path :=
  ⟨path.written ++ '/' :: segment⟩

/-- The beginning of a path decides whether it `isAbsolute`. -/
theorem isAbsolute_append {first : Text} (h : first ≠ []) (rest : Text) :
    isAbsolute ⟨first ++ rest⟩ = isAbsolute ⟨first⟩ := by
  obtain ⟨c, others, rfl⟩ := List.exists_cons_of_ne_nil h
  rfl

/-- By `join` a relative path is put behind a directory, so it may be put there piece by piece. -/
theorem join_append (dir : Path) {first : Text} (hfirst : first ≠ [])
    (hrelative : ¬ isAbsolute ⟨first⟩) (rest : Text) :
    dir.join ⟨first ++ rest⟩ = ⟨(dir.join ⟨first⟩).written ++ rest⟩ := by
  unfold join
  rw [isAbsolute_append hfirst, if_neg hrelative, if_neg hrelative]
  split
  next => rw [List.append_assoc]
  next => simp only [List.append_assoc]

end Path

/-! ## Trees as they are -/

/-- In every directory there are entries of names that a path can say (`IsName`), and of no name
two. -/
inductive FileNode.WellFormed : FileNode → Prop
  | file (content : ByteArray) : WellFormed (.file content)
  | empty : WellFormed (.directory [])
  | entry {name : Text} {node : FileNode} {rest : List (Text × FileNode)}
      (isName : Path.IsName name) (new : name ∉ Keyed.keys rest) (inside : WellFormed node)
      (others : WellFormed (.directory rest)) : WellFormed (.directory ((name, node) :: rest))

namespace FileNode.WellFormed

theorem nodup_keys : ∀ {entries : List (Text × FileNode)}, WellFormed (.directory entries) →
    (Keyed.keys entries).Nodup
  | [], _ => List.nodup_nil
  | _ :: _, .entry _ new _ others => List.nodup_cons.mpr ⟨new, nodup_keys others⟩

theorem of_mem : ∀ {entries : List (Text × FileNode)}, WellFormed (.directory entries) →
    ∀ {name : Text} {node : FileNode}, (name, node) ∈ entries → Path.IsName name ∧ node.WellFormed
  | [], _, _, _, hmem => nomatch hmem
  | _ :: _, .entry isName _ inside others, name, node, hmem => by
    rcases List.mem_cons.mp hmem with heq | hrest
    · cases heq
      exact ⟨isName, inside⟩
    · exact of_mem others hrest

end FileNode.WellFormed

/-- What `at?` finds in a `WellFormed` node is `WellFormed`. -/
theorem FileNode.WellFormed.at? :
    ∀ {names : List Text} {node other : FileNode}, node.WellFormed → node.at? names = some other →
      other.WellFormed
  | [], node, other, h, hat => by
    rw [at?_nil] at hat
    cases hat
    exact h
  | name :: rest, .file content, other, _, hat => by
    rw [at?_file_cons] at hat
    cases hat
  | name :: rest, .directory entries, other, h, hat => by
    rw [at?_directory_cons] at hat
    obtain ⟨child, hchild, hrest⟩ := Option.bind_eq_some_iff.mp hat
    have hmem := (Keyed.get?_eq_some_iff h.nodup_keys).mp hchild
    exact WellFormed.at? (h.of_mem hmem).2 hrest

namespace FileTree

variable {tree : FileTree} {path : Path} {name : Text}

/-- The `entries` of a directory of a `WellFormed` tree are those of a `WellFormed` directory. -/
theorem wellFormed_entries (h : tree.root.WellFormed) (path : Path) :
    FileNode.WellFormed (.directory (tree.entries path)) := by
  unfold entries
  cases hnode : tree.node? path with
  | none => exact .empty
  | some node =>
    obtain ⟨place, -, hat⟩ := Option.bind_eq_some_iff.mp hnode
    cases node with
    | file content => exact .empty
    | directory entries => exact h.at? hat

/-! ## One name further -/

/-- By `locate?` a path that goes on by a segment leads one `step?` further. -/
theorem locate?_below (hwritten : path.written ≠ []) (hslash : '/' ∉ name) :
    tree.locate? (path.below name)
      = (tree.locate? path).bind fun place => tree.step? place name := by
  have hnonempty : (path.below name).written ≠ [] :=
    List.append_ne_nil_of_left_ne_nil hwritten _
  have habsolute : (path.below name).isAbsolute = path.isAbsolute :=
    Path.isAbsolute_append hwritten _
  have hsegments : Path.segments (path.below name).written
      = Path.segments path.written ++ [name] := by
    rw [Path.below, Path.segments_append_slash, Path.segments_of_no_slash hslash]
  -- The last segment is stepped over behind all the others.
  have hlast : ∀ (segments : List Text) (start : List Text),
      (segments ++ [name]).foldlM tree.step? start
        = (segments.foldlM tree.step? start).bind fun place => tree.step? place name := by
    intro segments start
    rw [List.foldlM_append]
    refine Option.bind_congr fun place _ => ?_
    rw [List.foldlM_cons]
    exact Option.bind_fun_some _
  unfold locate?
  rw [if_neg hwritten, if_neg hnonempty, habsolute, hsegments]
  split
  next => rw [List.tail_append_of_ne_nil (Path.segments_ne_nil _), hlast]
  next => rw [hlast]

/-- By `step?` a name leads to the entry of that name. -/
theorem step?_of_isName (hname : Path.IsName name) (place : List Text) :
    tree.step? place name
      = (((tree.root.at? place).bind FileNode.entries?).bind (FileNode.child? name)).map
          fun _ => place ++ [name] := by
  have hcomponent := hname.component?_eq
  unfold Path.component? at hcomponent
  split at hcomponent
  next => cases hcomponent
  next hsaid =>
    split at hcomponent
    next => cases hcomponent
    next hup =>
      unfold step?
      simp only [if_neg hsaid, if_neg hup, Option.bind_eq_bind]
      cases (tree.root.at? place) with
      | none => rfl
      | some node =>
        rw [Option.bind_some, Option.bind_some]
        cases node.entries? with
        | none => rfl
        | some entries => rfl

/-- A path that leads one `step?` further than another, by a name, leads by `node?` to the entry of
that name of the directory that the other leads to. -/
theorem node?_of_locate?_eq {further : Path} (hname : Path.IsName name)
    (h : tree.locate? further = (tree.locate? path).bind fun place => tree.step? place name) :
    tree.node? further
      = ((tree.node? path).bind FileNode.entries?).bind (FileNode.child? name) := by
  unfold node?
  rw [h, Option.bind_assoc, Option.bind_assoc, Option.bind_assoc]
  refine Option.bind_congr fun place _ => ?_
  rw [step?_of_isName hname]
  cases hnode : tree.root.at? place with
  | none => rfl
  | some node =>
    cases node with
    | file content => rfl
    | directory entries =>
      show ((FileNode.child? name entries).map fun _ => place ++ [name]).bind tree.root.at?
        = FileNode.child? name entries
      have hat : tree.root.at? (place ++ [name]) = FileNode.child? name entries := by
        rw [FileNode.at?_append, hnode, Option.bind_some, FileNode.at?_directory_cons]
        simp only [FileNode.at?_nil, Option.bind_fun_some]
      cases hchild : FileNode.child? name entries with
      | none => rfl
      | some child => rw [Option.map_some, Option.bind_some, hat, hchild]

/-- **A path that goes on by a name** leads by `node?` to the entry of that name of the directory
that the path leads to. -/
theorem node?_below (hwritten : path.written ≠ []) (hname : Path.IsName name) :
    tree.node? (path.below name)
      = ((tree.node? path).bind FileNode.entries?).bind (FileNode.child? name) :=
  node?_of_locate?_eq hname (locate?_below hwritten hname.no_slash)

/-- **The files below a directory**, as `isFile` tells, are the files among its `entries`. -/
theorem isFile_below_iff (h : tree.root.WellFormed) (hwritten : path.written ≠ [])
    (hname : Path.IsName name) :
    tree.isFile (path.below name) ↔ ∃ content, (name, .file content) ∈ tree.entries path := by
  have hdistinct := (wellFormed_entries h path).nodup_keys
  unfold isFile
  rw [node?_below hwritten hname]
  unfold entries at hdistinct ⊢
  cases hdirectory : (tree.node? path).bind FileNode.entries? with
  | none => simp
  | some entries =>
    rw [hdirectory, Option.getD_some] at hdistinct
    rw [Option.bind_some, Option.getD_some]
    constructor
    · intro hfile
      split at hfile
      next content hchild => exact ⟨content, (Keyed.get?_eq_some_iff hdistinct).mp hchild⟩
      next => cases hfile
    · rintro ⟨content, hmem⟩
      rw [FileNode.child?, (Keyed.get?_eq_some_iff hdistinct).mpr hmem]

end FileTree

end Stencil
