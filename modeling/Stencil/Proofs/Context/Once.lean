import Stencil.Proofs.Context.History

/-!
# Data files are merged once

A data file has many names: it may be named from the root, or below any of the search
paths, and with detours. A context notes the straight path of every file that it merges,
and asks for that path before it merges another, so however the files are named and
whatever is done in between, no file is merged twice.

Neither what is noted nor the search paths are ever taken back. So a name that leads to
a file goes on leading to this file, also when directories are added that have a file of
the same name, and a name that has been loaded once can be loaded again and again to no
effect.

Theorems:
- `turns_kept`: a run of actions only adds to what is noted and to the search paths.
- `turns_noted`: what is noted are the straight paths of the files that were merged.
- `searchPaths_of_turns`: the search paths are the directories that were added, each as
  often as the first time.
- `perform_merges_once`: all this of every run that begins with an empty context.
-/

namespace Stencil

/-! ## Paths that say the same -/

namespace Path

theorem same_refl (path : Path) : same path path :=
  beq_self_eq_true path.components

/-- Whether two paths are the `same` does not depend on which of them comes first. -/
theorem same_comm (a b : Path) : same a b = same b a :=
  Bool.beq_comm

end Path

/-- Files that paths lead to by the same place of `locate?` have one `canonical` path. -/
theorem FileTree.canonical_eq_of_locate?_eq {tree : FileTree} {file other : Path}
    (hfile : tree.isFile file) (h : tree.locate? file = tree.locate? other) :
    tree.canonical file = tree.canonical other := by
  cases hplace : tree.locate? file with
  | none =>
    -- A path that leads nowhere leads to no file.
    unfold isFile node? at hfile
    rw [hplace] at hfile
    exact absurd hfile Bool.false_ne_true
  | some place =>
    unfold canonical
    rw [← h, hplace]

namespace Context

variable {tree : FileTree} {action : Action} {actions : List Action}
  {before middle after : Context} {answer : Except Error Unit}
  {answers : List (Except Error Unit)} {file : Option Path} {files : List Path}

/-! ## What is never taken back -/

/-- Nothing that was noted as `loaded` and none of the `searchPaths` has been taken back. -/
structure Kept (before after : Context) : Prop where
  loaded : before.loaded <+: after.loaded
  searchPaths : before.searchPaths <+: after.searchPaths

theorem Kept.refl (context : Context) : Kept context context :=
  ⟨List.prefix_refl _, List.prefix_refl _⟩

theorem Kept.trans (first : Kept before middle) (second : Kept middle after) :
    Kept before after :=
  ⟨first.loaded.trans second.loaded, first.searchPaths.trans second.searchPaths⟩

/-- A file that `isLoaded` stays so where the context is `Kept`. -/
theorem Kept.isLoaded (h : Kept before after) {path : Path} (hloaded : before.isLoaded tree path) :
    after.isLoaded tree path := by
  obtain ⟨noted, hmem, hsame⟩ := List.any_eq_true.mp hloaded
  exact List.any_eq_true.mpr ⟨noted, h.loaded.subset hmem, hsame⟩

/-- A name that `resolve?` leads to a file goes on leading to it where the context is `Kept`. -/
theorem Kept.resolve? (h : Kept before after) {name : Text} {path : Path}
    (hfound : before.resolve? tree name = some path) : after.resolve? tree name = some path := by
  obtain ⟨added, hadded⟩ := h.searchPaths
  unfold Context.resolve? at hfound ⊢
  dsimp only at hfound ⊢
  split
  next habsolute =>
    rw [if_pos habsolute] at hfound
    exact hfound
  next hrelative =>
    -- The first file is found below the search paths that were there before.
    rw [if_neg hrelative] at hfound
    rw [← hadded, List.map_append, List.find?_append, hfound]
    rfl

/-- A `Turn` takes nothing back: the context is `Kept`. -/
theorem Turn.kept (h : Turn tree action before answer file after) : Kept before after := by
  cases h with
  | added new => exact ⟨List.prefix_refl _, List.prefix_append _ _⟩
  | merged found new read => exact ⟨List.prefix_append _ _, List.prefix_refl _⟩
  | _ => exact ⟨List.prefix_refl _, List.prefix_refl _⟩

/-- A run of `Turns` takes nothing back. -/
theorem turns_kept (h : Turns tree actions before answers files after) : Kept before after :=
  h.preserves (fun turn hkept => hkept.trans turn.kept) (.refl before)

/-- What `perform` does takes nothing back. -/
theorem kept_perform (tree : FileTree) (actions : List Action) (context : Context) :
    Kept context (perform tree actions context).2 := by
  obtain ⟨files, hturns⟩ := turns_iff.mpr (Eq.refl (perform tree actions context))
  exact turns_kept hturns

/-! ## Loading again -/

/-- The name leads to a file that `isLoaded`. -/
def Settled (tree : FileTree) (name : Text) (context : Context) : Prop :=
  ∃ path, context.resolve? tree name = some path ∧ context.isLoaded tree path

/-- A name for which `load` has been answered `.ok` is `Settled`. -/
theorem Turn.settled {name : Text} (h : Turn tree (.load name) before (.ok ()) file after) :
    Settled tree name after := by
  cases h with
  | @merged _ path _ _ found new read =>
    refine ⟨path, found, List.any_eq_true.mpr ⟨tree.canonical path, ?_, Path.same_refl _⟩⟩
    exact List.mem_append_right _ List.mem_cons_self
  | passedOver found loaded => exact ⟨_, found, loaded⟩

/-- A name that is `Settled` stays so where the context is `Kept`. -/
theorem Settled.of_kept {name : Text} (h : Settled tree name before) (hkept : Kept before after) :
    Settled tree name after := by
  obtain ⟨path, hfound, hloaded⟩ := h
  exact ⟨path, hkept.resolve? hfound, hkept.isLoaded hloaded⟩

/-- To `load` a name that is `Settled` changes nothing. -/
theorem Settled.act_load {name : Text} {context : Context} (h : Settled tree name context) :
    act tree (.load name) context = (.ok (), context) := by
  obtain ⟨path, hfound, hloaded⟩ := h
  exact act_of_turn (.passedOver hfound hloaded)

/-! ## What is noted -/

/-- The `files` that were merged are noted as `loaded` by their `canonical` paths, each of them
once. -/
structure Noted (tree : FileTree) (files : List Path) (context : Context) : Prop where
  isFile : ∀ file ∈ files, tree.isFile file
  loaded_eq : context.loaded = files.map tree.canonical
  apart : files.Pairwise fun file other =>
    ¬ Path.same (tree.canonical file) (tree.canonical other)

/-- Files that are `Noted` stand at different places of `locate?`. -/
theorem Noted.locate?_ne {context : Context} (h : Noted tree files context) :
    files.Pairwise fun file other => tree.locate? file ≠ tree.locate? other := by
  refine h.apart.imp_of_mem fun {file other} hfile _ happart hplace => happart ?_
  rw [FileTree.canonical_eq_of_locate?_eq (h.isFile file hfile) hplace]
  exact Path.same_refl _

/-- A file `isLoaded` if one of those that are `Noted` has its `canonical` path. -/
theorem Noted.isLoaded_iff {context : Context} (h : Noted tree files context) (path : Path) :
    context.isLoaded tree path ↔
      ∃ file ∈ files, Path.same (tree.canonical path) (tree.canonical file) := by
  unfold isLoaded
  rw [h.loaded_eq, List.any_map, List.any_eq_true]
  rfl

/-- By `resolve?` a name leads to a file or nowhere. -/
theorem isFile_of_resolve? {name : Text} {path : Path}
    (h : before.resolve? tree name = some path) : tree.isFile path := by
  unfold Context.resolve? at h
  dsimp only at h
  split at h
  next =>
    split at h
    next hfile =>
      cases h
      exact hfile
    next => cases h
  next => exact List.find?_some h

/-- The `file` that a `Turn` merges is `Noted` behind the others. -/
theorem Turn.noted (h : Turn tree action before answer file after)
    (hnoted : Noted tree files before) : Noted tree (files ++ file.toList) after := by
  cases h with
  | @merged _ path _ _ found new read =>
    have hapart : ∀ merged ∈ files,
        ¬ Path.same (tree.canonical merged) (tree.canonical path) := by
      intro merged hmerged hsame
      rw [Path.same_comm] at hsame
      exact new ((hnoted.isLoaded_iff path).mpr ⟨merged, hmerged, hsame⟩)
    refine ⟨?_, ?_, ?_⟩
    · intro merged hmerged
      rcases List.mem_append.mp hmerged with hfile | hpath
      · exact hnoted.isFile merged hfile
      · rw [List.mem_singleton.mp hpath]
        exact isFile_of_resolve? found
    · show before.loaded ++ [tree.canonical path] = _
      rw [hnoted.loaded_eq, List.map_append]
      rfl
    · refine List.pairwise_append.mpr ⟨hnoted.apart, List.pairwise_singleton _ _, ?_⟩
      intro merged hmerged other hother
      rw [List.mem_singleton.mp hother]
      exact hapart merged hmerged
  | _ =>
    rw [Option.toList_none, List.append_nil]
    exact ⟨hnoted.isFile, hnoted.loaded_eq, hnoted.apart⟩

/-- The `files` that a run of `Turns` merges are `Noted` behind those that were `seen`. -/
theorem turns_noted {seen : List Path} (h : Turns tree actions before answers files after)
    (hnoted : Noted tree seen before) : Noted tree (seen ++ files) after := by
  induction h generalizing seen with
  | nil context =>
    rw [List.append_nil]
    exact hnoted
  | cons first _ ih =>
    rw [← List.append_assoc]
    exact ih (first.noted hnoted)

/-! ## The search paths -/

/-- The directory that an action adds, if it is an `.addPath`. -/
def Action.addedPath? : Action → Option Path
  | .addPath path => some path
  | _ => none

/-- The directories that a run of actions adds, in order, each an `addedPath?`. -/
def addedPaths (actions : List Action) : List Path :=
  actions.filterMap Action.addedPath?

/-- A `Turn` puts the directory that its action adds behind the `searchPaths`, if it is the first of
its kind; this is one step of the loop of `eraseDupsBy`. -/
theorem Turn.eraseDups_loop (h : Turn tree action before answer file after)
    (others : List Path) :
    List.eraseDupsBy.loop Path.same (action.addedPath?.toList ++ others) before.searchPaths.reverse
      = List.eraseDupsBy.loop Path.same others after.searchPaths.reverse := by
  cases h with
  | @added path _ new =>
    have hnone : before.searchPaths.reverse.any (Path.same path) = false := by
      rw [List.any_reverse]
      exact List.any_eq_false.mpr new
    show List.eraseDupsBy.loop Path.same (path :: others) _ = _
    rw [List.eraseDupsBy.loop, hnone, List.reverse_append]
    rfl
  | @known path known _ mem same =>
    have hsome : before.searchPaths.reverse.any (Path.same path) = true := by
      rw [List.any_reverse]
      exact List.any_eq_true.mpr ⟨known, mem, same⟩
    show List.eraseDupsBy.loop Path.same (path :: others) _ = _
    rw [List.eraseDupsBy.loop, hsome]
  | _ => rfl

/-- The `searchPaths` are those that were there and the `addedPaths` behind them, each of them the
first of its kind. -/
theorem searchPaths_of_turns (h : Turns tree actions before answers files after) :
    after.searchPaths
      = List.eraseDupsBy.loop Path.same (addedPaths actions) before.searchPaths.reverse := by
  induction h with
  | nil context => exact (List.reverse_reverse _).symm
  | @cons action actions _ _ _ _ _ _ _ first _ ih =>
    have hadded : addedPaths (action :: actions)
        = action.addedPath?.toList ++ addedPaths actions := by
      cases action <;> rfl
    rw [ih, hadded, first.eraseDups_loop]

/-- A `Turn` does not make `searchPaths` the `same` that were not. -/
theorem Turn.searchPaths_apart (h : Turn tree action before answer file after)
    (hapart : before.searchPaths.Pairwise fun dir other => ¬ Path.same dir other) :
    after.searchPaths.Pairwise fun dir other => ¬ Path.same dir other := by
  cases h with
  | @added path _ new =>
    refine List.pairwise_append.mpr ⟨hapart, List.pairwise_singleton _ _, ?_⟩
    intro dir hdir other hother hsame
    rw [List.mem_singleton.mp hother, Path.same_comm] at hsame
    exact new dir hdir hsame
  | _ => exact hapart

/-- A run of `Turns` does not make `searchPaths` the `same` that were not. -/
theorem searchPaths_apart_of_turns (h : Turns tree actions before answers files after)
    (hapart : before.searchPaths.Pairwise fun dir other => ¬ Path.same dir other) :
    after.searchPaths.Pairwise fun dir other => ¬ Path.same dir other :=
  h.preserves Turn.searchPaths_apart hapart

/-! ## Runs from the beginning -/

/-- What a run of `actions` that begins with an empty context comes to: the `files` that it merges
are `Noted` once, and its `searchPaths` are the `addedPaths`, in the order in which each of them is
added first. -/
structure MergedOnce (tree : FileTree) (actions : List Action) (files : List Path)
    (context : Context) : Prop extends Noted tree files context where
  /-- No file is merged twice, as no two of the `files` stand at one place of `locate?`. -/
  locate?_ne : files.Pairwise fun file other => tree.locate? file ≠ tree.locate? other
  isLoaded_iff : ∀ path, context.isLoaded tree path ↔
    ∃ file ∈ files, Path.same (tree.canonical path) (tree.canonical file)
  searchPaths_eq : context.searchPaths = (addedPaths actions).eraseDupsBy Path.same
  searchPaths_apart : context.searchPaths.Pairwise fun dir other => ¬ Path.same dir other

/-- What is so of the context `before` is so of the one `after`: what is `Kept`, what `isLoaded`,
and what names lead to by `resolve?`. -/
structure Remembered (tree : FileTree) (before after : Context) : Prop
    extends Kept before after where
  isLoaded : ∀ path, before.isLoaded tree path → after.isLoaded tree path
  resolve? : ∀ name path,
    before.resolve? tree name = some path → after.resolve? tree name = some path

/-- What is `Kept` is `Remembered`. -/
theorem Kept.remembered (tree : FileTree) (h : Kept before after) : Remembered tree before after :=
  { h with
    isLoaded := fun _ => h.isLoaded
    resolve? := fun _ _ => h.resolve? }

/-- **Data files are merged once**, over any tree of files and in any run of `actions` that begins
with an empty context. The context is `MergedOnce`: the files that are merged are all different,
whatever they are named, what is noted are their `canonical` paths and nothing else, and search
paths stand in the order in which they were added first, no two of them equal. Whatever is done
`later`, all this is `Remembered`. So a name for which `load` has been answered `.ok` once can be
loaded at any time later: this succeeds and leaves the context exactly as it is. -/
theorem perform_merges_once (tree : FileTree) (actions : List Action) :
    ∃ answers files context, perform tree actions {} = (answers, context) ∧
      Turns tree actions {} answers files context ∧ MergedOnce tree actions files context ∧
      (∀ later : List Action, Remembered tree context (perform tree later context).2) ∧
      ∀ (name : Text) (after : Context), act tree (.load name) context = (.ok (), after) →
        ∀ later : List Action,
          act tree (.load name) (perform tree later after).2
            = (.ok (), (perform tree later after).2) := by
  obtain ⟨files, hturns⟩ := turns_iff.mpr (Eq.refl (perform tree actions {}))
  have hempty : Noted tree [] {} :=
    ⟨fun file hfile => absurd hfile List.not_mem_nil, rfl, List.Pairwise.nil⟩
  have hnoted : Noted tree files (perform tree actions {}).2 := turns_noted hturns hempty
  refine ⟨_, files, _, rfl, hturns, ⟨hnoted, hnoted.locate?_ne, hnoted.isLoaded_iff,
    searchPaths_of_turns hturns, searchPaths_apart_of_turns hturns List.Pairwise.nil⟩, ?_, ?_⟩
  · intro later
    exact (kept_perform tree later _).remembered tree
  · intro name after hload later
    obtain ⟨file, hturn⟩ := turn_iff.mpr hload
    have hsettled : Settled tree name after := hturn.settled
    exact (hsettled.of_kept (kept_perform tree later after)).act_load

/-- A file that is named with a detour, then by its name alone, and again when another
directory with a file of this name has been added and that file has been merged, too. -/
theorem perform_merges_once_renamed :
    let file : FileNode := .file "k: v".toUTF8
    let tree : FileTree :=
      { root := .directory
          [(['a'], .directory [(['f'], file)]), (['b'], .directory [(['f'], file)])] }
    let actions : List Action := [.load "/b/../a/./f".toList, .addPath ⟨"/a".toList⟩]
    let later : List Action :=
      [.addPath ⟨"/b".toList⟩, .load "/b/f".toList, .remove ['k'], .addPath ⟨"//a/".toList⟩]
    let context := (perform tree actions {}).2
    let last := (perform tree later context).2
    act tree (.load ['f']) context = (.ok (), context) ∧
      act tree (.load ['f']) last = (.ok (), last) ∧
      last.loaded = [⟨"/a/f".toList⟩, ⟨"/b/f".toList⟩] ∧
      last.searchPaths = [⟨"/a".toList⟩, ⟨"/b".toList⟩] ∧ last.values.keys = [] := by
  intro file tree actions later context last
  have hload : act tree (.load ['f']) context = (.ok (), context) := by
    have hfound : context.resolve? tree ['f'] = some ⟨"/a/f".toList⟩ := by decide +kernel
    have hloaded : context.isLoaded tree ⟨"/a/f".toList⟩ := by decide +kernel
    exact act_of_turn (.passedOver hfound hloaded)
  obtain ⟨_, _, _, hperform, -, -, -, hagain⟩ := perform_merges_once tree actions
  cases hperform
  refine ⟨hload, hagain ['f'] context hload later, ?_, ?_, ?_⟩
  · decide +kernel
  · decide +kernel
  · decide +kernel

end Context

end Stencil
