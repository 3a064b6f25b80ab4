import Mathlib.Data.List.Forall2
import Stencil.Configuration
import Stencil.Proofs.Context.Failure
import Stencil.Proofs.Context.Write

/-!
# What a configuration comes to

A configuration names directories, data files and a locale. Its context searches the
directories in order, each where it is named first. Its values are what the data files
say, merged in order, each file once however often and by whatever names it is listed,
and then the strings of the locale in the place of all that the files say under their key.

What each name means depends on the directories alone, and not on what has been loaded
before it. So it is the first name that fails by itself that decides how a configuration
fails, whatever comes behind it, and the locale is asked for when all files are merged.

Theorems:
- `foldl_addPath`: the directories that are searched.
- `foldlM_load_of_means`, `foldlM_load_of_failing`: loading one file after the other.
- `context_eq_iff`: how a configuration comes out.
- `context_of_preload`: the context that it comes to, and the error that it fails with.
-/

namespace Stencil

/-! ## The first of each kind -/

section EraseDups

variable {α : Type} (same : α → α → Bool)

/-- The element `new` goes behind those `seen` unless there is one of its kind among them, the
`same`. -/
def insertNew (seen : List α) (new : α) : List α :=
  if seen.any (same new) then seen else seen ++ [new]

theorem eraseDupsBy_loop_eq_foldl (list seen : List α) :
    List.eraseDupsBy.loop same list seen.reverse = list.foldl (insertNew same) seen := by
  induction list generalizing seen with
  | nil => rw [List.eraseDupsBy.loop, List.reverse_reverse, List.foldl_nil]
  | cons new rest ih =>
    rw [List.eraseDupsBy.loop, List.any_reverse, List.foldl_cons, insertNew]
    cases seen.any (same new) with
    | true => exact ih seen
    | false =>
      show List.eraseDupsBy.loop same rest (new :: seen.reverse) = _
      rw [← List.reverse_concat, ih]
      rfl

/-- The first elements of each kind, `eraseDupsBy`, are found by going through all of them once with
`insertNew`. -/
theorem eraseDupsBy_eq_foldl (list : List α) :
    list.eraseDupsBy same = list.foldl (insertNew same) [] :=
  eraseDupsBy_loop_eq_foldl same list []

/-- With `insertNew` nothing is found but what is there. -/
theorem mem_of_mem_foldl_insertNew {other : α} :
    ∀ {list seen : List α}, other ∈ list.foldl (insertNew same) seen → other ∈ seen ∨ other ∈ list
  | [], _, h => Or.inl h
  | new :: rest, seen, h => by
    have hfound : other ∈ rest.foldl (insertNew same) (insertNew same seen new) := h
    rcases mem_of_mem_foldl_insertNew hfound with hseen | hrest
    · unfold insertNew at hseen
      split at hseen
      next => exact Or.inl hseen
      next =>
        rcases List.mem_append.mp hseen with hbefore | hnew
        · exact Or.inl hbefore
        · exact Or.inr (List.mem_singleton.mp hnew ▸ List.mem_cons_self)
    · exact Or.inr (List.mem_cons_of_mem _ hrest)

end EraseDups

namespace Configuration

open Context (FirstFile Acceptable Failing candidates localeFile languageKey readFields Intact)

/-! ## Directories -/

/-- The directories in which the files of a configuration are looked for: the `bundled` one if
`bundledData` is set, and the `dataPaths`, each where it comes first. -/
def searchPaths (bundled : Path) (configuration : Configuration) : List Path :=
  ((if configuration.bundledData then [bundled] else [])
    ++ configuration.dataPaths).eraseDupsBy Path.same

/-- To `addPath` directories one after the other is to add the first of each kind by `insertNew`. -/
theorem foldl_addPath (paths : List Path) (context : Context) :
    paths.foldl (fun context path => context.addPath path) context
      = { context with searchPaths := paths.foldl (insertNew Path.same) context.searchPaths } := by
  induction paths generalizing context with
  | nil => rfl
  | cons path rest ih =>
    rw [List.foldl_cons, List.foldl_cons, ih, Context.addPath, insertNew]
    split <;> rfl

/-! ## Data files -/

/-- The data file that a name means below directories, with what it says: the file is the `first` of
the `candidates` of the name, and `acceptable` with these fields. -/
structure Means (tree : FileTree) (dirs : List Path) (name : Text) (file : Path × Fields) :
    Prop where
  first : FirstFile tree (candidates name dirs) file.1
  acceptable : Acceptable tree file.1 file.2

/-- Two files are one: their `canonical` paths are the `same`. -/
def sameFile (tree : FileTree) (file other : Path × Fields) : Bool :=
  Path.same (tree.canonical file.1) (tree.canonical other.1)

/-- What files say, merged in order. -/
def mergeAll (files : List (Path × Fields)) : Fields :=
  files.foldl (fun values file => Fields.merge values file.2) []

/-- The context into which `files` have been merged, in order: `mergeAll` of them, with their
`canonical` paths noted. -/
def merged (tree : FileTree) (dirs : List Path) (files : List (Path × Fields)) : Context where
  values := mergeAll files
  searchPaths := dirs
  loaded := files.map fun file => tree.canonical file.1

variable {tree : FileTree} {dirs : List Path} {name : Text} {file : Path × Fields}
  {seen files : List (Path × Fields)} {error : Error}

/-- In a `merged` context a file `isLoaded` if it is the `sameFile` as one of those that were
merged. -/
theorem isLoaded_merged (file : Path × Fields) :
    (merged tree dirs seen).isLoaded tree file.1 = seen.any (sameFile tree file) := by
  show (seen.map fun file => tree.canonical file.1).any _ = _
  rw [List.any_map]
  rfl

/-- By `resolve?` a name leads to the file that it `Means`, whatever has been merged. -/
theorem Means.resolve?_merged (h : Means tree dirs name file) :
    (merged tree dirs seen).resolve? tree name = some file.1 :=
  Context.resolve?_eq_some_iff.mpr h.first

/-- A name that `Means` a file is loaded: the file is merged if it is the first of its kind, as
`insertNew` says. -/
theorem load_merged (h : Means tree dirs name file) :
    (merged tree dirs seen).load tree name
      = .ok (merged tree dirs (insertNew (sameFile tree) seen file)) := by
  have hfound : (merged tree dirs seen).resolve? tree name = some file.1 := h.resolve?_merged
  have hseen : (merged tree dirs seen).isLoaded tree file.1 = seen.any (sameFile tree file) :=
    isLoaded_merged file
  rw [insertNew, ← hseen]
  split
  next hloaded => exact Context.load_of_isLoaded hfound hloaded
  next hnew =>
    rw [Context.load_of_not_isLoaded hfound hnew, h.acceptable.readFields_eq]
    simp [Except.map, merged, mergeAll]

/-- Files that `names` mean are loaded behind those `seen`, each by `insertNew`. -/
theorem foldlM_load_merged {names : List Text} (h : List.Forall₂ (Means tree dirs) names files) :
    names.foldlM (fun context name => context.load tree name) (merged tree dirs seen)
      = .ok (merged tree dirs (files.foldl (insertNew (sameFile tree)) seen)) := by
  induction h generalizing seen with
  | nil => rfl
  | cons hfirst _ ih =>
    rw [List.foldlM_cons, load_merged hfirst]
    exact ih

/-- Files that `names` mean are loaded one after the other, each file once (`eraseDupsBy`). -/
theorem foldlM_load_of_means {names : List Text} (h : List.Forall₂ (Means tree dirs) names files) :
    names.foldlM (fun context name => context.load tree name) (merged tree dirs [])
      = .ok (merged tree dirs (files.eraseDupsBy (sameFile tree))) := by
  rw [foldlM_load_merged h, eraseDupsBy_eq_foldl]

/-- The strings of a locale whose `localeFile` is meant go to the `languageKey`. -/
theorem loadLocale_merged {locale : Text} (h : Means tree dirs (localeFile locale) file) :
    (merged tree dirs seen).loadLocale tree locale
      = .ok { merged tree dirs seen with
          values := (mergeAll seen).put languageKey (.map file.2) } := by
  unfold Context.loadLocale
  rw [h.resolve?_merged]
  dsimp only
  rw [h.acceptable.readFields_eq]
  rfl

/-! ## What fails -/

/-- Each of the `files` that `names` mean is meant by a name. -/
theorem exists_means_of_forall₂ {names : List Text}
    (h : List.Forall₂ (Means tree dirs) names files) :
    ∀ file ∈ files, ∃ name, Means tree dirs name file := by
  induction h with
  | nil => exact fun file hfile => absurd hfile List.not_mem_nil
  | @cons name first _ _ hfirst _ ih =>
    intro file hfile
    rcases List.mem_cons.mp hfile with rfl | hrest
    · exact ⟨name, hfirst⟩
    · exact ih file hrest

/-- Each of the files that are merged, which `eraseDupsBy` leaves, is meant by a name. -/
theorem exists_means_of_mem_eraseDupsBy {names : List Text}
    (h : List.Forall₂ (Means tree dirs) names files) :
    ∀ file ∈ files.eraseDupsBy (sameFile tree), ∃ name, Means tree dirs name file := by
  intro file hfile
  rw [eraseDupsBy_eq_foldl] at hfile
  rcases mem_of_mem_foldl_insertNew _ hfile with hnil | hmem
  · exact absurd hnil List.not_mem_nil
  · exact exists_means_of_forall₂ h file hmem

/-- A `merged` context is `Intact`: what has been merged can be read again, by whatever path. -/
theorem intact_merged (placed : tree.WellPlaced)
    (h : ∀ file ∈ seen, ∃ name, Means tree dirs name file) :
    Intact tree (merged tree dirs seen) := by
  intro path hpath hloaded
  rw [isLoaded_merged (path, [])] at hloaded
  obtain ⟨file, hmem, hsame⟩ := List.any_eq_true.mp hloaded
  obtain ⟨_, hmeans⟩ := h file hmem
  -- One straight path is one place, so the file says the same under both paths.
  have hplace := FileTree.locate?_eq_of_same_canonical placed hpath hmeans.first.isFile hsame
  exact ⟨file.2, Context.readFields_eq_ok_iff.mp
    (Context.readFields_eq_of_locate?_eq hplace.symm hmeans.acceptable.readFields_eq)⟩

/-- What is `Failing` on the bare directories goes wrong whatever has been merged, as they alone say
what a name means. -/
theorem act_merged_of_failing (placed : tree.WellPlaced) {action : Context.Action}
    (h : ∀ file ∈ seen, ∃ name, Means tree dirs name file)
    (fails : Failing tree { searchPaths := dirs } action error) :
    (Context.act tree action (merged tree dirs seen)).1 = .error error := by
  have hfails : Failing tree (merged tree dirs seen) action error := by
    cases fails with
    | notFound missing => exact .notFound missing
    | notAcceptable first faulty => exact .notAcceptable first faulty
    | unsupported missing => exact .unsupported missing
    | notTranslated first faulty => exact .notTranslated first faulty
    | keyless => exact .keyless
  exact Context.act_eq_error_iff.mpr ⟨hfails, (intact_merged placed h).not_passedOver hfails⟩

/-- The first name that is `Failing` by itself decides how loading fails, whatever the `rest` is. -/
theorem foldlM_load_of_failing (placed : tree.WellPlaced) {done rest : List Text}
    (h : List.Forall₂ (Means tree dirs) done files)
    (fails : Failing tree { searchPaths := dirs } (.load name) error) :
    (done ++ name :: rest).foldlM (fun context name => context.load tree name)
      (merged tree dirs []) = .error error := by
  have hload := Context.eq_error_of_settle
    (act_merged_of_failing placed (exists_means_of_mem_eraseDupsBy h) fails)
  rw [List.foldlM_append, foldlM_load_of_means h]
  show ((merged tree dirs _).load tree name >>= fun context => rest.foldlM _ context) = _
  rw [hload]
  rfl

/-- A name `Means` a data file, or it is `Failing` by itself. -/
theorem means_or_failing (tree : FileTree) (dirs : List Path) (name : Text) :
    (∃ file, Means tree dirs name file) ∨
      ∃ error, Failing tree { searchPaths := dirs } (.load name) error := by
  cases hfound : ({ searchPaths := dirs } : Context).resolve? tree name with
  | none => exact Or.inr ⟨_, .notFound (Context.resolve?_eq_none_iff.mp hfound)⟩
  | some path =>
    have hfirst := Context.resolve?_eq_some_iff.mp hfound
    rcases Context.acceptable_or_faulty tree path with ⟨fields, hsaid⟩ | ⟨fault, hfaulty⟩
    · exact Or.inl ⟨(path, fields), hfirst, hsaid⟩
    · exact Or.inr ⟨_, .notAcceptable hfirst hfaulty⟩

/-! ## Outcomes -/

/-- How a configuration comes out: `filled` with what its names and its locale mean, or with the
error of the first name that fails, or with that of the locale. -/
inductive Outcome (tree : FileTree) (bundled : Path) (configuration : Configuration) :
    Except Error Context → Prop
  /-- All names of `preload` and the `locale` mean files. -/
  | filled {files : List (Path × Fields)} {strings : Path × Fields}
      (preload : List.Forall₂ (Means tree (configuration.searchPaths bundled))
        configuration.preload files)
      (locale : Means tree (configuration.searchPaths bundled) (localeFile configuration.locale)
        strings) :
      Outcome tree bundled configuration (.ok
        { searchPaths := configuration.searchPaths bundled
          values := (mergeAll (files.eraseDupsBy (sameFile tree))).put languageKey
            (.map strings.2)
          loaded := (files.eraseDupsBy (sameFile tree)).map fun file => tree.canonical file.1 })
  /-- Of the names this is the first that fails. -/
  | notPreloaded {done rest : List Text} {name : Text} {files : List (Path × Fields)}
      {error : Error} (split : configuration.preload = done ++ name :: rest)
      (before : List.Forall₂ (Means tree (configuration.searchPaths bundled)) done files)
      (fails : Failing tree { searchPaths := configuration.searchPaths bundled } (.load name)
        error) :
      Outcome tree bundled configuration (.error error)
  /-- The locale fails. -/
  | notTranslated {files : List (Path × Fields)} {error : Error}
      (preload : List.Forall₂ (Means tree (configuration.searchPaths bundled))
        configuration.preload files)
      (fails : Failing tree { searchPaths := configuration.searchPaths bundled }
        (.loadLocale configuration.locale) error) :
      Outcome tree bundled configuration (.error error)

/-- All names mean files, or one of them is `Failing` behind others that do. -/
theorem forall₂_means_or_failing (tree : FileTree) (dirs : List Path) :
    ∀ names : List Text, (∃ files, List.Forall₂ (Means tree dirs) names files) ∨
      ∃ done name rest files error, names = done ++ name :: rest ∧
        List.Forall₂ (Means tree dirs) done files ∧
          Failing tree { searchPaths := dirs } (.load name) error
  | [] => Or.inl ⟨[], .nil⟩
  | first :: names => by
    rcases means_or_failing tree dirs first with ⟨file, hfirst⟩ | ⟨error, hfails⟩
    · rcases forall₂_means_or_failing tree dirs names with
        ⟨files, hfiles⟩ | ⟨done, name, rest, files, error, rfl, hdone, hfails⟩
      · exact Or.inl ⟨file :: files, .cons hfirst hfiles⟩
      · exact Or.inr ⟨first :: done, name, rest, file :: files, error, rfl, .cons hfirst hdone,
          hfails⟩
    · exact Or.inr ⟨[], first, names, [], error, rfl, .nil, hfails⟩

/-- Every configuration has an `Outcome`. -/
theorem exists_outcome (tree : FileTree) (bundled : Path) (configuration : Configuration) :
    ∃ result, Outcome tree bundled configuration result := by
  rcases forall₂_means_or_failing tree (configuration.searchPaths bundled) configuration.preload
    with ⟨files, hfiles⟩ | ⟨done, name, rest, files, error, hsplit, hdone, hfails⟩
  · -- The locale means a file under the name of its file, or fails as that name does.
    rcases means_or_failing tree (configuration.searchPaths bundled)
      (localeFile configuration.locale) with ⟨strings, hstrings⟩ | ⟨error, hfails⟩
    · exact ⟨_, .filled hfiles hstrings⟩
    · cases hfails with
      | notFound missing => exact ⟨_, .notTranslated hfiles (.unsupported missing)⟩
      | notAcceptable first faulty => exact ⟨_, .notTranslated hfiles (.notTranslated first faulty)⟩
  · exact ⟨_, .notPreloaded hsplit hdone hfails⟩

/-- A configuration starts as `merged` with its directories and nothing else, and loads the files of
`preload` and then its locale. -/
theorem context_eq (tree : FileTree) (bundled : Path) (configuration : Configuration) :
    configuration.context tree bundled = (do
      let filled ← configuration.preload.foldlM (fun context name => context.load tree name)
        (merged tree (configuration.searchPaths bundled) [])
      filled.loadLocale tree configuration.locale) := by
  have hstart : configuration.dataPaths.foldl (fun context path => context.addPath path)
      (if configuration.bundledData then Context.searching bundled else {})
        = merged tree (configuration.searchPaths bundled) [] := by
    rw [foldl_addPath, searchPaths, eraseDupsBy_eq_foldl]
    cases configuration.bundledData <;> rfl
  rw [← hstart]
  rfl

/-- The `context` of a configuration is its `Outcome`. -/
theorem Outcome.context_eq (placed : tree.WellPlaced) {bundled : Path}
    {configuration : Configuration} {result : Except Error Context}
    (h : Outcome tree bundled configuration result) :
    configuration.context tree bundled = result := by
  rw [Configuration.context_eq]
  cases h with
  | filled hpreload hlocale =>
    rw [foldlM_load_of_means hpreload]
    exact loadLocale_merged hlocale
  | notPreloaded hsplit hbefore hfails =>
    rw [hsplit, foldlM_load_of_failing placed hbefore hfails]
    rfl
  | notTranslated hpreload hfails =>
    have hload := Context.eq_error_of_settle
      (act_merged_of_failing placed (exists_means_of_mem_eraseDupsBy hpreload) hfails)
    rw [foldlM_load_of_means hpreload]
    exact hload

/-- **A configuration comes to what its directories, names and locale come to**: its `context` is
`result` exactly if `result` is its `Outcome`. -/
theorem context_eq_iff (placed : tree.WellPlaced) {bundled : Path}
    {configuration : Configuration} {result : Except Error Context} :
    configuration.context tree bundled = result ↔ Outcome tree bundled configuration result := by
  constructor
  · -- There is some outcome, and the context is what this outcome says.
    intro h
    obtain ⟨other, hother⟩ := exists_outcome tree bundled configuration
    rw [← h, hother.context_eq placed]
    exact hother
  · exact Outcome.context_eq placed

/-- **What a configuration comes to.** If its `context` is `.ok`, this searches `dirs` in order,
each where it is named first; its values are the `files` that the names of `preload` mean, merged in
order, each file once, and under `languageKey` the strings of the locale and nothing else. If it is
an `.error`, this is the one of the first name that is `Failing` by itself, or else of the locale,
whatever comes later. -/
theorem context_of_preload (tree : FileTree) (placed : tree.WellPlaced) (bundled : Path)
    (configuration : Configuration) :
    let dirs := configuration.searchPaths bundled
    (∀ context, configuration.context tree bundled = .ok context ↔
      ∃ files strings, List.Forall₂ (Means tree dirs) configuration.preload files ∧
        Means tree dirs (localeFile configuration.locale) strings ∧
        context =
          { searchPaths := dirs
            values := (mergeAll (files.eraseDupsBy (sameFile tree))).put languageKey
              (.map strings.2)
            loaded := (files.eraseDupsBy (sameFile tree)).map fun file =>
              tree.canonical file.1 } ∧
        ∀ key, context.get? key =
          if languageKey = key then some (.map strings.2)
          else (mergeAll (files.eraseDupsBy (sameFile tree))).get? key) ∧
    ∀ error, configuration.context tree bundled = .error error ↔
      (∃ done name rest files, configuration.preload = done ++ name :: rest ∧
        List.Forall₂ (Means tree dirs) done files ∧
        Failing tree { searchPaths := dirs } (.load name) error) ∨
      ∃ files, List.Forall₂ (Means tree dirs) configuration.preload files ∧
        Failing tree { searchPaths := dirs } (.loadLocale configuration.locale) error := by
  intro dirs
  refine ⟨fun context => ?_, fun error => ?_⟩
  · rw [context_eq_iff placed]
    constructor
    · rintro ⟨hpreload, hlocale⟩
      exact ⟨_, _, hpreload, hlocale, rfl, fun key => Keyed.get?_put _ _ _ _⟩
    · rintro ⟨files, strings, hpreload, hlocale, rfl, -⟩
      exact .filled hpreload hlocale
  · rw [context_eq_iff placed]
    constructor
    · rintro (_ | ⟨hsplit, hbefore, hfails⟩ | ⟨hpreload, hfails⟩)
      · exact Or.inl ⟨_, _, _, _, hsplit, hbefore, hfails⟩
      · exact Or.inr ⟨_, hpreload, hfails⟩
    · rintro (⟨done, name, rest, files, hsplit, hbefore, hfails⟩ | ⟨files, hpreload, hfails⟩)
      · exact .notPreloaded hsplit hbefore hfails
      · exact .notTranslated hpreload hfails

/-- Two directories, one of them named twice, in which a file is listed by two names and
another stands in front of its namesake. What the first file has for the language is gone.
With a name that means no file in front of a file that is spoilt, it is the name that fails. -/
theorem context_of_preload_shadowed :
    let tree : FileTree :=
      { root := .directory
          [(['b'], .directory
            [(['d'], .file "lang: {old: x}\nT: one\n".toUTF8),
             ("locales".toList, .directory [("en.yml".toList, .file "hi: Hi\n".toUTF8)])]),
           (['s'], .directory
            [(['d'], .file "T: two\n".toUTF8), (['e'], .file "U: three\n".toUTF8),
             (['x'], .file "k: [".toUTF8)])]
        workingDirectory := [['b']] }
    let configuration : Configuration :=
      { dataPaths := [⟨"/b/".toList⟩, ⟨"/s".toList⟩]
        preload := [['d'], "/s/../b/d".toList, ['e']] }
    tree.WellPlaced ∧
      (∃ (context : Context) (strings : Fields),
        configuration.context tree ⟨"/b".toList⟩ = .ok context ∧
        context.searchPaths = [⟨"/b".toList⟩, ⟨"/s".toList⟩] ∧
        context.values.keys = [languageKey, ['T'], ['U']] ∧
        context.loaded = [⟨"/b/d".toList⟩, ⟨"/s/e".toList⟩] ∧
        context.get? languageKey = some (.map strings) ∧ strings.keys = ["hi".toList]) ∧
      { configuration with preload := [['g'], ['x']] }.context tree ⟨"/b".toList⟩
        = .error (.dataNotFound ['g']) := by
  intro tree configuration
  have hplaced : tree.WellPlaced := by
    intro name hname
    rw [List.mem_singleton.mp hname]
    exact ⟨by decide, by decide⟩
  refine ⟨hplaced, ?_, ?_⟩
  · have hkeys : ((configuration.context tree ⟨"/b".toList⟩).toOption.map fun context =>
        (context.values.keys, context.loaded,
          ((context.get? languageKey).bind Value.map?).map Keyed.keys))
          = some ([languageKey, ['T'], ['U']], [⟨"/b/d".toList⟩, ⟨"/s/e".toList⟩],
            some ["hi".toList]) := by
      decide +kernel
    obtain ⟨context, hcontext, hkeys⟩ := Option.map_eq_some_iff.mp hkeys
    have hok := Context.toOption_eq_some_iff.mp hcontext
    obtain ⟨files, strings, -, -, hfilled, hget⟩ :=
      ((context_of_preload tree hplaced ⟨"/b".toList⟩ configuration).1 context).mp hok
    simp only [Prod.mk.injEq] at hkeys
    obtain ⟨hvalues, hloaded, hstrings⟩ := hkeys
    have hlanguage := hget languageKey
    rw [if_pos rfl] at hlanguage
    rw [hlanguage] at hstrings
    refine ⟨context, strings.2, hok, ?_, hvalues, hloaded, hlanguage, Option.some.inj hstrings⟩
    rw [hfilled]
    show configuration.searchPaths ⟨"/b".toList⟩ = _
    decide +kernel
  · -- Nothing has to be known of what comes behind the name.
    refine ((context_of_preload tree hplaced ⟨"/b".toList⟩ _).2 _).mpr (Or.inl
      ⟨[], ['g'], [['x']], [], rfl, .nil, .notFound ?_⟩)
    decide +kernel

end Configuration

end Stencil
