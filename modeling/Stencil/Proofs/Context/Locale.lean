import Stencil.Proofs.Context.DataFile
import Stencil.Proofs.FileTree.Entry
import Stencil.Proofs.Text.Order

/-!
# The locales that are listed are those that can be asked for

Locales are listed by going through the entries of the directories below the search paths
and taking the files with the extension of a locale; a locale is asked for by a name that
is made of it and looked up below the same search paths. Both are brought to one form: of
a locale there is an entry, a file whose name is the locale with the extension behind it
(`HasFile`). A directory of such a name, a file that lies elsewhere, a name that is nothing
but the extension, and search paths that lead nowhere count for neither.

Theorems:
- `mem_locales_iff`: a locale is listed if it has a file and is not empty.
- `resolve?_localeFile_eq_none_iff`: a locale without slashes is found unless it has no file.
- `locales_agree`: the list is ascending and has the locales that loading does not refuse.
-/

namespace Stencil.Context

variable {tree : FileTree} {context : Context} {locale : Text}

/-! ## Files of a locale -/

/-- The name of the file of a locale in its directory: `locale`, a dot and the `localeExtension`. -/
def localeFileName (locale : Text) : Text :=
  locale ++ '.' :: localeExtension

/-- There is a file of the name `localeFileName` in the `localesDirectory` below a search path. -/
def HasFile (tree : FileTree) (context : Context) (locale : Text) : Prop :=
  ∃ dir ∈ context.searchPaths, ∃ content,
    (localeFileName locale, .file content) ∈ tree.entries (dir.join localesDirectory)

theorem isName_localeFileName (h : '/' ∉ locale) : Path.IsName (localeFileName locale) := by
  -- The name is longer than those that mean something else in a path.
  have hne : ∀ short : Text, short.length < 4 → localeFileName locale ≠ short := by
    intro short hshort heq
    have hlength : (localeFileName locale).length = locale.length + 4 := List.length_append
    rw [heq] at hlength
    omega
  have hsaid : ¬ (localeFileName locale = [] ∨ localeFileName locale = ['.']) :=
    not_or.mpr ⟨hne _ (by decide), hne _ (by decide)⟩
  refine ⟨?_, ?_⟩
  · rw [Path.component?, if_neg hsaid, if_neg (hne _ (by decide))]
  · intro hslash
    rcases List.mem_append.mp hslash with hlocale | hextension
    · exact h hlocale
    · exact absurd hextension (by decide)

/-- In a `WellFormed` tree the name of a file has no slash, so neither has the locale that
`HasFile`. -/
theorem HasFile.no_slash (h : tree.root.WellFormed) (hfile : HasFile tree context locale) :
    '/' ∉ locale := by
  obtain ⟨dir, -, content, hentry⟩ := hfile
  have hname := ((FileTree.wellFormed_entries h _).of_mem hentry).1
  exact fun hmem => hname.no_slash (List.mem_append_left _ hmem)

/-! ## Listing -/

/-- By `localeOf?` a file is taken for one of a locale, not an empty one, if it is named
`localeFileName`. -/
theorem localeOf?_eq_some_iff {name : Text} {node : FileNode} :
    localeOf? name node = some locale ↔
      node.isFile ∧ locale ≠ [] ∧ name = localeFileName locale := by
  have hdot : '.' ∉ localeExtension := by decide
  unfold localeOf?
  rcases hsplit : Path.splitName name with ⟨stem, extension⟩
  dsimp only
  constructor
  · intro h
    split at h
    next hfile =>
      cases h
      rw [hfile.2] at hsplit
      obtain ⟨hstem, -, hname⟩ := Path.splitName_eq_iff.mp hsplit
      exact ⟨hfile.1, hstem, hname⟩
    next => cases h
  · rintro ⟨hfile, hlocale, hname⟩
    cases hsplit.symm.trans (Path.splitName_eq_iff.mpr ⟨hlocale, hdot, hname⟩)
    rw [if_pos ⟨hfile, rfl⟩]

/-- **A locale is listed** in `locales` if it `HasFile` and is not empty. -/
theorem mem_locales_iff :
    locale ∈ context.locales tree ↔ locale ≠ [] ∧ HasFile tree context locale := by
  unfold locales
  dsimp only
  rw [Text.mem_eraseReps_mergeSort_iff, List.mem_filterMap]
  constructor
  · rintro ⟨⟨name, node⟩, hentry, hlocale⟩
    obtain ⟨dir, hdir, hentry⟩ := List.mem_flatMap.mp hentry
    obtain ⟨hfile, hnonempty, rfl⟩ := localeOf?_eq_some_iff.mp hlocale
    cases node with
    | file content => exact ⟨hnonempty, dir, hdir, content, hentry⟩
    | directory entries => cases hfile
  · rintro ⟨hnonempty, dir, hdir, content, hentry⟩
    exact ⟨_, List.mem_flatMap.mpr ⟨dir, hdir, hentry⟩,
      localeOf?_eq_some_iff.mpr ⟨rfl, hnonempty, rfl⟩⟩

/-! ## Asking -/

/-- The `candidates` for the file of a locale are in the `localesDirectory` below each search
path. -/
theorem candidates_localeFile (locale : Text) (searchPaths : List Path) :
    candidates (localeFile locale) searchPaths
      = searchPaths.map fun dir => (dir.join localesDirectory).below (localeFileName locale) := by
  have hname : localeFile locale = localesDirectory.written ++ '/' :: localeFileName locale := by
    unfold localeFile localeFileName
    simp
  have hdirectory : localesDirectory.written ≠ [] := by decide
  have hrelative : ¬ Path.isAbsolute ⟨localesDirectory.written⟩ := by decide
  unfold candidates
  rw [hname, Path.isAbsolute_append hdirectory, if_neg hrelative]
  exact List.map_congr_left fun dir _ => dir.join_append hdirectory hrelative _

theorem written_join_ne_nil (dir : Path) : (dir.join localesDirectory).written ≠ [] := by
  unfold Path.join
  split
  next => decide
  next =>
    split <;> exact List.append_ne_nil_of_right_ne_nil _ (by decide)

/-- **A locale is not found** by `resolve?` if it has no file, provided that there is no slash in
it. -/
theorem resolve?_localeFile_eq_none_iff (h : tree.root.WellFormed) (hslash : '/' ∉ locale) :
    context.resolve? tree (localeFile locale) = none ↔ ¬ HasFile tree context locale := by
  have hname := isName_localeFileName hslash
  have hfile : ∀ dir : Path,
      tree.isFile ((dir.join localesDirectory).below (localeFileName locale)) ↔
        ∃ content,
          (localeFileName locale, .file content) ∈ tree.entries (dir.join localesDirectory) :=
    fun dir => FileTree.isFile_below_iff h (written_join_ne_nil dir) hname
  rw [resolve?_eq_none_iff, candidates_localeFile, List.forall_mem_map]
  simp only [hfile, HasFile, not_exists, not_and]

/-- By `loadLocale` a locale is refused as `unsupportedLanguage` if no file is found for it, and for
no other reason. -/
theorem loadLocale_unsupported_iff :
    (∃ other, context.loadLocale tree locale = .error (.unsupportedLanguage other)) ↔
      context.resolve? tree (localeFile locale) = none := by
  unfold loadLocale
  cases hfound : context.resolve? tree (localeFile locale) with
  | none => simp
  | some path =>
    refine iff_of_false ?_ (by simp)
    rintro ⟨other, hother⟩
    dsimp only at hother
    cases hread : readFields tree path with
    | ok strings => rw [hread] at hother; cases hother
    | error error =>
      -- A file that is found may be faulty, and then that is what is said.
      rw [hread] at hother
      obtain ⟨fault, -, rfl⟩ := readFields_eq_error_iff.mp hread
      cases hother

/-- **Listing locales agrees with loading them.** The list `locales` is strictly `Ascending`, and a
locale is on it just when it is not empty, has no slash in it and is not refused by `loadLocale` as
an `unsupportedLanguage`. -/
theorem locales_agree (h : tree.root.WellFormed) (context : Context) :
    Text.Ascending (context.locales tree) ∧
      ∀ locale, locale ∈ context.locales tree ↔ locale ≠ [] ∧ '/' ∉ locale ∧
        ∀ other, context.loadLocale tree locale ≠ .error (.unsupportedLanguage other) := by
  refine ⟨Text.ascending_eraseReps_mergeSort _, fun locale => ?_⟩
  rw [mem_locales_iff, ← not_exists, loadLocale_unsupported_iff]
  refine and_congr_right fun _ => ⟨fun hfile => ?_, fun ⟨hslash, hfound⟩ => ?_⟩
  · have hslash := HasFile.no_slash h hfile
    exact ⟨hslash, fun hnone => (resolve?_localeFile_eq_none_iff h hslash).mp hnone hfile⟩
  · exact Classical.not_not.mp (mt (resolve?_localeFile_eq_none_iff h hslash).mpr hfound)

/-- Two directories, one of them named twice and one that is not there: a name with two dots
and one that begins with a dot are locales, a directory, a mere extension and a file outside
the directory of locales are none, and a faulty file is listed and not refused as
unsupported. -/
theorem locales_agree_dotted :
    let tree : FileTree :=
      { root := .directory
          [(['a'], .directory
            [("locales".toList, .directory
              [("en.yml".toList, .file "k: v".toUTF8), ("fr.yml".toList, .directory []),
                (".yml".toList, .file "k: v".toUTF8), ("de.at.yml".toList, .file "k: [".toUTF8)]),
              ("it.yml".toList, .file "k: v".toUTF8)]),
           (['b'], .directory
            [("locales".toList, .directory
              [("..yml".toList, .file "k: v".toUTF8), ("en.yml".toList, .file "k: w".toUTF8)])])] }
    let context : Context :=
      { searchPaths := [⟨"/b".toList⟩, ⟨"/a/".toList⟩, ⟨"/c".toList⟩, ⟨"/a/../b".toList⟩] }
    tree.root.WellFormed ∧
      Text.Ascending (context.locales tree) ∧
      (∀ locale, locale ∈ context.locales tree ↔
        locale ∈ [['.'], "de.at".toList, "en".toList]) ∧
      (∀ other, context.loadLocale tree "de.at".toList ≠ .error (.unsupportedLanguage other)) ∧
      ∃ other, context.loadLocale tree "fr".toList = .error (.unsupportedLanguage other) := by
  intro tree context
  have hwellFormed : tree.root.WellFormed := by
    repeat' first
      | exact .file _
      | exact .empty
      | refine .entry ⟨by decide, by decide⟩ (by decide) ?_ ?_
  have hlist : ∀ locale, locale ∈ context.locales tree ↔
      locale ∈ [['.'], "de.at".toList, "en".toList] := by
    have hfound : ((context.searchPaths.flatMap fun dir =>
        tree.entries (dir.join localesDirectory)).filterMap fun entry =>
          localeOf? entry.1 entry.2)
        = [['.'], "en".toList, "en".toList, "de.at".toList, ['.'], "en".toList] := by
      decide +kernel
    intro locale
    refine Text.mem_eraseReps_mergeSort_iff.trans ?_
    show locale ∈ List.filterMap (fun entry : Text × FileNode => localeOf? entry.1 entry.2) _ ↔ _
    rw [hfound]
    simp only [List.mem_cons, List.not_mem_nil]
    grind
  obtain ⟨hascending, hagree⟩ := locales_agree hwellFormed context
  refine ⟨hwellFormed, hascending, hlist, ?_, ?_⟩
  · have hlisted : "de.at".toList ∈ context.locales tree := (hlist _).mpr (by decide)
    exact ((hagree _).mp hlisted).2.2
  · have hunlisted : "fr".toList ∉ context.locales tree := mt (hlist _).mp (by decide)
    refine Classical.byContradiction fun hnone => ?_
    exact hunlisted ((hagree _).mpr ⟨by decide, by decide, not_exists.mp hnone⟩)

end Stencil.Context
