import Mathlib.Data.List.Forall2
import Stencil.Embed.Call
import Stencil.Proofs.FileTree.Order

/-!
# Embedding the themes of a directory

A directory stands for the theme files below it at any depth: the files whose name is a
stem that is not empty, a dot and one of four extensions, in small letters. They are taken
in the order of their paths, so it does not matter in which order the directories are gone
through. Each becomes a module that is made of its own stem and of the text that its bytes
are. If there is a file that makes no module, then nothing is embedded, and the fault is
that of the first such file.

Theorems:
- `mem_themeFiles_iff`: which files are taken for themes.
- `ofFile_eq_ok_iff`, `ofFile_eq_error_iff`: what a theme file makes.
- `exists_lists`: the list of the theme files below a directory.
- `call_directory`: what comes of a directory.
-/

namespace Stencil.Embed

/-! ## Themes in files -/

/-- A file with the name of a theme: the `folders` on the way to it, its name as `stem` and
`extension`, and the bytes that it holds. -/
structure ThemeFile where
  folders : List Text
  stem : Text
  extension : Text
  content : ByteArray

namespace ThemeFile

/-- The name of the file. -/
def name (file : ThemeFile) : Text :=
  file.stem ++ '.' :: file.extension

/-- The row of names that leads to the file: its `folders`, and then its `name`. -/
def names (file : ThemeFile) : List Text :=
  file.folders ++ [file.name]

/-- The path to the file by way of the directory `dir`. -/
def path (dir : Path) (file : ThemeFile) : Path :=
  dir.follow file.names

/-- The file stands below the directory `dir`, at any depth, and its name is that of a theme: a stem
that is not empty, and one of the four extensions. -/
structure Below (tree : FileTree) (dir : Path) (file : ThemeFile) : Prop where
  leads : tree.behind? dir file.names = some (.file file.content)
  stem_ne : file.stem ≠ []
  extension_mem :
    file.extension ∈ ["html".toList, "htm".toList, "tpl".toList, "txt".toList]

/-- The module is made of the `stem` of the file and of the text that its bytes are in UTF-8. -/
structure Embeds (file : ThemeFile) (module : Module) : Prop where
  content_eq : file.content = module.text.utf8Encode
  name_eq : moduleName? file.stem = some module.name
  manifest_eq : module.manifest = Manifest.ofText module.text

/-- What is wrong with a file that makes no module, and the `Fault` with which this is told. -/
inductive Faulty (dir : Path) (file : ThemeFile) : Fault → Prop
  /-- Its bytes are no text. -/
  | unreadable (h : ∀ text : Text, file.content ≠ text.utf8Encode) :
      Faulty dir file (.unreadable (file.path dir))
  /-- They are, but its stem makes no name. -/
  | unnamed {text : Text} (readable : file.content = text.utf8Encode)
      (h : moduleName? file.stem = none) : Faulty dir file (.invalidName file.stem)

end ThemeFile

/-- The theme files that are `Below` a directory, in the order of their paths: row by row of names,
the names by their bytes. -/
structure Lists (tree : FileTree) (dir : Path) (files : List ThemeFile) : Prop where
  mem_iff : ∀ file, file ∈ files ↔ file.Below tree dir
  ascending : files.Pairwise fun a b => a.names.map Text.utf8 < b.names.map Text.utf8

/-- There is one list that `Lists` the theme files below a directory. -/
theorem Lists.unique {tree : FileTree} {dir : Path} {files others : List ThemeFile}
    (h : Lists tree dir files) (h' : Lists tree dir others) : files = others := by
  have hnodup : ∀ {list : List ThemeFile}, Lists tree dir list → list.Nodup := by
    intro list hlist
    refine hlist.ascending.imp fun hlt heq => ?_
    rw [heq] at hlt
    exact List.lt_irrefl _ hlt
  have hperm : files.Perm others :=
    (List.perm_ext_iff_of_nodup (hnodup h) (hnodup h')).mpr fun file => by
      rw [h.mem_iff, h'.mem_iff]
  exact List.Perm.eq_of_pairwise (fun a b _ _ hlt hgt => absurd hgt (List.lt_asymm hlt))
    h.ascending h'.ascending hperm

/-! ## What a file makes -/

/-- By `String.fromUTF8?` a text is read of the bytes that are its own, `utf8Encode`. -/
theorem fromUTF8?_eq_some_iff {content : ByteArray} {text : Text} :
    (String.fromUTF8? content).map String.toList = some text ↔ content = text.utf8Encode := by
  unfold String.fromUTF8?
  constructor
  · intro h
    split at h
    next hvalid =>
      obtain rfl := Option.some.inj h
      rw [← String.toByteArray_ofList, String.ofList_toList]
      rfl
    next => cases h
  · intro h
    have hvalid : content.IsValidUTF8 := h ▸ ⟨text, rfl⟩
    rw [dif_pos hvalid, Option.map_some, Option.some.injEq]
    have hstring : String.fromUTF8 content hvalid = String.ofList text := by
      rw [← String.toByteArray_inj, String.toByteArray_ofList, ← h]
      rfl
    rw [hstring, String.toList_ofList]

variable {tree : FileTree} {dir : Path} {file : ThemeFile}

namespace ThemeFile

/-- In a `WellFormed` tree the path to a file goes through names. -/
theorem Below.isName (h : tree.root.WellFormed) (hfile : file.Below tree dir) :
    ∀ name ∈ file.names, Path.IsName name := by
  obtain ⟨node, -, hwell, hat⟩ := FileTree.exists_of_behind? h hfile.leads
  exact hwell.isName_of_at? hat

/-- By `splitName` the name of a theme file comes apart into `stem` and `extension`. -/
theorem Below.splitName_name (hfile : file.Below tree dir) :
    Path.splitName file.name = (file.stem, some file.extension) := by
  refine Path.splitName_eq_iff.mpr ⟨hfile.stem_ne, ?_, rfl⟩
  have hdot : ∀ extension ∈ ["html".toList, "htm".toList, "tpl".toList, "txt".toList],
      '.' ∉ extension := by decide
  exact hdot _ hfile.extension_mem

/-- The `path` to a file leads to it by `node?`. -/
theorem Below.node?_path (h : tree.root.WellFormed) (hwritten : dir.written ≠ [])
    (hfile : file.Below tree dir) : tree.node? (file.path dir) = some (.file file.content) := by
  rw [path, FileTree.node?_follow hwritten (hfile.isName h), hfile.leads]

theorem Below.fileName?_path (h : tree.root.WellFormed) (hwritten : dir.written ≠ [])
    (hfile : file.Below tree dir) : (file.path dir).fileName? = some file.name :=
  Path.fileName?_follow hwritten (hfile.isName h)

/-- A theme file is told by the `names` that lead to it. -/
theorem Below.eq_of_names_eq {other : ThemeFile} (hfile : file.Below tree dir)
    (hother : other.Below tree dir) (h : file.names = other.names) : file = other := by
  have hcontent := hfile.leads
  rw [h, hother.leads] at hcontent
  obtain ⟨hfolders, hnames⟩ := List.append_inj' h rfl
  have hsplit := hfile.splitName_name
  rw [List.singleton_injective hnames, hother.splitName_name] at hsplit
  cases file
  cases other
  simp_all

/-- Theme files with one path are one. -/
theorem Below.eq_of_path_eq {other : ThemeFile} (h : tree.root.WellFormed)
    (hwritten : dir.written ≠ []) (hfile : file.Below tree dir) (hother : other.Below tree dir)
    (hpath : file.path dir = other.path dir) : file = other :=
  hfile.eq_of_names_eq hother
    (Path.eq_of_components_follow_eq hwritten (hfile.isName h) (hother.isName h) (congrArg _ hpath))

/-- What `Module.ofFile` makes of a theme file: a module, if its bytes are a text and `moduleName?`
makes a name of its stem. -/
theorem Below.ofFile_path (h : tree.root.WellFormed) (hwritten : dir.written ≠ [])
    (hfile : file.Below tree dir) :
    Module.ofFile tree (file.path dir)
      = match (String.fromUTF8? file.content).map String.toList with
        | none => .error (.unreadable (file.path dir))
        | some text => Module.ofText file.stem text := by
  have hstem : (file.path dir).stem? = some file.stem := by
    rw [Path.stem?, hfile.fileName?_path h hwritten, Option.map_some, hfile.splitName_name]
  unfold Module.ofFile FileTree.readText?
  rw [hfile.node?_path h hwritten, hstem]
  rfl

/-- **A theme file makes a module** by `Module.ofFile`: the one that it `Embeds`. -/
theorem Below.ofFile_eq_ok_iff (h : tree.root.WellFormed) (hwritten : dir.written ≠ [])
    (hfile : file.Below tree dir) {module : Module} :
    Module.ofFile tree (file.path dir) = .ok module ↔ file.Embeds module := by
  rw [hfile.ofFile_path h hwritten]
  constructor
  · intro hmade
    split at hmade
    next => cases hmade
    next text htext =>
      unfold Module.ofText at hmade
      split at hmade
      next => cases hmade
      next converted hname =>
        obtain rfl := Except.ok.inj hmade
        exact ⟨fromUTF8?_eq_some_iff.mp htext, hname, rfl⟩
  · intro hembeds
    obtain ⟨hcontent, hname, hmanifest⟩ := hembeds
    rw [fromUTF8?_eq_some_iff.mpr hcontent]
    show Module.ofText file.stem module.text = _
    unfold Module.ofText
    rw [hname, ← hmanifest]

/-- **A theme file is faulty** for `Module.ofFile` as `Faulty` says: if its bytes are no text, and
else if its stem makes no name. -/
theorem Below.ofFile_eq_error_iff (h : tree.root.WellFormed) (hwritten : dir.written ≠ [])
    (hfile : file.Below tree dir) {fault : Fault} :
    Module.ofFile tree (file.path dir) = .error fault ↔ file.Faulty dir fault := by
  rw [hfile.ofFile_path h hwritten]
  constructor
  · intro hmade
    split at hmade
    next hnone =>
      obtain rfl := Except.error.inj hmade
      refine .unreadable fun text htext => ?_
      rw [fromUTF8?_eq_some_iff.mpr htext] at hnone
      cases hnone
    next text htext =>
      unfold Module.ofText at hmade
      split at hmade
      next hname =>
        obtain rfl := Except.error.inj hmade
        exact .unnamed (fromUTF8?_eq_some_iff.mp htext) hname
      next => cases hmade
  · intro hfaulty
    cases hfaulty with
    | unreadable hbytes =>
      have hnone : (String.fromUTF8? file.content).map String.toList = none :=
        Option.eq_none_iff_forall_ne_some.mpr fun text htext =>
          hbytes text (fromUTF8?_eq_some_iff.mp htext)
      rw [hnone]
    | @unnamed text hcontent hname =>
      rw [fromUTF8?_eq_some_iff.mpr hcontent]
      show Module.ofText file.stem text = _
      unfold Module.ofText
      rw [hname]

end ThemeFile

/-! ## The files that are taken -/

/-- A file that a row of names leads to is a `ThemeFile` if it is taken for one by `isThemeFile`. -/
theorem exists_below_of_isThemeFile (h : tree.root.WellFormed) (hdir : tree.isDirectory dir)
    {names : List Text} {content : ByteArray}
    (hleads : tree.behind? dir names = some (.file content))
    (htheme : isThemeFile tree (dir.follow names)) :
    ∃ file : ThemeFile, file.Below tree dir ∧ file.path dir = dir.follow names := by
  have hwritten := FileTree.written_ne_nil_of_isDirectory hdir
  obtain ⟨node, hnode, hwell, hat⟩ := FileTree.exists_of_behind? h hleads
  -- The directory itself is no file, so there is a last name.
  have hne : names ≠ [] := by
    intro hnil
    rw [hnil, FileNode.at?_nil] at hat
    unfold FileTree.isDirectory at hdir
    rw [hnode, hat] at hdir
    cases hdir
  obtain ⟨folders, name, rfl⟩ :=
    (List.eq_nil_or_concat' names).resolve_left hne
  have hextension : (dir.follow (folders ++ [name])).extension? = (Path.splitName name).2 := by
    rw [Path.extension?, Path.fileName?_follow hwritten (hwell.isName_of_at? hat),
      Option.bind_some]
  unfold isThemeFile at htheme
  rw [hextension, Bool.and_eq_true] at htheme
  rcases hsplit : Path.splitName name with ⟨stem, extension⟩
  rw [hsplit] at htheme
  cases extension with
  | none => cases htheme.2
  | some extension =>
    obtain ⟨hstem, -, rfl⟩ := Path.splitName_eq_iff.mp hsplit
    exact ⟨⟨folders, stem, extension, content⟩,
      ⟨hleads, hstem, List.contains_iff_mem.mp htheme.2⟩, rfl⟩

/-- **The paths that are taken**, `themeFiles`, are those to the theme files `Below` the
directory. -/
theorem mem_themeFiles_iff (h : tree.root.WellFormed) (hdir : tree.isDirectory dir)
    {path : Path} :
    path ∈ themeFiles tree dir ↔
      ∃ file : ThemeFile, file.Below tree dir ∧ file.path dir = path := by
  have hwritten := FileTree.written_ne_nil_of_isDirectory hdir
  unfold themeFiles
  rw [List.mem_mergeSort, List.mem_filter, FileTree.mem_filesBelow_iff h]
  constructor
  · intro htaken
    obtain ⟨⟨names, content, hleads, rfl⟩, htheme⟩ := htaken
    exact exists_below_of_isThemeFile h hdir hleads htheme
  · intro hbelow
    obtain ⟨file, hfile, rfl⟩ := hbelow
    refine ⟨⟨file.names, file.content, hfile.leads, rfl⟩, ?_⟩
    have hextension : (file.path dir).extension? = some file.extension := by
      rw [Path.extension?, hfile.fileName?_path h hwritten, Option.bind_some,
        hfile.splitName_name]
    unfold isThemeFile FileTree.isFile
    rw [hfile.node?_path h hwritten, hextension]
    exact List.contains_iff_mem.mpr hfile.extension_mem

/-- No path is taken twice in `themeFiles`. -/
theorem nodup_themeFiles (h : tree.root.WellFormed) (hdir : tree.isDirectory dir) :
    (themeFiles tree dir).Nodup :=
  (List.mergeSort_perm _ _).nodup_iff.mpr
    ((FileTree.nodup_filesBelow h (FileTree.written_ne_nil_of_isDirectory hdir)).filter _)

/-- What holds of all elements of a list in that each is `f a` for some `a` can be shown of a list
of these `sources`. -/
theorem exists_map_eq {α β : Type} {f : α → β} {p : α → Prop} {list : List β}
    (h : ∀ b ∈ list, ∃ a, p a ∧ f a = b) : ∃ sources : List α, (∀ a ∈ sources, p a) ∧
      list = sources.map f := by
  induction list with
  | nil => exact ⟨[], fun _ ha => absurd ha List.not_mem_nil, rfl⟩
  | cons b rest ih =>
    obtain ⟨a, ha, rfl⟩ := h b List.mem_cons_self
    obtain ⟨sources, hsources, rfl⟩ := ih fun c hc => h c (List.mem_cons_of_mem _ hc)
    exact ⟨a :: sources, List.forall_mem_cons.mpr ⟨ha, hsources⟩, rfl⟩

/-- **The theme files below a directory** can be listed as `Lists` says, and then their paths are
`themeFiles`, in this order. -/
theorem exists_lists (h : tree.root.WellFormed) (hdir : tree.isDirectory dir) :
    ∃ files, Lists tree dir files ∧ themeFiles tree dir = files.map (·.path dir) := by
  have hwritten := FileTree.written_ne_nil_of_isDirectory hdir
  obtain ⟨files, hbelow, hpaths⟩ :=
    exists_map_eq fun path hpath => (mem_themeFiles_iff h hdir).mp hpath
  refine ⟨files, ⟨fun file => ⟨hbelow file, fun hfile => ?_⟩, ?_⟩, hpaths⟩
  · have htaken : file.path dir ∈ themeFiles tree dir :=
      (mem_themeFiles_iff h hdir).mpr ⟨file, hfile, rfl⟩
    rw [hpaths] at htaken
    obtain ⟨other, hother, hpath⟩ := List.mem_map.mp htaken
    rwa [← (hbelow other hother).eq_of_path_eq h hwritten hfile hpath]
  · -- Sorted without repetitions is strictly ascending, as the paths tell the names.
    have hsorted : (themeFiles tree dir).Pairwise fun a b => Path.le a b ∧ a ≠ b :=
      (Path.pairwise_mergeSort_le _).and (nodup_themeFiles h hdir)
    rw [hpaths, List.pairwise_map] at hsorted
    refine hsorted.imp_of_mem fun {a b} ha hb hab => ?_
    have hle := (Path.le_follow_iff hwritten ((hbelow a ha).isName h)
      ((hbelow b hb).isName h)).mp hab.1
    refine (List.le_iff_lt_or_eq.mp hle).resolve_right fun heq => hab.2 ?_
    have hnames : a.names = b.names := List.map_injective_iff.mpr Text.utf8_injective heq
    exact congrArg dir.follow hnames

/-- **It does not matter in which order the files are found**: if the files that a `walk` through
the directory comes by are those of `filesBelow`, then the themes among them stand in the one order
of `themeFiles` when they are sorted. -/
theorem mergeSort_walk (h : tree.root.WellFormed) (hdir : tree.isDirectory dir)
    {walk : List Path} (hwalk : (walk.filter tree.isFile).Perm (tree.filesBelow dir)) :
    (walk.filter (isThemeFile tree)).mergeSort Path.le = themeFiles tree dir := by
  have hwritten := FileTree.written_ne_nil_of_isDirectory hdir
  have hthemes : ∀ list : List Path,
      list.filter (isThemeFile tree) = (list.filter tree.isFile).filter (isThemeFile tree) := by
    intro list
    rw [List.filter_filter]
    refine List.filter_congr fun path _ => ?_
    unfold isThemeFile
    cases tree.isFile path <;> simp
  have hperm : ((walk.filter (isThemeFile tree)).mergeSort Path.le).Perm (themeFiles tree dir) := by
    refine (List.mergeSort_perm _ _).trans (List.Perm.trans ?_ (List.mergeSort_perm _ _).symm)
    rw [hthemes]
    exact hwalk.filter _
  refine List.Perm.eq_of_pairwise (fun a b ha hb hab hba => ?_) (Path.pairwise_mergeSort_le _)
    (Path.pairwise_mergeSort_le _) hperm
  obtain ⟨file, hfile, rfl⟩ := (mem_themeFiles_iff h hdir).mp (hperm.mem_iff.mp ha)
  obtain ⟨other, hother, rfl⟩ := (mem_themeFiles_iff h hdir).mp hb
  exact congrArg dir.follow (Path.eq_of_components_follow_eq hwritten (hfile.isName h)
    (hother.isName h) (Path.components_eq_of_le_of_le hab hba))

/-! ## One file after the other -/

section MapM

variable {α β ε : Type} {f : α → Except ε β}

/-- Two lists are related by `R` just when they are by `S`, if for the elements of the first list
both are the same. -/
theorem forall₂_congr_of_mem {R S : α → β → Prop} {list : List α} {values : List β}
    (h : ∀ a ∈ list, ∀ b, R a b ↔ S a b) :
    List.Forall₂ R list values ↔ List.Forall₂ S list values := by
  induction list generalizing values with
  | nil => rw [List.forall₂_nil_left_iff, List.forall₂_nil_left_iff]
  | cons a rest ih =>
    obtain ⟨ha, hrest⟩ := List.forall_mem_cons.mp h
    simp only [List.forall₂_cons_left_iff, ha, ih hrest]

/-- With `mapM` a list has values if `f` gives one for each of its elements. -/
theorem mapM_eq_ok_iff {list : List α} {values : List β} :
    list.mapM f = .ok values ↔ List.Forall₂ (fun a b => f a = .ok b) list values := by
  induction list generalizing values with
  | nil =>
    rw [List.mapM_nil, List.forall₂_nil_left_iff]
    exact ⟨fun h => (Except.ok.inj h).symm, fun h => congrArg _ h.symm⟩
  | cons a rest ih =>
    rw [List.mapM_cons, List.forall₂_cons_left_iff]
    constructor
    · intro h
      cases ha : f a with
      | error fault => rw [ha] at h; cases h
      | ok b =>
        cases hrest : rest.mapM f with
        | error fault => rw [ha, hrest] at h; cases h
        | ok bs =>
          rw [ha, hrest] at h
          exact ⟨b, bs, rfl, ih.mp hrest, (Except.ok.inj h).symm⟩
    · intro h
      obtain ⟨b, bs, ha, hrest, rfl⟩ := h
      rw [ha, ih.mpr hrest]
      rfl

/-- With `mapM` a list fails with the error of the first element for which `f` gives no value. -/
theorem mapM_eq_error_iff {list : List α} {error : ε} :
    list.mapM f = .error error ↔ ∃ done a rest, list = done ++ a :: rest ∧
      (∀ earlier ∈ done, ∃ b, f earlier = .ok b) ∧ f a = .error error := by
  induction list with
  | nil =>
    refine iff_of_false (fun h => ?_) (by simp)
    cases h
  | cons first rest ih =>
    rw [List.mapM_cons]
    constructor
    · intro h
      cases hfirst : f first with
      | error fault =>
        rw [hfirst] at h
        obtain rfl := Except.error.inj h
        exact ⟨[], first, rest, rfl, fun _ ha => absurd ha List.not_mem_nil, hfirst⟩
      | ok b =>
        cases hrest : rest.mapM f with
        | ok bs => rw [hfirst, hrest] at h; cases h
        | error fault =>
          rw [hfirst, hrest] at h
          obtain ⟨done, a, more, rfl, hdone, ha⟩ := ih.mp (hrest.trans h)
          exact ⟨first :: done, a, more, rfl, List.forall_mem_cons.mpr ⟨⟨b, hfirst⟩, hdone⟩, ha⟩
    · intro h
      obtain ⟨done, a, more, hsplit, hdone, ha⟩ := h
      cases done with
      | nil =>
        obtain ⟨rfl, rfl⟩ := List.cons.inj hsplit
        rw [ha]
        rfl
      | cons first' done =>
        obtain ⟨rfl, rfl⟩ := List.cons.inj hsplit
        obtain ⟨⟨b, hfirst⟩, hdone⟩ := List.forall_mem_cons.mp hdone
        rw [hfirst, ih.mpr ⟨done, a, more, rfl, hdone, ha⟩]
        rfl

end MapM

/-! ## Directories -/

/-- The `result` is a module for each of the `files`, in their order, which it `Embeds`, or the
fault of the first file that makes none, and nothing else. -/
structure Answers (dir : Path) (files : List ThemeFile) (result : Except Fault (List Module)) :
    Prop where
  ok_iff : ∀ modules, result = .ok modules ↔ List.Forall₂ ThemeFile.Embeds files modules
  error_iff : ∀ fault, result = .error fault ↔ ∃ done file rest, files = done ++ file :: rest ∧
    (∀ earlier ∈ done, ∃ module, ThemeFile.Embeds earlier module) ∧ file.Faulty dir fault

/-- What `Module.ofFile` makes of the theme files below a directory, one after the other, `Answers`
for them. -/
theorem answers_mapM (h : tree.root.WellFormed) (hwritten : dir.written ≠ [])
    {files : List ThemeFile} (hbelow : ∀ file ∈ files, file.Below tree dir) :
    Answers dir files (files.mapM fun file => Module.ofFile tree (file.path dir)) := by
  have hmade : ∀ {file module}, file ∈ files →
      (Module.ofFile tree (file.path dir) = .ok module ↔ file.Embeds module) :=
    fun {file module} hfile => (hbelow file hfile).ofFile_eq_ok_iff h hwritten
  have hfaulty : ∀ {file fault}, file ∈ files →
      (Module.ofFile tree (file.path dir) = .error fault ↔ file.Faulty dir fault) :=
    fun {file fault} hfile => (hbelow file hfile).ofFile_eq_error_iff h hwritten
  refine ⟨fun modules => ?_, fun fault => ?_⟩
  · rw [mapM_eq_ok_iff]
    exact forall₂_congr_of_mem fun file hfile module => hmade hfile
  · rw [mapM_eq_error_iff]
    refine exists_congr fun done => exists_congr fun file => exists_congr fun rest => ?_
    refine and_congr_right fun hsplit => ?_
    subst hsplit
    have hdone : ∀ earlier ∈ done, earlier ∈ done ++ file :: rest :=
      fun earlier hearlier => List.mem_append_left _ hearlier
    have hfile : file ∈ done ++ file :: rest := by simp
    refine and_congr ?_ (hfaulty hfile)
    exact forall₂_congr fun earlier hearlier =>
      exists_congr fun module => hmade (hdone earlier hearlier)

/-- **What comes of a directory.** The theme files below it can be listed by `Lists`, in the order
of their paths, and in one way only (every list of `others` is `files`), whatever the order in which
a `walk` finds them. The `call` `Answers` for them: it embeds a module for each, made of its own
stem and text; or, if there is one that makes none, nothing but the fault of the first of these
comes of it. -/
theorem call_directory (h : tree.root.WellFormed) {manifestDir written : Text}
    (hdir : tree.isDirectory (Path.join ⟨manifestDir⟩ ⟨written⟩)) :
    let dir := Path.join ⟨manifestDir⟩ ⟨written⟩
    ∃ files, Lists tree dir files ∧ (∀ others, Lists tree dir others → others = files) ∧
      (∀ walk : List Path, (walk.filter tree.isFile).Perm (tree.filesBelow dir) →
        (walk.filter (isThemeFile tree)).mergeSort Path.le = files.map (·.path dir)) ∧
      Answers dir files (call tree (some manifestDir) .directory [.string written]) := by
  intro dir
  obtain ⟨files, hlists, hpaths⟩ := exists_lists h hdir
  have hcall : call tree (some manifestDir) .directory [.string written]
      = files.mapM fun file => Module.ofFile tree (file.path dir) := by
    show _ = files.mapM (Module.ofFile tree ∘ (·.path dir))
    rw [← List.mapM_map, ← hpaths]
    show (if tree.isDirectory dir then _ else _) = _
    rw [if_pos hdir]
  refine ⟨files, hlists, fun others hothers => hothers.unique hlists, fun walk hwalk => ?_, ?_⟩
  · rw [mergeSort_walk h hdir hwalk, hpaths]
  · rw [hcall]
    exact answers_mapM h (FileTree.written_ne_nil_of_isDirectory hdir)
      fun file => (hlists.mem_iff file).mp

/-- Two themes at two depths, the deeper one first although its path is not the first text;
a name that is nothing but an extension, one in capitals and a directory are no themes. A
walk finds them in another order. -/
theorem call_directory_nested :
    let tree : FileTree :=
      { root := .directory
          [(['t'], .directory
            [("a-b.tpl".toList, .file "{Title}".toUTF8), (".html".toList, .file "".toUTF8),
              ("c.HTML".toList, .file "".toUTF8), ("d.html".toList, .directory []),
              (['a'], .directory [("x.y.txt".toList, .file "".toUTF8)])])] }
    let dir := Path.join ⟨"/".toList⟩ ⟨"t/".toList⟩
    let files : List ThemeFile :=
      [⟨[['a']], "x.y".toList, "txt".toList, "".toUTF8⟩,
        ⟨[], "a-b".toList, "tpl".toList, "{Title}".toUTF8⟩]
    tree.root.WellFormed ∧ tree.isDirectory dir ∧ Lists tree dir files ∧
      call tree (some "/".toList) .directory [.string "t/".toList]
        = .ok [⟨"x_y".toList, [], Manifest.ofText []⟩,
          ⟨"a_b".toList, "{Title}".toList, Manifest.ofText "{Title}".toList⟩] := by
  intro tree dir files
  have hwellFormed : tree.root.WellFormed := by
    repeat' first
      | exact .file _
      | exact .empty
      | refine .entry ⟨by decide, by decide⟩ (by decide) ?_ ?_
  have hdir : tree.isDirectory dir := by decide +kernel
  have hbelow : ∀ file ∈ files, file.Below tree dir := by
    refine List.forall_mem_cons.mpr ⟨⟨by rfl, by decide, by decide⟩, ?_⟩
    exact List.forall_mem_cons.mpr ⟨⟨by rfl, by decide, by decide⟩, fun _ h => nomatch h⟩
  have hlists : Lists tree dir files := by
    refine ⟨fun file => ⟨hbelow file, fun hfile => ?_⟩, by decide +kernel⟩
    have hfound : (tree.filesBelow dir).filter (isThemeFile tree)
        = files.reverse.map (·.path dir) := by decide +kernel
    have htaken := (mem_themeFiles_iff hwellFormed hdir).mpr ⟨file, hfile, rfl⟩
    rw [themeFiles, List.mem_mergeSort, hfound] at htaken
    obtain ⟨other, hother, hpath⟩ := List.mem_map.mp htaken
    have hmem := List.mem_reverse.mp hother
    rwa [hfile.eq_of_path_eq hwellFormed (by decide) (hbelow other hmem) hpath.symm]
  obtain ⟨found, -, hunique, -, hanswers⟩ := call_directory hwellFormed hdir
  rw [← hunique files hlists] at hanswers
  refine ⟨hwellFormed, hdir, hlists, (hanswers.ok_iff _).mpr ?_⟩
  refine .cons ⟨by rfl, ?_, rfl⟩ (.cons ⟨by rfl, ?_, rfl⟩ .nil)
  · decide +kernel
  · decide +kernel

end Stencil.Embed
