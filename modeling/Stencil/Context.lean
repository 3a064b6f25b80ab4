import Stencil.Error
import Stencil.FileTree
import Stencil.Value.Merge
import Stencil.Yaml.Document

/-!
# The data context

The values that a theme is rendered from, with the directories in which data files
are looked for and the files that have been merged so far. Loading a data file
merges it over the values, once: a file that has been merged, under whatever name,
is not merged again. Loading a locale instead puts the strings of that language in
the place of those of any other, under a key of its own.

Whatever fails leaves the context as it was.
-/

namespace Stencil

/-- The `values` to render from, the `searchPaths` where their files are looked for, and the places
of the files that have been `loaded`. -/
structure Context where
  values : Fields := []
  searchPaths : List Path := []
  loaded : List Path := []

namespace Context

/-- A context without values that looks for files in the directory `dir`. -/
def searching (dir : Path) : Context := { searchPaths := [dir] }

/-! ## Files -/

/-- The fields of a data file. One that holds nothing, or nothing but an empty scalar, has no
fields; every other file whose value is no `.map` is `noMapping`. -/
def readFields (tree : FileTree) (path : Path) : Except Error Fields :=
  match tree.readText? path with
  | none => .error (.dataInvalid path .unreadable)
  | some text =>
    match (Yaml.Datum.ofText? text).map Yaml.Datum.toValue with
    | none => .error (.dataInvalid path .malformed)
    | some (.map fields) => .ok fields
    | some (.text []) => .ok []
    | some _ => .error (.dataInvalid path .noMapping)

/-- Adds a directory behind the `searchPaths`, unless one of them is the `same`. -/
def addPath (path : Path) (context : Context) : Context :=
  if context.searchPaths.any (Path.same path) then context
  else { context with searchPaths := context.searchPaths ++ [path] }

/-- The file that a name means: an absolute path itself, and else the first file of that name below
the `searchPaths`. -/
def resolve? (tree : FileTree) (name : Text) (context : Context) : Option Path :=
  let path : Path := ⟨name⟩
  if path.isAbsolute then if tree.isFile path then some path else none
  else (context.searchPaths.map fun dir => dir.join path).find? tree.isFile

/-- The file at a path has been merged: its `canonical` path is among those `loaded`. -/
def isLoaded (tree : FileTree) (path : Path) (context : Context) : Bool :=
  context.loaded.any (Path.same (tree.canonical path))

/-- Merges the file that `resolve?` gives over the `values`, unless it `isLoaded`. Its `canonical`
path is then noted behind those `loaded`. -/
def load (tree : FileTree) (name : Text) (context : Context) : Except Error Context :=
  match context.resolve? tree name with
  | none => .error (.dataNotFound name)
  | some path =>
    if context.isLoaded tree path then .ok context
    else (readFields tree path).map fun fields =>
      { context with
        values := Fields.merge context.values fields
        loaded := context.loaded ++ [tree.canonical path] }

/-! ## Languages -/

/-- The key of the strings of the language in use. -/
def languageKey : Text := "lang".toList

/-- The directory below a search path that holds the strings of each locale. -/
def localesDirectory : Path := ⟨"locales".toList⟩

/-- The extension of the files of a locale. -/
def localeExtension : Text := "yml".toList

/-- The name of the data file of a locale, in `localesDirectory` and with `localeExtension`. -/
def localeFile (locale : Text) : Text :=
  localesDirectory.written ++ ['/'] ++ locale ++ ['.'] ++ localeExtension

/-- Puts the strings of a locale, which `localeFile` holds, under `languageKey` in the place of
those in use. -/
def loadLocale (tree : FileTree) (locale : Text) (context : Context) : Except Error Context :=
  match context.resolve? tree (localeFile locale) with
  | none => .error (.unsupportedLanguage locale)
  | some path => (readFields tree path).map fun strings =>
      { context with values := context.values.put languageKey (.map strings) }

/-- The locale of a file, if its name has the `localeExtension`. -/
def localeOf? (name : Text) (node : FileNode) : Option Text :=
  let (stem, extension) := Path.splitName name
  if node.isFile ∧ extension = some localeExtension then some stem else none

/-- The locales that have a file in `localesDirectory` below one of the `searchPaths`, in ascending
order and each once. -/
def locales (tree : FileTree) (context : Context) : List Text :=
  let files := context.searchPaths.flatMap fun dir => tree.entries (dir.join localesDirectory)
  ((files.filterMap fun (name, node) => localeOf? name node).mergeSort Text.bytesLE).eraseReps

/-! ## Values -/

/-- The value under a key. -/
def get? (key : Text) (context : Context) : Option Value :=
  context.values.get? key

/-- The text under a key, if what `get?` finds there is one. -/
def text? (key : Text) (context : Context) : Option Text :=
  (context.get? key).bind Value.text?

/-- There is a value under a key, one that `get?` finds. -/
def contains (key : Text) (context : Context) : Bool :=
  (context.get? key).isSome

/-- Writes a value under a key by `Keyed.put`; `missingKey` where the key is empty. -/
def insert (key : Text) (value : Value) (context : Context) : Except Error Context :=
  if key.isEmpty then .error .missingKey
  else .ok { context with values := context.values.put key value }

/-- Takes a key out of the `values` by `Keyed.erase`. -/
def remove (key : Text) (context : Context) : Context :=
  { context with values := context.values.erase key }

end Context

end Stencil
