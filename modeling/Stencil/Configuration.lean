import Stencil.Context
import Stencil.Toml.Document

/-!
# Configurations

What a site says about its data: the locale, whether the bundled data files are
searched, further directories to search, and the data files to merge at the start.
A configuration is read from a TOML file, in which every part may be missing and
keys that mean nothing are passed over. Directories in it are relative to the
directory of the file.
-/

namespace Stencil

/-- Where the data of a site comes from: the `locale` of its strings, whether `bundledData` is
searched, the `dataPaths` that are searched, and the files to `preload`. -/
structure Configuration where
  locale : Text := "en".toList
  bundledData : Bool := true
  dataPaths : List Path := []
  preload : List Text := []

namespace Configuration

/-- The string that a value is, if it is one. -/
def string? : Toml.Value → Option Text
  | .scalar (.string content) => some content
  | _ => none

/-- The truth value that a value is, if it is one. -/
def boolean? : Toml.Value → Option Bool
  | .scalar (.boolean value) => some value
  | _ => none

/-- The strings of an array, if each of its items is one by `string?`. -/
def strings? : Toml.Value → Option (List Text)
  | .array items => items.mapM string?
  | _ => none

/-- What stands under a key as `read?` reads it, `default` if the key is missing, and `none` if
something else stands there. -/
def field? {α : Type} (read? : Toml.Value → Option α) (default : α) (key : Text)
    (root : Toml.Item.Entries) : Option α :=
  match root.get? key with
  | none => some default
  | some (.value value) => read? value
  | some _ => none

/-- The configuration that the root table of a TOML document holds. Each field is read by `field?`
with the default that `Configuration` has for it. -/
def ofToml? (root : Toml.Item.Entries) : Option Configuration := do
  return {
    locale := ← field? string? "en".toList "locale".toList root
    bundledData := ← field? boolean? true "bundled_data".toList root
    dataPaths := (← field? strings? [] "data_paths".toList root).map Path.mk
    preload := ← field? strings? [] "preload".toList root }

/-- The configuration with its `dataPaths` taken from the directory of its `file`. -/
def relativeTo (file : Path) (configuration : Configuration) : Configuration :=
  match file.parent? with
  | none => configuration
  | some dir => { configuration with dataPaths := configuration.dataPaths.map dir.join }

/-- Reads a configuration from its `file`: `configUnreadable` where the file has no text, and
`configInvalid` where `ofToml?` does not read its text. -/
def load (tree : FileTree) (file : Path) : Except Error Configuration :=
  match tree.readText? file with
  | none => .error (.configUnreadable file)
  | some text =>
    match (Toml.ofText? text).bind ofToml? with
    | none => .error (.configInvalid file)
    | some configuration => .ok (configuration.relativeTo file)

/-- The context that the configuration describes: its search paths, the `bundled` directory first if
`bundledData` is set, then the files of `preload` in order, then the `locale`. -/
def context (tree : FileTree) (bundled : Path) (configuration : Configuration) :
    Except Error Context := do
  let start : Context := if configuration.bundledData then Context.searching bundled else {}
  let searching := configuration.dataPaths.foldl (fun context path => context.addPath path) start
  let filled ← configuration.preload.foldlM (fun context name => context.load tree name) searching
  filled.loadLocale tree configuration.locale

end Configuration

end Stencil
