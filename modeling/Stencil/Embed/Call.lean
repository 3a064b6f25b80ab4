import Stencil.Embed.Manifest
import Stencil.Embed.ModuleName
import Stencil.FileTree
import Stencil.Text.Quoted

/-!
# Embedding themes

A program embeds themes by calls that are answered while it is compiled: with a
name and a text, with the path of a file, or with the path of a directory whose
theme files are embedded one by one. What comes of a call are modules, one for
each theme, or a message for the programmer. Paths are relative to the directory
of the program's manifest.
-/

namespace Stencil.Embed

/-! ## Modules -/

/-- A theme as a program holds it: its `name`, its `text`, and the `manifest` of the names in it. -/
structure Module where
  name : Text
  text : Text
  manifest : Manifest

/-- Why a theme could not be embedded. -/
inductive Fault where
  | missingString
  | expectedString
  | expectedComma
  | unexpectedToken
  | noManifestDirectory
  | directoryNotFound (path : Path)
  | fileNotFound (path : Path)
  | unreadable (path : Path)
  | invalidName (name : Text)
  deriving DecidableEq

/-- A fault in words. -/
def Fault.message : Fault → Text
  | .missingString => "unexpected end of input, expected string literal".toList
  | .expectedString => "expected string literal".toList
  | .expectedComma => "expected `,`".toList
  | .unexpectedToken => "unexpected token".toList
  | .noManifestDirectory => "CARGO_MANIFEST_DIR not set".toList
  | .directoryNotFound path => "Directory not found: ".toList ++ Quoted.quote path.written
  | .fileNotFound path => "File not found: ".toList ++ Quoted.quote path.written
  | .unreadable path => "Failed to read ".toList ++ path.written
  | .invalidName name => "`".toList ++ name ++ "` cannot be used as a module name".toList

/-- The module of a theme with a name and a text: `moduleName?` converts the name, and where it does
not, the fault is `invalidName`. -/
def Module.ofText (name text : Text) : Except Fault Module :=
  match moduleName? name with
  | none => .error (.invalidName name)
  | some converted => .ok ⟨converted, text, Manifest.ofText text⟩

/-- The module of a theme in a file, named by `Path.stem?` for the file without its extension. -/
def Module.ofFile (tree : FileTree) (path : Path) : Except Fault Module :=
  match tree.readText? path with
  | none => .error (.unreadable path)
  | some text => Module.ofText (path.stem?.getD []) text

/-! ## Theme files -/

/-- The extensions of theme files. -/
def themeExtensions : List Text :=
  ["html".toList, "htm".toList, "tpl".toList, "txt".toList]

/-- The path leads to a file whose extension is one of the `themeExtensions`. -/
def isThemeFile (tree : FileTree) (path : Path) : Bool :=
  tree.isFile path && path.extension?.any themeExtensions.contains

/-- The files below `dir` at any depth for which `isThemeFile` holds, in the order `Path.le`. -/
def themeFiles (tree : FileTree) (dir : Path) : List Path :=
  ((tree.filesBelow dir).filter (isThemeFile tree)).mergeSort Path.le

/-! ## Calls -/

/-- How themes are embedded: from a `text` that is given, from a `file`, or from the files of a
`directory`. -/
inductive Kind where
  | text
  | file
  | directory
  deriving DecidableEq

/-- A literal among the arguments of a call. -/
inductive Literal where
  | string (content : Text)
  | integer (value : Int)
  deriving DecidableEq

/-- The string with which the arguments begin, and those behind it; `missingString` without any
argument, and `expectedString` where the first one is no string. -/
def takeString : List Literal → Except Fault (Text × List Literal)
  | [] => .error .missingString
  | .integer _ :: _ => .error .expectedString
  | .string content :: rest => .ok (content, rest)

/-- The string of `takeString`; `unexpectedToken` if anything stands behind it. -/
def onlyString (arguments : List Literal) : Except Fault Text := do
  let (content, rest) ← takeString arguments
  if rest.isEmpty then .ok content else .error .unexpectedToken

/-- The two strings that the arguments are; `expectedComma` if nothing stands behind the first
one. -/
def twoStrings (arguments : List Literal) : Except Fault (Text × Text) := do
  let (first, rest) ← takeString arguments
  if rest.isEmpty then .error .expectedComma
  else return (first, ← onlyString rest)

/-- A path below the directory of the manifest; `noManifestDirectory` where none is known. -/
def manifestPath (manifestDir : Option Text) (written : Text) : Except Fault Path :=
  match manifestDir with
  | none => .error .noManifestDirectory
  | some dir => .ok (Path.join ⟨dir⟩ ⟨written⟩)

/-- The modules that a call embeds, or the first fault on the way to them. A `directory` embeds each
of its `themeFiles` in order. -/
def call (tree : FileTree) (manifestDir : Option Text) (kind : Kind)
    (arguments : List Literal) : Except Fault (List Module) :=
  match kind with
  | .text => do
    let (name, text) ← twoStrings arguments
    return [← Module.ofText name text]
  | .file => do
    let path ← manifestPath manifestDir (← onlyString arguments)
    if tree.isFile path then return [← Module.ofFile tree path]
    else .error (.fileNotFound path)
  | .directory => do
    let dir ← manifestPath manifestDir (← onlyString arguments)
    if tree.isDirectory dir then (themeFiles tree dir).mapM (Module.ofFile tree)
    else .error (.directoryNotFound dir)

end Stencil.Embed
