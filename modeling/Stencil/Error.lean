import Stencil.Path

/-!
# Errors

Rendering itself never fails: a variable without a value stays as it is, and a
block that nothing claims is taken out. Errors come from the edges, where a
template, a data file, a locale or a configuration is read or an argument is not
valid, and each one names the path, key or tag at fault.
-/

namespace Stencil

/-- What is wrong with a data file: its text cannot be read (`unreadable`), or is not YAML
(`malformed`), or has no mapping at the top level (`noMapping`). -/
inductive DataFault where
  | unreadable
  | malformed
  | noMapping
  deriving DecidableEq

/-- Why an operation failed, told in words by `Error.message`. -/
inductive Error where
  | themeNotFound (path : Path)
  | themeUnreadable (path : Path)
  | dataNotFound (name : Text)
  | dataInvalid (path : Path) (fault : DataFault)
  | unsupportedLanguage (locale : Text)
  | missingKey
  | unknownTimeTag (name : Text)
  | configUnreadable (path : Path)
  | configInvalid (path : Path)
  deriving DecidableEq

/-- A fault of a data file in words, as `Error.message` cites it. -/
def DataFault.message : DataFault → Text
  | .unreadable => "not a readable text file".toList
  | .malformed => "not a YAML document".toList
  | .noMapping => "expected a mapping at the top level".toList

/-- An error in words. -/
def Error.message : Error → Text
  | .themeNotFound path => "Theme file does not exist: ".toList ++ path.written
  | .themeUnreadable path => "Theme file is invalid: ".toList ++ path.written
  | .dataNotFound name => "Data file not found: ".toList ++ name
  | .dataInvalid path fault =>
    "Data file is invalid: ".toList ++ path.written ++ [':', ' '] ++ fault.message
  | .unsupportedLanguage locale => "Language is not supported: ".toList ++ locale
  | .missingKey =>
    "Themer does not allow pushing data to the data context without a key".toList
  | .unknownTimeTag name => "Invalid time/date tag: ".toList ++ name
  | .configUnreadable path => "Failed to read config file at ".toList ++ path.written
  | .configInvalid path => "Failed to parse config file at ".toList ++ path.written

end Stencil
