import Stencil.Text.Basic

/-!
# YAML tokens

The smallest pieces of a YAML text that mean something. Where indentation begins
and ends a block there are tokens for it, so that the grammar of the tokens no
longer depends on columns.
-/

namespace Stencil.Yaml

/-- A piece of a YAML text, as `tokens?` reads it and the grammar takes it. -/
inductive Token where
  | versionDirective (major minor : Nat)
  | tagDirective (handle expansion : Text)
  | documentStart
  | documentEnd
  | streamEnd
  | blockSequenceStart
  | blockMappingStart
  | blockEnd
  | flowSequenceStart
  | flowSequenceEnd
  | flowMappingStart
  | flowMappingEnd
  | blockEntry
  | flowEntry
  | key
  | value
  | alias (name : Text)
  | anchor (name : Text)
  | tag (handle suffix : Text)
  | scalar (content : Text) (plain : Bool)
  deriving DecidableEq

end Stencil.Yaml
