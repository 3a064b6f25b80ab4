import Stencil.Value.Basic

/-!
# Merging values

The entries of one map are written over those of another. Where both hold a map
under a key the two are merged in turn; in every other case the new value stands
in place of the old one. Keys that were there keep their places, and new keys
follow in their own order.
-/

namespace Stencil

mutual

/-- A value after another one is written over it, `none` where there was nothing. -/
def Value.over (old : Option Value) : Value → Value
  | .map entries =>
    match old with
    | some (.map present) => .map (Fields.merge present entries)
    | _ => .map entries
  | .text content => .text content
  | .list items => .list items

/-- The `fields` after further fields are written over them by `Value.over`, in their order. -/
def Fields.merge (fields : List (Text × Value)) : List (Text × Value) → List (Text × Value)
  | [] => fields
  | (key, value) :: rest =>
    Fields.merge (Keyed.put key (Value.over (Keyed.get? key fields) value) fields) rest

end

end Stencil
