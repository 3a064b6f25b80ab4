import Stencil.Proofs.FileTree.Below
import Stencil.Proofs.Text.Order

/-!
# Paths in order

Paths are compared component by component, and names by their bytes: that is the
lexicographic order of lists of bytes, where each component is its kind and the bytes of
its name (`le_iff`). So a directory comes before everything below it, and all that is
below it before a name that goes on where the name of the directory ends, whatever
character a slash is.

Of two rows of names behind one path the order is that of their names
(`le_follow_iff`).
-/

namespace Stencil.Path

/-! ## Components -/

/-- What a component is compared by: its `rank`, and then the bytes of a name. -/
def Component.key (component : Component) : List UInt8 :=
  UInt8.ofNat (Component.rank component) ::
    match component with
    | .name name => Text.utf8 name
    | .root | .here | .up => []

/-- A component is told by its `key`. -/
theorem Component.key_injective : Function.Injective Component.key := by
  intro a b h
  cases a <;> cases b <;> simp_all [Component.key, Component.rank, Text.utf8_injective.eq_iff]

/-- By `Component.le` components are compared by their keys. -/
theorem Component.le_iff {a b : Component} :
    Component.le a b ↔ Component.key a ≤ Component.key b := by
  cases a <;> cases b <;>
    simp [Component.le, Component.key, Component.rank, List.cons_le_cons_iff, Text.bytesLE_iff]

/-- By `componentsLE` lists of components are compared by their keys. -/
theorem componentsLE_iff : ∀ {a b : List Component},
    componentsLE a b ↔ a.map Component.key ≤ b.map Component.key
  | [], b => by simp [componentsLE]
  | first :: rest, [] => by simp [componentsLE]
  | first :: rest, other :: more => by
    rw [componentsLE, List.map_cons, List.map_cons, List.cons_le_cons_iff]
    split
    next heq =>
      rw [heq, componentsLE_iff]
      simp [List.lt_irrefl]
    next hne =>
      have hkey : Component.key first ≠ Component.key other :=
        fun heq => hne (Component.key_injective heq)
      rw [Component.le_iff, List.le_iff_lt_or_eq]
      simp [hkey]

/-- **Paths are compared by the keys of their components**: `le` is `≤` on the lists of `key`s. -/
theorem le_iff {a b : Path} :
    le a b ↔ a.components.map Component.key ≤ b.components.map Component.key :=
  componentsLE_iff

/-- Paths that `mergeSort le` has sorted ascend. -/
theorem pairwise_mergeSort_le (paths : List Path) :
    (paths.mergeSort le).Pairwise fun a b => le a b := by
  refine List.pairwise_mergeSort (fun a b c hab hbc => ?_) (fun a b => ?_) paths
  · exact le_iff.mpr (List.le_trans (le_iff.mp hab) (le_iff.mp hbc))
  · rw [Bool.or_eq_true, le_iff, le_iff]
    exact List.le_total _ _

/-! ## Rows of names -/

/-- Common components at the `front` do not count in `componentsLE`. -/
theorem componentsLE_append (a b : List Component) :
    ∀ front, componentsLE (front ++ a) (front ++ b) = componentsLE a b
  | [] => rfl
  | first :: front => by
    rw [List.cons_append, List.cons_append, componentsLE, if_pos rfl, componentsLE_append]

/-- By `componentsLE` names are compared by their bytes, `Text.utf8`. -/
theorem componentsLE_names_iff : ∀ {a b : List Text},
    componentsLE (a.map .name) (b.map .name) ↔ a.map Text.utf8 ≤ b.map Text.utf8
  | [], b => by simp [componentsLE]
  | first :: rest, [] => by simp [componentsLE]
  | first :: rest, other :: more => by
    rw [List.map_cons, List.map_cons, componentsLE, List.map_cons, List.map_cons,
      List.cons_le_cons_iff]
    split
    next heq =>
      rw [Component.name.inj heq, componentsLE_names_iff]
      simp [List.lt_irrefl]
    next hne =>
      have hbytes : Text.utf8 first ≠ Text.utf8 other :=
        fun heq => hne (congrArg _ (Text.utf8_injective heq))
      rw [Component.le, Text.bytesLE_iff, List.le_iff_lt_or_eq]
      simp [hbytes]

variable {dir : Path}

/-- **Rows of names behind one path**, as `follow` puts them there, are compared by their names. -/
theorem le_follow_iff (hwritten : dir.written ≠ []) {a b : List Text}
    (ha : ∀ name ∈ a, IsName name) (hb : ∀ name ∈ b, IsName name) :
    le (dir.follow a) (dir.follow b) ↔ a.map Text.utf8 ≤ b.map Text.utf8 := by
  rw [le, components_follow hwritten ha, components_follow hwritten hb, componentsLE_append,
    componentsLE_names_iff]

/-- Paths that come neither before nor after each other in `le` have the same `components`. -/
theorem components_eq_of_le_of_le {a b : Path} (hab : le a b) (hba : le b a) :
    a.components = b.components :=
  List.map_injective_iff.mpr Component.key_injective
    (List.le_antisymm (le_iff.mp hab) (le_iff.mp hba))

end Stencil.Path
