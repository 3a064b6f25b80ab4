import Stencil.Block.Tag
import Stencil.Variable.Form
import Stencil.Proofs.Block.Tag

/-!
# Templates as forests

A template that is properly nested is the print of a forest: text, variable tags,
and blocks that have a forest of their own between their tags. A forest is
well-formed when its text has no brace that opens, its tags are no block tags, and
no block lies, at any depth, inside a block of the same name (`WellFormed`).

What is done to the blocks of a template is done to the forest by `graft`, which
puts something made of the children of a block in the place of the block.
Unwrapping and erasing the blocks of a name are grafts, and a graft that brings
in no blocks of its own leaves a well-formed forest well-formed
(`wellFormed_graft`).
-/

namespace Stencil

open Block

/-- A forest: what its first node is, and the forest of the nodes after it. -/
inductive Forest where
  | nil
  | text (content : Text) (rest : Forest)
  | tag (inside : Text) (rest : Forest)
  | block (name : Text) (children rest : Forest)
  deriving DecidableEq

namespace Forest

/-- The template that a forest stands for, its nodes with their tags in a row. -/
def print : Forest → Text
  | nil => []
  | text content rest => content ++ rest.print
  | tag inside rest => Variable.tag inside ++ rest.print
  | block name children rest =>
    openTag name ++ children.print ++ closeTag name ++ rest.print

/-- The names of the blocks of a forest, those inside other blocks included. -/
def names : Forest → List Text
  | nil => []
  | text _ rest => rest.names
  | tag _ rest => rest.names
  | block name children rest => name :: (children.names ++ rest.names)

/-- What may stand between the braces of a variable tag: no braces, and neither `block:` nor
`/block:` at the front. -/
def IsInside (inside : Text) : Prop :=
  '{' ∉ inside ∧ '}' ∉ inside ∧ ¬ openMark.tail <+: inside ∧ ¬ closeMark.tail <+: inside

instance (inside : Text) : Decidable (IsInside inside) :=
  inferInstanceAs (Decidable (_ ∧ _))

/-- A `text` has no brace that opens, the inside of each `tag` is an `IsInside`, and no `block` lies
inside a block of the same name. -/
def WellFormed : Forest → Prop
  | nil => True
  | text content rest => '{' ∉ content ∧ rest.WellFormed
  | tag inside rest => IsInside inside ∧ rest.WellFormed
  | block name children rest =>
    isName name ∧ name ∉ children.names ∧ children.WellFormed ∧ rest.WellFormed

/-- Whether a forest is `WellFormed` can be computed. -/
instance decidableWellFormed : (forest : Forest) → Decidable forest.WellFormed
  | nil => inferInstanceAs (Decidable True)
  | text content rest =>
    have := decidableWellFormed rest
    inferInstanceAs (Decidable ('{' ∉ content ∧ rest.WellFormed))
  | tag inside rest =>
    have := decidableWellFormed rest
    inferInstanceAs (Decidable (IsInside inside ∧ rest.WellFormed))
  | block name children rest =>
    have := decidableWellFormed children
    have := decidableWellFormed rest
    inferInstanceAs (Decidable
      (isName name ∧ name ∉ children.names ∧ children.WellFormed ∧ rest.WellFormed))

/-! ## Taking blocks apart -/

/-- The nodes of one forest and then those of the forest `after`. -/
def append : Forest → Forest → Forest
  | nil, after => after
  | text content rest, after => text content (rest.append after)
  | tag inside rest, after => tag inside (rest.append after)
  | block name children rest, after => block name children (rest.append after)

/-- The forest with `swap children` in the place of each block that the `pattern` admits. The other
blocks stay, and the same is done inside them. -/
def graft (pattern : Pattern) (swap : Forest → Forest) : Forest → Forest
  | nil => nil
  | text content rest => text content (rest.graft pattern swap)
  | tag inside rest => tag inside (rest.graft pattern swap)
  | block name children rest =>
    if pattern.admits name then (swap children).append (rest.graft pattern swap)
    else block name (children.graft pattern swap) (rest.graft pattern swap)

/-- The forest with the `children` of each block of the name `target` in the place of the block. -/
def unwrap (target : Text) : Forest → Forest :=
  graft (.named target) fun children => children

/-- The forest without the blocks of the name `target`. -/
def erase (target : Text) : Forest → Forest :=
  graft (.named target) fun _ => nil

/-- The nodes of a forest that are no `block`s. -/
def leaves : Forest → Forest
  | nil => nil
  | text content rest => text content rest.leaves
  | tag inside rest => tag inside rest.leaves
  | block _ _ rest => rest.leaves

/-- The `print` of two forests in a row is that of the one and then that of the other. -/
theorem print_append (front after : Forest) :
    (front.append after).print = front.print ++ after.print := by
  induction front with
  | nil => rfl
  | text content rest ih => simp [append, print, ih]
  | tag inside rest ih => simp [append, print, ih]
  | block name children rest _ ih => simp [append, print, ih]

/-- The `names` of two forests in a row are those of the one and then those of the other. -/
theorem names_append (front after : Forest) :
    (front.append after).names = front.names ++ after.names := by
  induction front with
  | nil => rfl
  | text content rest ih => exact ih
  | tag inside rest ih => exact ih
  | block name children rest _ ih => simp [append, names, ih]

/-- Two forests in a row are `WellFormed` if each of them is. -/
theorem wellFormed_append {front after : Forest} (hfront : front.WellFormed)
    (hafter : after.WellFormed) : (front.append after).WellFormed := by
  induction front with
  | nil => exact hafter
  | text content rest ih => exact ⟨hfront.1, ih hfront.2⟩
  | tag inside rest ih => exact ⟨hfront.1, ih hfront.2⟩
  | block name children rest _ ih =>
    obtain ⟨hname, hfree, hchildren, hrest⟩ := hfront
    exact ⟨hname, hfree, hchildren, ih hrest⟩

/-- How forests in a row are bracketed by `append` does not matter. -/
theorem append_assoc (front middle after : Forest) :
    (front.append middle).append after = front.append (middle.append after) := by
  induction front with
  | nil => rfl
  | text content rest ih => simp only [append, ih]
  | tag inside rest ih => simp only [append, ih]
  | block name children rest _ ih => simp only [append, ih]

/-- Where a block is admitted by the pattern, `swap children` takes its place. -/
theorem graft_of_admits {pattern : Pattern} {name : Text} (h : pattern.admits name)
    (swap : Forest → Forest) (children rest : Forest) :
    (block name children rest).graft pattern swap
      = (swap children).append (rest.graft pattern swap) :=
  if_pos h

/-- Where a block is not admitted it stays. -/
theorem graft_of_not_admits {pattern : Pattern} {name : Text} (h : ¬ pattern.admits name)
    (swap : Forest → Forest) (children rest : Forest) :
    (block name children rest).graft pattern swap
      = block name (children.graft pattern swap) (rest.graft pattern swap) :=
  if_neg h

/-- What `swap` puts in the place of `children` has no blocks that were not among these, and is
`WellFormed` if these are. -/
structure Tame (swap : Forest → Forest) : Prop where
  names : ∀ children, (swap children).names ⊆ children.names
  wellFormed : ∀ {children : Forest}, children.WellFormed → (swap children).WellFormed

/-- To put the `children` in the place of their block is `Tame`. -/
theorem tame_id : Tame fun children => children :=
  ⟨fun _ => List.Subset.refl _, id⟩

/-- To put nothing in the place of a block is `Tame`. -/
theorem tame_nil : Tame fun _ => nil :=
  ⟨fun _ => List.nil_subset _, fun _ => trivial⟩

/-- A `graft` that is `Tame` adds no name. -/
theorem names_graft_subset (pattern : Pattern) {swap : Forest → Forest} (hswap : Tame swap)
    (forest : Forest) : (forest.graft pattern swap).names ⊆ forest.names := by
  induction forest with
  | nil => exact List.Subset.refl _
  | text content rest ih => exact ih
  | tag inside rest ih => exact ih
  | block name children rest ihc ihr =>
    by_cases hadmits : pattern.admits name
    · rw [graft_of_admits hadmits, names_append]
      refine List.Subset.trans ?_ (List.subset_cons_self name _)
      exact List.append_subset.mpr
        ⟨List.subset_append_of_subset_left _ (hswap.names children),
          List.subset_append_of_subset_right _ ihr⟩
    · rw [graft_of_not_admits hadmits]
      refine List.cons_subset_cons name (List.append_subset.mpr ?_)
      exact ⟨List.subset_append_of_subset_left _ ihc, List.subset_append_of_subset_right _ ihr⟩

/-- A `graft` that is `Tame` keeps a forest `WellFormed`. -/
theorem wellFormed_graft (pattern : Pattern) {swap : Forest → Forest} (hswap : Tame swap)
    {forest : Forest} (h : forest.WellFormed) : (forest.graft pattern swap).WellFormed := by
  induction forest with
  | nil => trivial
  | text content rest ih => exact ⟨h.1, ih h.2⟩
  | tag inside rest ih => exact ⟨h.1, ih h.2⟩
  | block name children rest ihc ihr =>
    obtain ⟨hname, hfree, hchildren, hrest⟩ := h
    by_cases hadmits : pattern.admits name
    · rw [graft_of_admits hadmits]
      exact wellFormed_append (hswap.wellFormed hchildren) (ihr hrest)
    · rw [graft_of_not_admits hadmits]
      refine ⟨hname, fun hmem => hfree ?_, ihc hchildren, ihr hrest⟩
      exact names_graft_subset pattern hswap children hmem

/-- Without its blocks a `WellFormed` forest is its `leaves`. -/
theorem graft_any_nil {forest : Forest} (h : forest.WellFormed) :
    forest.graft .any (fun _ => nil) = forest.leaves := by
  induction forest with
  | nil => rfl
  | text content rest ih => rw [graft, ih h.2, leaves]
  | tag inside rest ih => rw [graft, ih h.2, leaves]
  | block name children rest _ ih =>
    obtain ⟨hname, -, -, hrest⟩ := h
    rw [graft_of_admits (admits_any_iff.mpr hname), append, ih hrest, leaves]

/-- The `leaves` of a forest have no blocks. -/
theorem names_leaves (forest : Forest) : forest.leaves.names = [] := by
  induction forest with
  | nil => rfl
  | text content rest ih => exact ih
  | tag inside rest ih => exact ih
  | block name children rest _ ih => exact ih

end Forest

end Stencil
