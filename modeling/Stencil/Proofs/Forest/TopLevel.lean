import Stencil.Proofs.Forest.Substitute

/-!
# Blocks at the top level

A block of a name lies at the top level of a forest if no other block is around it. Whatever
is done to other blocks, and to variables, such a block stays where it is: a pass goes over
its children, and so do repetitions of the blocks inside it. Blocks of its name may come to
lie between those that there were, when the blocks around them are repeated. So what is at the
top level before a change is there after it, in order and with the change made to its
children (`Change.sublist_topBodies_apply`), and this goes on for changes in a row.

All of these blocks are found in the print as regions of their own (`sublist_found_print`).
-/

namespace Stencil.Forest

open Block

/-- The children of the blocks of the name `target` that lie in no other block, in order. -/
def topBodies (target : Text) : Forest → List Forest
  | nil => []
  | text _ rest => rest.topBodies target
  | tag _ rest => rest.topBodies target
  | block name children rest =>
    if name = target then children :: rest.topBodies target else rest.topBodies target

variable {target : Text}

theorem topBodies_append (front after : Forest) :
    (front.append after).topBodies target = front.topBodies target ++ after.topBodies target := by
  induction front with
  | nil => rfl
  | text content rest ih => exact ih
  | tag inside rest ih => exact ih
  | block name children rest _ ih =>
    simp only [append, topBodies, ih]
    split
    next => rfl
    next => rfl

/-- The `topBodies` of a `WellFormed` forest are `WellFormed`. -/
theorem wellFormed_of_mem_topBodies {forest body : Forest} (hwf : forest.WellFormed)
    (h : body ∈ forest.topBodies target) : body.WellFormed := by
  induction forest with
  | nil => cases h
  | text content rest ih => exact ih hwf.2 h
  | tag inside rest ih => exact ih hwf.2 h
  | block name children rest _ ih =>
    obtain ⟨-, -, hchildren, hrest⟩ := hwf
    rw [topBodies] at h
    split at h
    next =>
      rcases List.mem_cons.mp h with rfl | h
      · exact hchildren
      · exact ih hrest h
    next => exact ih hrest h

/-! ## What changes leave -/

/-- By `substitute` a pass goes over each of the `topBodies`. -/
theorem topBodies_substitute (lookup : Text → Option Text) (forest : Forest) :
    (forest.substitute lookup).topBodies target
      = (forest.topBodies target).map (substitute lookup) := by
  induction forest with
  | nil => rfl
  | text content rest ih => exact ih
  | tag inside rest ih =>
    cases hlookup : lookup inside with
    | some printed =>
      rw [substitute_tag_of_some hlookup]
      exact ih
    | none =>
      rw [substitute_tag_of_none hlookup]
      exact ih
  | block name children rest _ ih =>
    simp only [substitute, topBodies, ih]
    split
    next => rfl
    next => rfl

/-- Where `graft` replaces other blocks each block stays, with the same done to its children. -/
theorem sublist_topBodies_graft {name : Text} (hne : name ≠ target) (swap : Forest → Forest)
    (forest : Forest) :
    ((forest.topBodies target).map (graft (.named name) swap)).Sublist
      ((forest.graft (.named name) swap).topBodies target) := by
  induction forest with
  | nil => exact List.Sublist.refl _
  | text content rest ih => exact ih
  | tag inside rest ih => exact ih
  | block other children rest _ ih =>
    by_cases hother : other = name
    · -- Other blocks may take the place of the one that is replaced.
      have hadmits : (Pattern.named name).admits other := admits_named_iff.mpr hother
      have htarget : other ≠ target := fun heq => hne (hother.symm.trans heq)
      rw [graft_of_admits hadmits, topBodies_append, topBodies, if_neg htarget]
      exact ih.trans (List.sublist_append_right _ _)
    · have hstays : ¬ (Pattern.named name).admits other := fun h => hother (admits_named_iff.mp h)
      rw [graft_of_not_admits hstays, topBodies, topBodies]
      split
      next => exact ih.cons_cons _
      next => exact ih

namespace Change

/-- **A change keeps the blocks that it is not about**: `topBodies` of another name stay there in
their order, with the same change made to them. -/
theorem sublist_topBodies_apply {change : Change} (h : target ∉ change.block?) (forest : Forest) :
    ((forest.topBodies target).map change.apply).Sublist
      ((change.apply forest).topBodies target) := by
  cases change with
  | graft name copies =>
    have hne : name ≠ target := fun heq => h (congrArg some heq)
    exact sublist_topBodies_graft hne (repeated copies) forest
  | substitute lookup =>
    show List.Sublist _ ((forest.substitute lookup).topBodies target)
    rw [topBodies_substitute]
    exact List.Sublist.refl _

/-- Changes in order keep the `topBodies` of a name that none of them is about. -/
theorem sublist_topBodies_applyAll {changes : List Change}
    (h : ∀ change ∈ changes, target ∉ change.block?) (forest : Forest) :
    ((forest.topBodies target).map (applyAll changes)).Sublist
      ((applyAll changes forest).topBodies target) := by
  induction changes generalizing forest with
  | nil =>
    show List.Sublist ((forest.topBodies target).map id) _
    rw [List.map_id]
    exact List.Sublist.refl _
  | cons change rest ih =>
    obtain ⟨hfirst, hothers⟩ := List.forall_mem_cons.mp h
    have hstep := (sublist_topBodies_apply hfirst forest).map (applyAll rest)
    rw [List.map_map] at hstep
    exact hstep.trans (ih hothers (change.apply forest))

end Change

/-! ## Blocks that are found -/

/-- The blocks of a name at the top level are a `Sublist` of its `blocksOf`. -/
theorem sublist_blocksOf (forest : Forest) :
    ((forest.topBodies target).map fun body => ⟨target, body.print⟩).Sublist
      (forest.blocksOf target) := by
  induction forest with
  | nil => exact List.Sublist.refl _
  | text content rest ih => exact ih
  | tag inside rest ih => exact ih
  | block name children rest _ ih =>
    rw [topBodies, blocksOf]
    split
    next heq =>
      subst heq
      exact (ih.trans (List.sublist_append_right _ _)).cons_cons _
    next => exact ih.trans (List.sublist_append_right _ _)

/-- The blocks of a name at the top level are found by `regions` in the print, in their order. -/
theorem sublist_found_print {forest : Forest} (htarget : isName target)
    (hwf : forest.WellFormed) :
    ((forest.topBodies target).map fun body => ⟨target, body.print⟩).Sublist
      (regions (.ofTag target) forest.print).found := by
  rw [ofTag_of_isName htarget, regions_print (isName_of_admits_named htarget) hwf, found_cut hwf]
  exact (sublist_blocksOf forest).trans (List.sublist_append_left _ _)

end Stencil.Forest
