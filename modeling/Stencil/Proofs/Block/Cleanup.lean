import Mathlib.Logic.Function.Iterate
import Mathlib.Logic.Relation
import Stencil.Proofs.Block.Scan

/-!
# What is left when every region is taken out

`removeAll` takes out the regions of a text over and over, as long as there is a
complete block. What it ends with has none, was reached by taking out one closed
region at a time, and is left as it is when it is done again
(`removeAll_clean_reached_fixed`).

A pass takes out many regions at once. They do not overlap, so the front of the
text, from which the regions are gone already, only grows: the pass is a chain of
single deletions behind that front (`reaches_remove`). A pass that finds a region
makes the text shorter (`length_remove_lt`), so the passes end
(`removeAll_eq_iterate`).
-/

namespace Stencil.Block

open Text

/-- The text has an `openTag` with a well-formed `name`, and a `closeTag` of that name that begins
at its end or behind it. -/
def HasComplete (text : Text) : Prop :=
  ∃ name start close, isName name ∧ OccursAt (openTag name) text start ∧
    start + byteLength (openTag name) ≤ close ∧ OccursAt (closeTag name) text close

/-- One `Closed` region with a well-formed name is taken out of `text`, which leaves `text'`. -/
def DeletesRegion (text text' : Text) : Prop :=
  ∃ (before : Text) (region : Region) (after : Text), isName region.name ∧ region.Closed ∧
    text = before ++ region.raw ++ after ∧ text' = before ++ after

/-! ## One pass -/

/-- A text `HasComplete` exactly if the search for `any` block finds a piece. -/
theorem hasComplete_iff {text : Text} : HasComplete text ↔ (regions .any text).pieces ≠ [] := by
  have hplaces : (regions .any text).pieces ≠ [] ↔ places .any text ≠ [] := by
    cases hpieces : (regions .any text).pieces with
    | nil => simp [places, hpieces, Split.offsets]
    | cons piece rest => simp [places, hpieces, Split.offsets]
  have hfound := leftmostLazy_places .any text
  rw [hplaces]
  constructor
  · intro h hnil
    obtain ⟨name, start, close, hname, hopen, hbehind, hclose⟩ := h
    rw [hnil] at hfound
    -- With no place found nothing is covered.
    exact hfound.complete name start hname hopen (by simp) close hbehind hclose
  · intro hcons
    obtain ⟨place, hplace⟩ := List.exists_mem_of_ne_nil _ hcons
    have hfits := hfound.fits place hplace
    obtain ⟨hopen, close, hbehind, hclose⟩ := hfits.tags
    exact ⟨place.region.name, place.start, close, hfits.admitted, hopen, hbehind, hclose⟩

/-- The pass `remove .any` leaves a text without a complete block as it is. -/
theorem remove_of_not_hasComplete {text : Text} (h : ¬ HasComplete text) :
    remove .any text = text :=
  replace_of_pieces_eq_nil (Decidable.not_not.mp (mt hasComplete_iff.mpr h)) _

/-- Where `regions` finds something, `remove` makes the text shorter. -/
theorem length_remove_lt {pattern : Pattern} {text : Text}
    (h : (regions pattern text).pieces ≠ []) : (remove pattern text).length < text.length := by
  induction text using regions_induction pattern with
  | nil => exact absurd (by rw [regions, split_nil]) h
  | skip c text hnone ih =>
    rw [regions_of_none hnone] at h
    -- What is found is found behind the character.
    have hrest : (regions pattern text).pieces ≠ [] := by
      intro hnil
      exact h (by simp [Split.pushGap, hnil])
    rw [remove, replace_of_none hnone]
    exact Nat.succ_lt_succ (ih hrest)
  | take text rest region hsome ih =>
    have hshort : rest.length < text.length := shortens_region? pattern hsome
    rw [remove, replace_of_some hsome]
    by_cases hrest : (regions pattern rest).pieces = []
    · rw [replace_of_pieces_eq_nil hrest]
      exact hshort
    · exact Nat.lt_trans (ih hrest) hshort

/-- The pass `remove .any` is a chain of single deletions behind the `front`, which it has passed
already. -/
theorem reaches_remove (text : Text) :
    ∀ front, Relation.ReflTransGen DeletesRegion (front ++ text) (front ++ remove .any text) := by
  induction text using regions_induction .any with
  | nil =>
    intro front
    rw [remove, replace, regions, split_nil]
    exact .refl
  | skip c text hnone ih =>
    intro front
    rw [remove, replace_of_none hnone]
    simpa [remove] using ih (front ++ [c])
  | take text rest region hsome ih =>
    intro front
    obtain ⟨hname, hclosed, rfl⟩ := region?_eq_some_iff.mp hsome
    rw [remove, replace_of_some hsome]
    -- The region goes first, while what follows it is as it was.
    have hstep : DeletesRegion (front ++ (region.raw ++ rest)) (front ++ rest) :=
      ⟨front, region, rest, hname, hclosed, by simp, rfl⟩
    exact Relation.ReflTransGen.head hstep (ih front)

/-! ## All passes -/

/-- For a text without a complete block `removeAll` does nothing. -/
theorem removeAll_of_not_hasComplete {text : Text} (h : ¬ HasComplete text) :
    removeAll text = text := by
  rw [removeAll, remove_of_not_hasComplete h]
  exact dif_neg (Nat.lt_irrefl _)

/-- A text that `HasComplete` is passed over once by `remove .any` and then again by `removeAll`. -/
theorem removeAll_of_hasComplete {text : Text} (h : HasComplete text) :
    removeAll text = removeAll (remove .any text) := by
  have hlt : (remove .any text).length < text.length := length_remove_lt (hasComplete_iff.mp h)
  rw [removeAll, dif_pos hlt]

/-- The passes of `removeAll` are made as long as there is a complete block, and they end. -/
theorem removeAll_eq_iterate (text : Text) :
    ∃ passes, removeAll text = (remove .any)^[passes] text ∧
      ∀ earlier, earlier < passes → HasComplete ((remove .any)^[earlier] text) := by
  by_cases h : HasComplete text
  · have hlt : (remove .any text).length < text.length :=
      length_remove_lt (hasComplete_iff.mp h)
    obtain ⟨passes, hlast, hearlier⟩ := removeAll_eq_iterate (remove .any text)
    refine ⟨passes + 1, ?_, fun earlier hless => ?_⟩
    · rw [removeAll_of_hasComplete h, hlast, Function.iterate_succ_apply]
    · cases earlier with
      | zero => exact h
      | succ earlier =>
        rw [Function.iterate_succ_apply]
        exact hearlier earlier (by omega)
  · exact ⟨0, removeAll_of_not_hasComplete h, fun _ hless => absurd hless (Nat.not_lt_zero _)⟩
termination_by text.length

/-- When `removeAll` is done no complete block is left. -/
theorem not_hasComplete_removeAll (text : Text) : ¬ HasComplete (removeAll text) := by
  fun_induction removeAll text with
  | case1 text _ ih => exact ih
  | case2 text hlength =>
    exact fun h => hlength (length_remove_lt (hasComplete_iff.mp h))

/-- All passes of `removeAll` together are a chain of single deletions. -/
theorem reaches_removeAll (text : Text) :
    Relation.ReflTransGen DeletesRegion text (removeAll text) := by
  fun_induction removeAll text with
  | case1 text _ ih => exact (reaches_remove text []).trans ih
  | case2 text _ => exact .refl

/-- One more pass `remove .any` before `removeAll` changes nothing. -/
theorem removeAll_remove (text : Text) : removeAll (remove .any text) = removeAll text := by
  by_cases h : HasComplete text
  · exact (removeAll_of_hasComplete h).symm
  · rw [remove_of_not_hasComplete h]

/-- **Taking out every region.** `removeAll` is `remove .any` done over for as many `passes` as find
a complete block. It leaves none (`¬ HasComplete`), takes out nothing but closed regions one after
the other (the chain of `DeletesRegion`), does nothing where it has been done already, and does
nothing to a text that does not have a complete block to begin with. -/
theorem removeAll_clean_reached_fixed (text : Text) :
    (∃ passes, removeAll text = (remove .any)^[passes] text ∧
        ∀ earlier, earlier < passes → HasComplete ((remove .any)^[earlier] text)) ∧
      ¬ HasComplete (removeAll text) ∧
      Relation.ReflTransGen DeletesRegion text (removeAll text) ∧
      removeAll (removeAll text) = removeAll text ∧
      (¬ HasComplete text → removeAll text = text) :=
  ⟨removeAll_eq_iterate text, not_hasComplete_removeAll text, reaches_removeAll text,
    removeAll_of_not_hasComplete (not_hasComplete_removeAll text),
    removeAll_of_not_hasComplete⟩

end Stencil.Block
