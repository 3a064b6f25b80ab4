import Stencil.Proofs.Unicode.Fold
import Stencil.Unicode.Case

/-!
# Upper case

The upper case of a character is never empty, and a character without case is in it only if
it is the character itself. So the block of a post type has a name, and no brace that the
type does not have.
-/

namespace Stencil.Unicode

/-- There is something to every `upper` case. -/
theorem upper_ne_nil (c : Char) : upper c ≠ [] := by
  have hall : ∀ entry ∈ upperExpansions, entry.2 ≠ [] := by decide
  unfold upper
  split
  next entry hentry => simpa using hall entry (List.mem_of_find?_eq_some hentry)
  next => exact List.cons_ne_nil _ _

/-- Only a brace has a brace in its `upper` case. -/
theorem eq_of_closeBrace_mem_upper {c : Char} (h : '}' ∈ upper c) : c = '}' := by
  have hall : ∀ entry ∈ upperExpansions, '}' ∉ entry.2.map Char.ofNat := by decide
  have hunmoved : Unmoved upperShifts '}' := by decide +kernel
  unfold upper at h
  split at h
  next entry hentry => exact absurd h (hall entry (List.mem_of_find?_eq_some hentry))
  next => exact (shifted_eq_iff hunmoved).mp (List.mem_singleton.mp h).symm

end Stencil.Unicode
