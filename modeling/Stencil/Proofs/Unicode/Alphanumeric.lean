import Mathlib.Data.List.Chain
import Stencil.Proofs.Unicode.Fold
import Stencil.Unicode.Alphanumeric
import Stencil.Unicode.Case

/-!
# Capitals, letters and numbers

Every capital is a letter (`isAlphanumeric_of_isUppercase`): the runs of capitals are taken
apart into spans that lie within the ranges of letters and numbers (`within`), and these are
in ascending order. The underscore is neither a letter nor a number, and it is in the lower
case of no other character (`eq_of_underscore_mem_lower`). Within ASCII there are no letters
and numbers but the capitals, which become small letters, the small letters and the digits
(`lower_ascii`).
-/

namespace Stencil.Unicode

/-! ## Capitals -/

/-- The members of a run in closed spans: all in one if no number between them is left out
(`step = 1`), and else each by itself. -/
def spans : Run → List (Nat × Nat)
  | (first, last, step) =>
    if step = 1 then [(first, last)]
    else (List.range ((last - first) / step + 1)).map fun i =>
      (first + step * i, first + step * i)

/-- Each of the spans lies `within` one of the ranges, both taken in their order. -/
def within : List (Nat × Nat) → List (Nat × Nat) → Bool
  | [], _ => true
  | _ :: _, [] => false
  | span :: rest, range :: ranges =>
    if range.2 < span.1 then within (span :: rest) ranges
    else range.1 ≤ span.1 && span.2 ≤ range.2 && within rest (range :: ranges)
termination_by spans ranges => spans.length + ranges.length

/-- A number that is `inRuns` lies between the ends of one of the runs, a number of steps from the
first one. -/
theorem exists_run_of_inRuns {n : Nat} :
    ∀ {runs : List Run}, inRuns runs n →
      ∃ run ∈ runs, run.1 ≤ n ∧ n ≤ run.2.1 ∧ (n - run.1) % run.2.2 = 0
  | [], h => by cases h
  | (first, last, step) :: rest, h => by
    unfold inRuns at h
    split at h
    next => cases h
    next hfirst =>
      split at h
      next hlast =>
        exact ⟨_, List.mem_cons_self, Nat.le_of_not_lt hfirst, hlast, eq_of_beq h⟩
      next =>
        obtain ⟨run, hmem, hrun⟩ := exists_run_of_inRuns h
        exact ⟨run, List.mem_cons_of_mem _ hmem, hrun⟩

/-- A member of a run is in one of its `spans`. -/
theorem exists_span_of_run {n : Nat} {run : Run} (hfirst : run.1 ≤ n) (hlast : n ≤ run.2.1)
    (hstep : (n - run.1) % run.2.2 = 0) : ∃ span ∈ spans run, span.1 ≤ n ∧ n ≤ span.2 := by
  obtain ⟨first, last, step⟩ := run
  rw [spans]
  by_cases hone : step = 1
  · rw [if_pos hone]
    exact ⟨(first, last), List.mem_singleton_self _, hfirst, hlast⟩
  · rw [if_neg hone]
    have hn : first + step * ((n - first) / step) = n := by
      rw [Nat.mul_div_cancel' (Nat.dvd_of_mod_eq_zero hstep), Nat.add_sub_cancel' hfirst]
    have hsteps : (n - first) / step < (last - first) / step + 1 :=
      Nat.lt_succ_of_le (Nat.div_le_div_right (Nat.sub_le_sub_right hlast first))
    exact ⟨_, List.mem_map_of_mem (List.mem_range.mpr hsteps), Nat.le_of_eq hn,
      Nat.le_of_eq hn.symm⟩

/-- A span lies in the range that `within` finds for it. -/
theorem exists_range_of_within {span : Nat × Nat} :
    ∀ {all ranges : List (Nat × Nat)}, within all ranges → span ∈ all →
      ∃ range ∈ ranges, range.1 ≤ span.1 ∧ span.2 ≤ range.2 := by
  intro all ranges h hmem
  fun_induction within all ranges with
  | case1 => cases hmem
  | case2 => cases h
  | case3 first rest range ranges hbelow ih =>
    obtain ⟨found, hfound, hin⟩ := ih h hmem
    exact ⟨found, List.mem_cons_of_mem _ hfound, hin⟩
  | case4 first rest range ranges hbelow ih =>
    simp only [Bool.and_eq_true, decide_eq_true_eq] at h
    obtain ⟨hrange, hrest⟩ := h
    rcases List.mem_cons.mp hmem with rfl | hmem
    · exact ⟨range, List.mem_cons_self, hrange⟩
    · exact ih hrest hmem

/-- What lies in one of some ranges in ascending order is `inRanges`. -/
theorem inRanges_of_mem {n : Nat} {range : Nat × Nat} (hfirst : range.1 ≤ n) (hlast : n ≤ range.2) :
    ∀ {ranges : List (Nat × Nat)}, ranges.Pairwise (fun a b => a.1 ≤ b.1) → range ∈ ranges →
      inRanges ranges n
  | [], _, hmem => absurd hmem List.not_mem_nil
  | (first, last) :: rest, hascending, hmem => by
    obtain ⟨hle, hrest⟩ := List.pairwise_cons.mp hascending
    rw [inRanges]
    rcases List.mem_cons.mp hmem with rfl | hmem
    · rw [if_neg (Nat.not_lt.mpr hfirst), decide_eq_true hlast, Bool.true_or]
    · have hbelow : first ≤ n := (hle range hmem).trans hfirst
      rw [if_neg (Nat.not_lt.mpr hbelow), inRanges_of_mem hfirst hlast hrest hmem, Bool.or_true]

set_option maxRecDepth 8000 in
/-- The `alphanumericRanges` are in ascending order. -/
theorem pairwise_alphanumericRanges :
    alphanumericRanges.Pairwise fun a b => a.1 ≤ b.1 := by
  have hchain : (alphanumericRanges.map (·.1)).IsChain (· ≤ ·) := by decide
  exact List.pairwise_map.mp (List.isChain_iff_pairwise.mp hchain)

/-- **Every capital is a letter**: `isUppercase` implies `isAlphanumeric`. -/
theorem isAlphanumeric_of_isUppercase {c : Char} (h : isUppercase c) : isAlphanumeric c := by
  have hwithin : within (uppercaseRuns.flatMap spans) alphanumericRanges := by decide +kernel
  obtain ⟨run, hrun, hbegin, hend, hstep⟩ := exists_run_of_inRuns h
  obtain ⟨span, hspan, hlow, hhigh⟩ := exists_span_of_run hbegin hend hstep
  have hmem : span ∈ uppercaseRuns.flatMap spans := List.mem_flatMap_of_mem hrun hspan
  obtain ⟨range, hrange, hfirst, hlast⟩ := exists_range_of_within hwithin hmem
  exact inRanges_of_mem (hfirst.trans hlow) (hhigh.trans hlast) pairwise_alphanumericRanges hrange

/-! ## The underscore -/

theorem isAlphanumeric_underscore : isAlphanumeric '_' = false := by decide

set_option maxRecDepth 4000 in
/-- Only an underscore has an underscore in `lower`. -/
theorem eq_of_underscore_mem_lower {c : Char} (h : '_' ∈ lower c) : c = '_' := by
  have hunmoved : Unmoved lowerShifts '_' := by decide
  unfold lower at h
  split at h
  next => exact absurd h (by decide)
  next => exact (shifted_eq_iff hunmoved).mp (List.mem_singleton.mp h).symm

/-! ## ASCII -/

/-- Within ASCII a capital becomes a small letter by `lower`, and the other characters that are
`isAlphanumeric` are the small letters and the digits. -/
theorem lower_ascii {c : Char} (h : c.toNat < 128) :
    (isUppercase c → (lower c).all Char.isLower) ∧
      (isUppercase c = false ∧ isAlphanumeric c ↔ c.isLower ∨ c.isDigit) := by
  have hall : ∀ n ∈ List.range 128,
      (isUppercase (Char.ofNat n) → (lower (Char.ofNat n)).all Char.isLower) ∧
        (isUppercase (Char.ofNat n) = false ∧ isAlphanumeric (Char.ofNat n) ↔
          (Char.ofNat n).isLower ∨ (Char.ofNat n).isDigit) := by
    decide +kernel
  have hc := hall c.toNat (List.mem_range.mpr h)
  rwa [Char.ofNat_toNat] at hc

/-- The small letters and the digits are in ASCII. -/
theorem toNat_lt_of_isLower_or_isDigit {c : Char} (h : c.isLower ∨ c.isDigit) :
    c.toNat < 128 := by
  have hlower : c.isLower = (decide (97 ≤ c.val) && decide (c.val ≤ 122)) := rfl
  simp only [hlower, Char.isDigit, Bool.and_eq_true, decide_eq_true_eq] at h
  rcases h with ⟨-, hlast⟩ | ⟨-, hlast⟩
  · exact Nat.lt_of_le_of_lt hlast (by decide)
  · exact Nat.lt_of_le_of_lt hlast (by decide)

end Stencil.Unicode
