import Stencil.Text.Basic

/-!
# Tables of characters

The classes and mappings of characters are tables over code points in ascending
order: ranges for a class whose members come in blocks, runs with a step where
every second character belongs, and shifts for a mapping that moves all the
characters of a run by one distance.
-/

namespace Stencil.Unicode

/-- The number `n` lies in one of the ascending closed ranges. -/
def inRanges : List (Nat × Nat) → Nat → Bool
  | [], _ => false
  | (first, last) :: rest, n => if n < first then false else n ≤ last || inRanges rest n

/-- The first and the last code point of a run, and the step between its members. -/
abbrev Run := Nat × Nat × Nat

/-- The number `n` is a member of one of the ascending runs. -/
def inRuns : List Run → Nat → Bool
  | [], _ => false
  | (first, last, step) :: rest, n =>
    if n < first then false
    else if n ≤ last then (n - first) % step == 0
    else inRuns rest n

/-- The first and the last code point of a `Run`, the step between its members, and how far each of
them is moved. -/
abbrev Shift := Nat × Nat × Nat × Int

/-- The distance by which the shifts move a number `n`, `0` outside all of them. -/
def shiftOf : List Shift → Nat → Int
  | [], _ => 0
  | (first, last, step, distance) :: rest, n =>
    if n < first then 0
    else if n ≤ last ∧ (n - first) % step = 0 then distance
    else shiftOf rest n

/-- The character to which the `shifts` move `c`, by `shiftOf`. -/
def shifted (shifts : List Shift) (c : Char) : Char :=
  Char.ofNat ((c.toNat : Int) + shiftOf shifts c.toNat).toNat

end Stencil.Unicode
