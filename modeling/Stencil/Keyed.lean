import Stencil.Text.Basic

/-!
# Keyed tables in order of arrival

A table of values under distinct keys that remembers the order in which the keys
arrived. Writing under a key that is there replaces its value in place; a new
key goes to the end; taking a key out closes the gap it leaves.

Theorems:
- `get?_put`: what was written is found, and other keys keep their values.
- `keys_put_of_mem`, `keys_put_of_not_mem`: where a written key stands.
-/

namespace Stencil

/-- Values under keys, in order of arrival. -/
abbrev Keyed (α : Type) := List (Text × α)

namespace Keyed

variable {α : Type}

/-- The keys of the `table`, in order. -/
def keys (table : Keyed α) : List Text :=
  table.map (·.1)

/-- The value under a key: that of the first entry for which `k = key`. -/
def get? (key : Text) : Keyed α → Option α
  | [] => none
  | (k, v) :: rest => if k = key then some v else get? key rest

/-- The table with a value written under a key. It takes the place of the value that is there, and
goes to the end where the `key` is new. -/
def put (key : Text) (value : α) : Keyed α → Keyed α
  | [] => [(key, value)]
  | (k, v) :: rest => if k = key then (key, value) :: rest else (k, v) :: put key value rest

/-- The table without the first entry for a key. -/
def erase (key : Text) : Keyed α → Keyed α
  | [] => []
  | (k, v) :: rest => if k = key then rest else (k, v) :: erase key rest

/-- The table that `pairs` make when they are `put` one after the other. -/
def ofPairs (pairs : List (Text × α)) : Keyed α :=
  pairs.foldl (fun table pair => table.put pair.1 pair.2) []

/-- What was `put` is found under its `key`, and every `other` key keeps its value. -/
theorem get?_put (key other : Text) (value : α) :
    ∀ table : Keyed α,
      (table.put key value).get? other = if key = other then some value else table.get? other
  | [] => by simp [put, get?]
  | (k, v) :: rest => by
    unfold put
    split
    next h => subst h; simp only [get?]; split <;> rfl
    next h =>
      simp only [get?, get?_put key other value rest]
      split
      next hk => subst hk; simp [Ne.symm h]
      next => rfl

/-- To `put` a value under a key that is in `table.keys` moves nothing. -/
theorem keys_put_of_mem {key : Text} (value : α) :
    ∀ {table : Keyed α}, key ∈ table.keys → (table.put key value).keys = table.keys
  | [], h => by simp [keys] at h
  | (k, v) :: rest, h => by
    unfold put
    split
    next hk => subst hk; rfl
    next hk =>
      have hrest : key ∈ keys rest := by
        simpa [keys, Ne.symm hk] using h
      simpa [keys] using keys_put_of_mem value hrest

/-- To `put` a value under a new key adds it behind `table.keys`. -/
theorem keys_put_of_not_mem {key : Text} (value : α) :
    ∀ {table : Keyed α}, key ∉ table.keys → (table.put key value).keys = table.keys ++ [key]
  | [], _ => rfl
  | (k, v) :: rest, h => by
    have hk : k ≠ key := fun hk => h (by simp [keys, hk])
    have hrest : key ∉ keys rest := fun hmem => h (by
      simpa [keys] using Or.inr (by simpa [keys] using hmem))
    unfold put
    rw [if_neg hk]
    simpa [keys] using keys_put_of_not_mem value hrest

end Keyed

end Stencil
