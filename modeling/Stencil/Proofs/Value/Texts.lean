import Stencil.Proofs.Variable.Fill

/-!
# Everything that stands in a value

The texts and the keys of a value at every depth, in maps and in lists. The entries of a map,
which are the variables that it stands for, are among them: a map inside a map is opened up,
and a list is passed over.
-/

namespace Stencil

mutual

/-- The texts of a value, at every depth: of the values of a `map` and of the items of a `list`. -/
def Value.texts : Value → List Text
  | .text content => [content]
  | .map fields => Fields.texts fields
  | .list items => Value.textsOfList items

/-- The texts of a map, at every depth. -/
def Fields.texts : List (Text × Value) → List Text
  | [] => []
  | (_, value) :: rest => value.texts ++ Fields.texts rest

/-- The texts of a list of values, at every depth. -/
def Value.textsOfList : List Value → List Text
  | [] => []
  | value :: rest => value.texts ++ Value.textsOfList rest

end

mutual

/-- The keys of the maps in a value, at every depth: in a `map` as in a `list`. -/
def Value.allKeys : Value → List Text
  | .text _ => []
  | .map fields => Fields.allKeys fields
  | .list items => Value.allKeysOfList items

/-- The keys of a map, at every depth. -/
def Fields.allKeys : List (Text × Value) → List Text
  | [] => []
  | (key, value) :: rest => key :: value.allKeys ++ Fields.allKeys rest

/-- The keys of the maps in a list of values, at every depth. -/
def Value.allKeysOfList : List Value → List Text
  | [] => []
  | value :: rest => value.allKeys ++ Value.allKeysOfList rest

end

/-! ## Entries -/

mutual

/-- The `entries` that a value under a key stands for have their names and contents in it. -/
theorem Value.mem_of_mem_entries {key : Text} {entry : Text × Text} :
    ∀ value : Value, entry ∈ value.entries key →
      (entry.1 = key ∨ entry.1 ∈ value.allKeys) ∧ entry.2 ∈ value.texts
  | .text content, h => by
    rw [Value.entries, List.mem_singleton] at h
    subst h
    exact ⟨Or.inl rfl, by simp [Value.texts]⟩
  | .map fields, h => by
    rw [Value.entries] at h
    rw [Value.texts, Value.allKeys]
    obtain ⟨hkey, htext⟩ := Fields.mem_of_mem_entries fields h
    exact ⟨Or.inr hkey, htext⟩
  | .list items, h => by
    rw [Value.entries] at h
    cases h

/-- The `entries` that a map stands for have their names and contents in it. -/
theorem Fields.mem_of_mem_entries {entry : Text × Text} :
    ∀ fields : List (Text × Value), entry ∈ Fields.entries fields →
      entry.1 ∈ Fields.allKeys fields ∧ entry.2 ∈ Fields.texts fields
  | [], h => by
    rw [Fields.entries] at h
    cases h
  | (key, value) :: rest, h => by
    rw [Fields.entries, List.mem_append] at h
    rw [Fields.texts, Fields.allKeys, List.mem_append, List.mem_append, List.mem_cons]
    rcases h with h | h
    · obtain ⟨hkey, htext⟩ := Value.mem_of_mem_entries value h
      exact ⟨Or.inl hkey, Or.inl htext⟩
    · obtain ⟨hkey, htext⟩ := Fields.mem_of_mem_entries rest h
      exact ⟨Or.inr hkey, Or.inr htext⟩

end

/-! ## Parts of a value -/

/-- What `get?` finds under a key stands there. -/
theorem Keyed.mem_of_get?_eq_some {α : Type} {key : Text} {value : α} :
    ∀ {table : Keyed α}, table.get? key = some value → (key, value) ∈ table
  | [], h => nomatch h
  | (k, first) :: rest, h => by
    rw [get?] at h
    split at h
    next heq =>
      obtain rfl := Option.some.inj h
      exact heq ▸ List.mem_cons_self
    next => exact List.mem_cons_of_mem _ (mem_of_get?_eq_some h)

/-- The `texts` and `allKeys` of a value of a map are among those of the map. -/
theorem Fields.subset_of_mem {key : Text} {value : Value} {fields : Fields}
    (h : (key, value) ∈ fields) :
    value.texts ⊆ Fields.texts fields ∧ key ∈ Fields.allKeys fields ∧
      value.allKeys ⊆ Fields.allKeys fields := by
  induction fields with
  | nil => cases h
  | cons entry rest ih =>
    obtain ⟨other, first⟩ := entry
    simp only [Fields.texts, Fields.allKeys]
    rcases List.mem_cons.mp h with heq | hrest
    · obtain ⟨rfl, rfl⟩ := Prod.mk.inj heq
      simp
    · obtain ⟨htexts, hkey, hkeys⟩ := ih hrest
      exact ⟨List.Subset.trans htexts (List.subset_append_right _ _),
        List.mem_append_right _ hkey, List.Subset.trans hkeys (List.subset_append_right _ _)⟩

/-- The `texts` and `allKeys` of an item of a list are among those of the list. -/
theorem Value.subset_of_mem {value : Value} {items : List Value} (h : value ∈ items) :
    value.texts ⊆ Value.textsOfList items ∧ value.allKeys ⊆ Value.allKeysOfList items := by
  induction items with
  | nil => cases h
  | cons first rest ih =>
    simp only [Value.textsOfList, Value.allKeysOfList]
    rcases List.mem_cons.mp h with rfl | hrest
    · simp
    · obtain ⟨htexts, hkeys⟩ := ih hrest
      exact ⟨List.Subset.trans htexts (List.subset_append_right _ _),
        List.Subset.trans hkeys (List.subset_append_right _ _)⟩

end Stencil
