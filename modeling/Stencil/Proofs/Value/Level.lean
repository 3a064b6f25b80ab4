import Stencil.Value.Merge

/-!
# Maps within maps

A row of keys leads from map to map, to the keys that stand at a level of nested values.
Writing, taking out and merging are told by what they do at each level: where two maps
are merged the same happens again to what stands under their common keys, and everywhere
else the new value stands in the place of the old one.

Theorems:
- `keys_put`, `keys_erase`, `keys_merge`: what becomes of the keys of one map.
- `get?_merge`: merging writes each new value over what stands under its key.
- `Fields.at?_merge`: wherever two maps meet they are merged.
- `Fields.Distinct.put`, `.erase`, `.merge`: keys stay distinct at every level.
-/

namespace Stencil

/-! ## One level -/

/-- The `keys` with a `key` that is put behind them if it is not among them. -/
def withKey (keys : List Text) (key : Text) : List Text :=
  if key ∈ keys then keys else keys ++ [key]

/-- The `keys` with the `new` ones, put there by `withKey` one after the other. -/
def withKeys (keys new : List Text) : List Text :=
  new.foldl withKey keys

theorem mem_withKey_iff {keys : List Text} {key other : Text} :
    other ∈ withKey keys key ↔ other ∈ keys ∨ other = key := by
  unfold withKey
  split
  next h => exact ⟨Or.inl, fun hother => hother.elim id fun heq => heq ▸ h⟩
  next => simp

theorem mem_withKeys_iff {keys new : List Text} {key : Text} :
    key ∈ withKeys keys new ↔ key ∈ keys ∨ key ∈ new := by
  induction new generalizing keys with
  | nil => simp [withKeys]
  | cons first rest ih =>
    show key ∈ withKeys (withKey keys first) rest ↔ _
    rw [ih, mem_withKey_iff, List.mem_cons, or_assoc]

/-- By `withKeys` keys that are there need not be put behind the others. -/
theorem withKeys_of_subset {keys new : List Text} (h : new ⊆ keys) : withKeys keys new = keys := by
  induction new with
  | nil => rfl
  | cons key rest ih =>
    obtain ⟨hkey, hrest⟩ := List.cons_subset.mp h
    show withKeys (withKey keys key) rest = keys
    rw [withKey, if_pos hkey, ih hrest]

/-- By `withKeys` keys are those that are there, and behind them the new ones. -/
theorem withKeys_eq {new : List Text} (h : new.Nodup) (keys : List Text) :
    withKeys keys new = keys ++ new.filter (· ∉ keys) := by
  induction new generalizing keys with
  | nil => exact (List.append_nil keys).symm
  | cons key rest ih =>
    obtain ⟨hkey, hrest⟩ := List.nodup_cons.mp h
    show withKeys (withKey keys key) rest = _
    rw [ih hrest, withKey]
    by_cases hmem : key ∈ keys
    · rw [if_pos hmem, List.filter_cons_of_neg (by simpa using hmem)]
    · rw [if_neg hmem, List.filter_cons_of_pos (by simpa using hmem), List.append_assoc,
        List.singleton_append]
      -- The key that has just been added is not among the others.
      congr 2
      refine List.filter_congr fun other hother => ?_
      have hne : other ≠ key := fun heq => hkey (heq ▸ hother)
      simp [hne]

theorem nodup_withKey {keys : List Text} (h : keys.Nodup) (key : Text) :
    (withKey keys key).Nodup := by
  unfold withKey
  split
  next => exact h
  next hmem =>
    refine List.nodup_append.mpr ⟨h, List.pairwise_singleton _ _, ?_⟩
    intro other hother last hlast heq
    rw [heq, List.mem_singleton.mp hlast] at hother
    exact hmem hother

theorem nodup_withKeys {keys : List Text} (h : keys.Nodup) (new : List Text) :
    (withKeys keys new).Nodup := by
  induction new generalizing keys with
  | nil => exact h
  | cons key rest ih => exact ih (nodup_withKey h key)

namespace Keyed

variable {α : Type} {key other : Text} {table : Keyed α}

theorem mem_keys_iff : key ∈ table.keys ↔ (table.get? key).isSome := by
  induction table with
  | nil => simp [keys, get?]
  | cons entry rest ih =>
    obtain ⟨k, value⟩ := entry
    rw [get?]
    split
    next hk => simp [keys, hk]
    next hk =>
      rw [← ih]
      simp [keys, Ne.symm hk]

theorem get?_eq_none_iff : table.get? key = none ↔ key ∉ table.keys := by
  rw [mem_keys_iff, Option.not_isSome_iff_eq_none]

/-- To `put` a value under a key puts this behind the keys if it is not among them, by `withKey`. -/
theorem keys_put (key : Text) (value : α) (table : Keyed α) :
    (table.put key value).keys = withKey table.keys key := by
  unfold withKey
  split
  next h => exact keys_put_of_mem value h
  next h => exact keys_put_of_not_mem value h

/-- To `erase` a key moves no other. -/
theorem keys_erase (key : Text) : ∀ table : Keyed α, (table.erase key).keys = table.keys.erase key
  | [] => rfl
  | (k, value) :: rest => by
    rw [erase]
    split
    next hk => simp [keys, hk]
    next hk =>
      have hrest : keys (erase key rest) = (keys rest).erase key := keys_erase key rest
      show k :: keys (erase key rest) = (k :: keys rest).erase key
      rw [hrest, List.erase_cons_tail (by simpa using hk)]

theorem get?_erase_of_ne (h : other ≠ key) :
    ∀ table : Keyed α, (table.erase key).get? other = table.get? other
  | [] => rfl
  | (k, value) :: rest => by
    rw [erase, get?]
    split
    next hk => rw [if_neg (hk ▸ h.symm)]
    next hk => rw [get?, get?_erase_of_ne h rest]

/-- A key that `erase` has taken out is gone. -/
theorem get?_erase_self (h : table.keys.Nodup) (key : Text) :
    (table.erase key).get? key = none := by
  rw [get?_eq_none_iff, keys_erase]
  exact h.not_mem_erase

/-- To `put` a value under a key again leaves nothing of what was written there before. -/
theorem put_put (key : Text) (first second : α) :
    ∀ table : Keyed α, (table.put key first).put key second = table.put key second
  | [] => by rw [put, put, put, if_pos rfl]
  | (k, value) :: rest => by
    by_cases hk : k = key
    · rw [put, put, if_pos hk, if_pos hk, put, if_pos rfl]
    · rw [put, put, if_neg hk, if_neg hk, put, if_neg hk, put_put key first second rest]

/-- By `put` a value takes the place of the first one under its key. -/
theorem put_append {front back : Keyed α} (h : key ∉ front.keys) (old new : α) :
    put key new (front ++ (key, old) :: back) = front ++ (key, new) :: back := by
  induction front with
  | nil => rw [List.nil_append, put, if_pos rfl, List.nil_append]
  | cons entry rest ih =>
    obtain ⟨k, value⟩ := entry
    obtain ⟨hk, hrest⟩ := List.ne_and_not_mem_of_not_mem_cons h
    rw [List.cons_append, put, if_neg (Ne.symm hk), ih hrest, List.cons_append]

/-- By `put` a value under a new key stands last. -/
theorem put_of_not_mem (h : key ∉ table.keys) (value : α) :
    table.put key value = table ++ [(key, value)] := by
  induction table with
  | nil => rfl
  | cons entry rest ih =>
    obtain ⟨k, present⟩ := entry
    obtain ⟨hk, hrest⟩ := List.ne_and_not_mem_of_not_mem_cons h
    rw [put, if_neg (Ne.symm hk), ih hrest, List.cons_append]

end Keyed

/-- By `map?` a value has entries if it is a `.map`. -/
theorem Value.map?_eq_some_iff {value : Value} {entries : Fields} :
    value.map? = some entries ↔ value = .map entries := by
  cases value <;> simp [Value.map?]

namespace Fields

/-! ## Merging -/

/-- By `merge` the keys of the new fields are put behind those that are there, as by `withKeys`. -/
theorem keys_merge (new : Fields) (fields : Fields) :
    Keyed.keys (merge fields new) = withKeys fields.keys new.keys := by
  induction new generalizing fields with
  | nil => rw [merge]; rfl
  | cons entry rest ih =>
    obtain ⟨key, value⟩ := entry
    rw [merge, ih, Keyed.keys_put]
    rfl

/-- By `merge` each new value is written by `Value.over` over what stands under its key. -/
theorem get?_merge {new : Fields} (h : new.keys.Nodup) (fields : Fields) (key : Text) :
    Keyed.get? key (merge fields new) =
      match new.get? key with
      | none => fields.get? key
      | some value => some (Value.over (fields.get? key) value) := by
  induction new generalizing fields with
  | nil => rw [merge]; rfl
  | cons entry rest ih =>
    obtain ⟨k, value⟩ := entry
    obtain ⟨hk, hrest⟩ := List.nodup_cons.mp h
    rw [merge, ih hrest, Keyed.get?_put, Keyed.get?]
    by_cases hkey : k = key
    · -- The key is not written again.
      subst hkey
      have hnone : Keyed.get? k rest = none := Keyed.get?_eq_none_iff.mpr hk
      rw [hnone, if_pos rfl, if_pos rfl]
    · rw [if_neg hkey, if_neg hkey]

/-- By `Value.over` two maps that meet are merged in turn. -/
theorem over_map (present entries : Fields) :
    Value.over (some (.map present)) (.map entries) = .map (merge present entries) := by
  rw [Value.over]

/-- Where no two maps meet `Value.over` puts the new value in the place of the old one. -/
theorem over_of_not_map {old : Option Value} {value : Value}
    (h : ¬ ∃ present entries, old = some (.map present) ∧ value = .map entries) :
    Value.over old value = value := by
  cases value with
  | text | list => rw [Value.over]
  | map entries =>
    rw [Value.over]
    exact fun present hold => h ⟨present, entries, hold, rfl⟩

/-! ## Levels -/

/-- The map that a row of keys leads to, key by key through `get?`. -/
def at? : List Text → Fields → Option Fields
  | [], fields => some fields
  | key :: rest, fields => ((fields.get? key).bind Value.map?).bind (at? rest)

end Fields

/-- The map that the row of keys `level` leads to from a value. -/
def Value.at? (level : List Text) (value : Value) : Option Fields :=
  value.map?.bind (Fields.at? level)

/-- The keys of a map, `[]` if there is none. -/
def keysOf (fields : Option Fields) : List Text :=
  (fields.map Keyed.keys).getD []

namespace Fields

variable {fields new : Fields} {key : Text}

/-- Below another key than the one that is `put` nothing changes. -/
theorem at?_cons_put (key other : Text) (rest : List Text) (value : Value) (fields : Fields) :
    at? (other :: rest) (fields.put key value)
      = if key = other then value.at? rest else at? (other :: rest) fields := by
  rw [at?, Keyed.get?_put]
  split <;> rfl

/-- Below another key than the one that `erase` takes out nothing changes. -/
theorem at?_cons_erase (h : fields.keys.Nodup) (key other : Text) (rest : List Text) :
    at? (other :: rest) (fields.erase key)
      = if key = other then none else at? (other :: rest) fields := by
  rw [at?]
  split
  next heq => rw [← heq, Keyed.get?_erase_self h, Option.bind_none, Option.bind_none]
  next hne => rw [Keyed.get?_erase_of_ne (Ne.symm hne), at?]

/-- Below a key that is not in `new` nothing changes by `merge`. -/
theorem at?_cons_merge_of_none (h : new.keys.Nodup) (hnew : new.get? key = none)
    (rest : List Text) : at? (key :: rest) (merge fields new) = at? (key :: rest) fields := by
  rw [at?, get?_merge h, hnew, at?]

/-- Below a key that leads to a map on both sides `merge` merges these maps. -/
theorem at?_cons_merge_of_map (h : new.keys.Nodup) {present entries : Fields}
    (hold : fields.get? key = some (.map present)) (hnew : new.get? key = some (.map entries))
    (rest : List Text) :
    at? (key :: rest) (merge fields new) = at? rest (merge present entries) := by
  rw [at?, get?_merge h, hnew, hold]
  dsimp only
  rw [over_map]
  rfl

/-- Below any other key that is in `new` there is what the new `value` says. -/
theorem at?_cons_merge_of_not_map (h : new.keys.Nodup) {value : Value}
    (hnew : new.get? key = some value)
    (hmap : ¬ ∃ present entries, fields.get? key = some (.map present) ∧ value = .map entries)
    (rest : List Text) : at? (key :: rest) (merge fields new) = value.at? rest := by
  rw [at?, get?_merge h, hnew]
  dsimp only
  rw [over_of_not_map hmap]
  rfl

/-! ## Distinct keys -/

/-- At every `level` the keys of the fields are distinct. -/
def Distinct (fields : Fields) : Prop :=
  ∀ level inner, at? level fields = some inner → inner.keys.Nodup

end Fields

/-- At every `level` below the value the keys are distinct. -/
def Value.Distinct (value : Value) : Prop :=
  ∀ level inner, value.at? level = some inner → inner.keys.Nodup

/-- The keys that a value that is `Distinct` leads to are distinct. -/
theorem Value.Distinct.nodup_keysOf {value : Value} (h : value.Distinct) (level : List Text) :
    (keysOf (value.at? level)).Nodup := by
  cases hinner : value.at? level with
  | none => exact List.nodup_nil
  | some inner => exact h level inner hinner

namespace Fields

variable {fields new : Fields} {key : Text}

theorem Distinct.nodup (h : Distinct fields) : fields.keys.Nodup := h [] fields rfl

/-- What stands below a key of fields that are `Distinct` is `Distinct`, too. -/
theorem Distinct.get? (h : Distinct fields) {value : Value}
    (hvalue : fields.get? key = some value) :
    value.Distinct := by
  intro level inner hinner
  refine h (key :: level) inner ?_
  rw [at?, hvalue]
  exact hinner

theorem distinct_map_iff : (Value.map fields).Distinct ↔ Distinct fields := Iff.rfl

/-- **Wherever two maps meet they are merged**, at every `level`, however deep below those that
are. -/
theorem at?_merge {level : List Text} {present entries : Fields} (hdistinct : new.Distinct)
    (hfields : at? level fields = some present) (hnew : at? level new = some entries) :
    at? level (merge fields new) = some (merge present entries) := by
  induction level generalizing fields new with
  | nil =>
    cases hfields
    cases hnew
    rfl
  | cons key rest ih =>
    obtain ⟨old, hold, hpresent⟩ := Option.bind_eq_some_iff.mp hfields
    obtain ⟨inside, hinside, hentries⟩ := Option.bind_eq_some_iff.mp hnew
    obtain ⟨value, hvalue, hmap⟩ := Option.bind_eq_some_iff.mp hold
    obtain ⟨written, hwritten, hmap'⟩ := Option.bind_eq_some_iff.mp hinside
    rw [Value.map?_eq_some_iff.mp hmap] at hvalue
    rw [Value.map?_eq_some_iff.mp hmap'] at hwritten
    rw [at?_cons_merge_of_map hdistinct.nodup hvalue hwritten]
    exact ih (distinct_map_iff.mp (hdistinct.get? hwritten)) hpresent hentries

/-- A row of keys leads to distinct keys if the first map has them and all below it. -/
theorem distinct_of_get? (h : fields.keys.Nodup)
    (hvalues : ∀ key value, fields.get? key = some value → value.Distinct) : Distinct fields := by
  intro level inner hinner
  cases level with
  | nil =>
    cases hinner
    exact h
  | cons key rest =>
    obtain ⟨entries, hentries, hrest⟩ := Option.bind_eq_some_iff.mp hinner
    obtain ⟨value, hvalue, hmap⟩ := Option.bind_eq_some_iff.mp hentries
    refine hvalues key value hvalue rest inner ?_
    rw [Value.at?, hmap]
    exact hrest

theorem distinct_nil : Distinct [] :=
  distinct_of_get? List.nodup_nil fun _ _ h => nomatch h

/-- To `put` a value that is `Distinct` keeps fields so. -/
theorem Distinct.put (h : Distinct fields) {value : Value} (hvalue : value.Distinct) (key : Text) :
    Distinct (fields.put key value) := by
  refine distinct_of_get? ?_ ?_
  · rw [Keyed.keys_put]
    exact nodup_withKey h.nodup key
  · intro other found hfound
    rw [Keyed.get?_put] at hfound
    split at hfound
    next =>
      cases hfound
      exact hvalue
    next => exact h.get? hfound

/-- To `erase` a key keeps fields `Distinct`. -/
theorem Distinct.erase (h : Distinct fields) (key : Text) : Distinct (fields.erase key) := by
  refine distinct_of_get? ?_ ?_
  · rw [Keyed.keys_erase]
    exact h.nodup.erase key
  · intro other found hfound
    by_cases hother : other = key
    · subst hother
      rw [Keyed.get?_erase_self h.nodup] at hfound
      cases hfound
    · rw [Keyed.get?_erase_of_ne hother] at hfound
      exact h.get? hfound

/-- To `merge` fields that are `Distinct` keeps them so. -/
theorem Distinct.merge (hfields : Distinct fields) (hnew : Distinct new) :
    Distinct (merge fields new) := by
  intro level
  -- One level after the other, as below two maps there is a merge again.
  induction level generalizing fields new with
  | nil =>
    intro inner hinner
    cases hinner
    rw [keys_merge]
    exact nodup_withKeys hfields.nodup _
  | cons key rest ih =>
    intro inner hinner
    cases hkey : new.get? key with
    | none =>
      rw [at?_cons_merge_of_none hnew.nodup hkey] at hinner
      exact hfields _ _ hinner
    | some value =>
      by_cases hmap : ∃ present entries,
        fields.get? key = some (.map present) ∧ value = .map entries
      · obtain ⟨present, entries, hold, rfl⟩ := hmap
        rw [at?_cons_merge_of_map hnew.nodup hold hkey] at hinner
        exact ih (distinct_map_iff.mp (hfields.get? hold)) (distinct_map_iff.mp (hnew.get? hkey))
          inner hinner
      · rw [at?_cons_merge_of_not_map hnew.nodup hkey hmap] at hinner
        exact hnew.get? hkey _ _ hinner

end Fields

end Stencil
