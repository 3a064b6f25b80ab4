import Stencil.Proofs.Value.Level

/-!
# What merging maps comes to

Merging writes the entries of one map over those of another, one after the other. What
comes of it is told for each key, and then for each path of keys: what the new map has at
a path is there, a map with the old one under it, and what the old map has stays where
nothing but maps that meet maps is on the way (`Value.Spares`). A text or list of the old
map survives there and nowhere else, whatever it is.

Merging a map twice is merging it once. This is so for the values under each key, down to
those that meet none: a map that has taken the place of a text meets itself the second
time, and stays what it is.

Theorems:
- `merges_iff`: the merged map is the only one with its keys and its values.
- `Value.follow?_over_of_some`, `.follow?_over_of_none`: what stands at a path.
- `merge_along_paths`: what becomes of the entries of both maps.
- `merge_merge`, `nil_merge`, `merge_self`, `get?_merge_comm`: the laws of merging.
-/

namespace Stencil

/-- Tables of the same `keys` in the same order are the same if `get?` finds the same value under
every key. -/
theorem Keyed.eq_of_get?_eq {α : Type} {table other : Keyed α} (hnodup : table.keys.Nodup)
    (hkeys : table.keys = other.keys) (hget : ∀ key, table.get? key = other.get? key) :
    table = other := by
  induction table generalizing other with
  | nil => exact (List.map_eq_nil_iff.mp hkeys.symm).symm
  | cons entry rest ih =>
    obtain ⟨k, value⟩ := entry
    obtain ⟨hk, hrest⟩ := List.nodup_cons.mp hnodup
    cases other with
    | nil => cases hkeys
    | cons entry' rest' =>
      obtain ⟨k', value'⟩ := entry'
      obtain ⟨hsame, hkeys'⟩ := List.cons.inj hkeys
      obtain rfl : k = k' := hsame
      have hvalue := hget k
      rw [get?, get?, if_pos rfl, if_pos rfl] at hvalue
      have hrest' : rest = rest' := by
        refine ih hrest hkeys' fun key => ?_
        by_cases hkey : k = key
        · -- The key of the first entry is under none of the others.
          subst hkey
          have hother : k ∉ keys rest' := by
            rw [keys, ← hkeys']
            exact hk
          rw [get?_eq_none_iff.mpr hk, get?_eq_none_iff.mpr hother]
        · have hbehind := hget key
          rwa [get?, get?, if_neg hkey, if_neg hkey] at hbehind
      rw [Option.some.inj hvalue, hrest']

namespace Value

mutual

/-- What holds of a `text` and of a `list`, and of a `map` if it holds of its values, holds of every
value. -/
@[elab_as_elim]
theorem induction {motive : Value → Prop} (text : ∀ content, motive (.text content))
    (list : ∀ items, motive (.list items))
    (map : ∀ entries : Fields, (∀ key value, entries.get? key = some value → motive value) →
      motive (.map entries)) : ∀ value, motive value
  | .text content => text content
  | .list items => list items
  | .map entries => map entries (induction_entries text list map entries)

/-- What `induction` shows of every value holds of the values of every map. -/
theorem induction_entries {motive : Value → Prop} (text : ∀ content, motive (.text content))
    (list : ∀ items, motive (.list items))
    (map : ∀ entries : Fields, (∀ key value, entries.get? key = some value → motive value) →
      motive (.map entries)) :
    ∀ (entries : List (Text × Value)) (key : Text) (value : Value),
      Keyed.get? key entries = some value → motive value
  | [], _, _, h => nomatch h
  | (k, first) :: rest, key, value, h => by
    rw [Keyed.get?] at h
    split at h
    next =>
      cases h
      exact induction text list map first
    next => exact induction_entries text list map rest key value h

end

/-! ## Along a path -/

/-- What stands at a path of keys below a value, key by key through `Value.map?`. -/
def follow? : List Text → Value → Option Value
  | [], value => some value
  | key :: rest, value => (value.map?.bind (Keyed.get? key)).bind (follow? rest)

/-- What the value `new` has on the way along a `path`, the end included, are maps where the value
`old` has maps. -/
def Spares (old : Option Value) (new : Value) (path : List Text) : Prop :=
  ∀ front, front <+: path → ∀ value, new.follow? front = some value →
    ∃ entries present, value = .map entries ∧ old.bind (follow? front) = some (.map present)

variable {old : Option Value} {new value leaf : Value} {key : Text} {rest path : List Text}
  {present entries : Fields}

theorem follow?_map (key : Text) (rest : List Text) (entries : Fields) :
    (Value.map entries).follow? (key :: rest) = (entries.get? key).bind (follow? rest) :=
  rfl

/-- By `follow?` no path leads on from what is no map. -/
theorem follow?_of_not_map (h : new.map? = none) (key : Text) (rest : List Text) :
    new.follow? (key :: rest) = none := by
  rw [follow?, h]
  rfl

/-- By `Value.over` a value stands over nothing as it is. -/
theorem over_none (new : Value) : Value.over none new = new :=
  Fields.over_of_not_map fun ⟨_, _, hold, _⟩ => nomatch hold

/-- By `Value.over` a value stands over what is no map as it is. -/
theorem over_of_leaf (h : leaf.map? = none) (new : Value) : Value.over (some leaf) new = new := by
  refine Fields.over_of_not_map ?_
  rintro ⟨present, entries, hold, -⟩
  cases hold
  cases h

/-- By `Value.over` what is no map stands as it is over whatever there is. -/
theorem leaf_over (old : Option Value) (h : leaf.map? = none) : Value.over old leaf = leaf := by
  refine Fields.over_of_not_map ?_
  rintro ⟨present, entries, -, rfl⟩
  cases h

/-- What is no map is `Distinct`, as it has no keys that could be the same. -/
theorem distinct_of_leaf (h : leaf.map? = none) : leaf.Distinct := by
  intro level inner hinner
  rw [at?, h] at hinner
  cases hinner

/-- Below two maps that meet `Spares` holds of a path if it holds below the values of its first
key. -/
theorem spares_cons_iff (hentry : entries.get? key = some value) :
    Spares (some (.map present)) (.map entries) (key :: rest) ↔
      Spares (present.get? key) value rest := by
  constructor
  · intro h front hfront found hfound
    refine h (key :: front) ((List.prefix_cons_inj key).mpr hfront) found ?_
    rw [follow?_map, hentry]
    exact hfound
  · intro h front hfront found hfound
    cases front with
    | nil =>
      cases hfound
      exact ⟨entries, present, rfl, rfl⟩
    | cons other front =>
      obtain ⟨rfl, hfront'⟩ := List.cons_prefix_cons.mp hfront
      rw [follow?_map, hentry] at hfound
      exact h front hfront' found hfound

/-- Where the new map has nothing `Spares` holds of the way. -/
theorem spares_of_get?_eq_none (hentry : entries.get? key = none) :
    Spares (some (.map present)) (.map entries) (key :: rest) := by
  intro front hfront found hfound
  cases front with
  | nil =>
    cases hfound
    exact ⟨entries, present, rfl, rfl⟩
  | cons other front =>
    obtain ⟨rfl, -⟩ := List.cons_prefix_cons.mp hfront
    rw [follow?_map, hentry] at hfound
    cases hfound

/-- Where no two maps meet `Spares` holds of no way. -/
theorem not_spares_of_not_map
    (h : ¬ ∃ present entries, old = some (.map present) ∧ new = .map entries) :
    ¬ Spares old new path := by
  intro hspares
  obtain ⟨entries, present, hnew, hold⟩ := hspares [] List.nil_prefix new rfl
  refine h ⟨present, entries, ?_, hnew⟩
  cases old with
  | none => cases hold
  | some value => exact hold

/-- **What the new value has at a path is there**, by `Value.over` over what the old one has
there. -/
theorem follow?_over_of_some (hdistinct : new.Distinct) (h : new.follow? path = some value) :
    (Value.over old new).follow? path = some (Value.over (old.bind (follow? path)) value) := by
  induction path generalizing old new with
  | nil =>
    cases h
    cases old <;> rfl
  | cons key rest ih =>
    by_cases hmap : ∃ present entries, old = some (.map present) ∧ new = .map entries
    · obtain ⟨present, entries, rfl, rfl⟩ := hmap
      rw [follow?_map] at h
      obtain ⟨next, hnext, hvalue⟩ := Option.bind_eq_some_iff.mp h
      have hentries := Fields.distinct_map_iff.mp hdistinct
      rw [Fields.over_map, follow?_map, Fields.get?_merge hentries.nodup, hnext]
      exact ih (hentries.get? hnext) hvalue
    · rw [Fields.over_of_not_map hmap, h]
      -- The new value goes on along the path, so it is a map and the old one is not.
      have hnone : old.bind (follow? (key :: rest)) = none := by
        cases old with
        | none => rfl
        | some before =>
          refine follow?_of_not_map ?_ key rest
          cases before with
          | text | list => rfl
          | map present =>
            cases new with
            | map entries => exact absurd ⟨present, entries, rfl, rfl⟩ hmap
            | text | list => cases h
      rw [hnone, over_none]

/-- **Where the new value has nothing** there is what the old one has, if the new one `Spares` the
way, and else nothing. -/
theorem follow?_over_of_none (hdistinct : new.Distinct) (h : new.follow? path = none) :
    (Spares old new path → (Value.over old new).follow? path = old.bind (follow? path)) ∧
      (¬ Spares old new path → (Value.over old new).follow? path = none) := by
  induction path generalizing old new with
  | nil => cases h
  | cons key rest ih =>
    by_cases hmap : ∃ present entries, old = some (.map present) ∧ new = .map entries
    · obtain ⟨present, entries, rfl, rfl⟩ := hmap
      have hentries := Fields.distinct_map_iff.mp hdistinct
      rw [Fields.over_map, follow?_map, Fields.get?_merge hentries.nodup]
      cases hentry : Keyed.get? key entries with
      | none => exact ⟨fun _ => rfl, fun hspares => absurd (spares_of_get?_eq_none hentry) hspares⟩
      | some next =>
        rw [follow?_map, hentry] at h
        rw [spares_cons_iff hentry]
        exact ih (hentries.get? hentry) h
    · rw [Fields.over_of_not_map hmap]
      exact ⟨fun hspares => absurd hspares (not_spares_of_not_map hmap), fun _ => h⟩

/-- At a text or list of the old value there is that if the new one `Spares` it, and else what the
new value has there. -/
theorem follow?_over_of_leaf (hdistinct : new.Distinct)
    (hold : old.bind (follow? path) = some leaf) (hleaf : leaf.map? = none) :
    (Spares old new path → (Value.over old new).follow? path = some leaf) ∧
      (¬ Spares old new path → (Value.over old new).follow? path = new.follow? path) := by
  cases hnew : new.follow? path with
  | none =>
    rw [← hold]
    exact follow?_over_of_none hdistinct hnew
  | some value =>
    refine ⟨fun hspares => ?_, fun _ => ?_⟩
    · obtain ⟨entries, present, -, hmap⟩ := hspares path (List.prefix_refl path) value hnew
      cases hold.symm.trans hmap
      cases hleaf
    · rw [follow?_over_of_some hdistinct hnew, hold, over_of_leaf hleaf]

/-! ## Leaves -/

/-- A value with `leaf` in the place of what stands at a path. -/
def replaceAt : Value → List Text → Value → Value
  | _, [], leaf => leaf
  | .map entries, key :: rest, leaf =>
    .map (Keyed.put key (replaceAt ((Keyed.get? key entries).getD leaf) rest leaf) entries)
  | value, _ :: _, _ => value

/-- What `replaceAt` has put at a path is there. -/
theorem follow?_replaceAt (h : (new.follow? path).isSome) (leaf : Value) :
    (new.replaceAt path leaf).follow? path = some leaf := by
  induction path generalizing new with
  | nil => rfl
  | cons key rest ih =>
    cases new with
    | text | list => cases h
    | map entries =>
      rw [follow?_map] at h
      cases hentry : Keyed.get? key entries with
      | none =>
        rw [hentry] at h
        cases h
      | some next =>
        rw [hentry] at h
        rw [replaceAt, follow?_map, Keyed.get?_put, if_pos rfl, hentry]
        exact ih h

/-- On the way to a text or list there are maps only, so whether `Spares` holds of it is a matter of
the new value. -/
theorem spares_iff_of_leaf {before : Value} (h : before.follow? path = some leaf)
    (hleaf : leaf.map? = none) :
    Spares (some before) new path ↔
      ∀ front, front <+: path → ∀ value, new.follow? front = some value →
        front ≠ path ∧ value.map?.isSome := by
  have hway : ∀ front, front <+: path → front ≠ path →
      ∃ present, before.follow? front = some (.map present) := by
    intro front hfront hne
    induction front generalizing before path with
    | nil =>
      cases path with
      | nil => exact absurd rfl hne
      | cons key rest =>
        obtain ⟨next, hnext, -⟩ := Option.bind_eq_some_iff.mp h
        obtain ⟨present, hpresent, -⟩ := Option.bind_eq_some_iff.mp hnext
        exact ⟨present, by rw [Value.map?_eq_some_iff.mp hpresent]; rfl⟩
    | cons key front ih =>
      cases path with
      | nil => exact absurd (List.prefix_nil.mp hfront) (List.cons_ne_nil _ _)
      | cons other rest =>
        obtain ⟨rfl, hfront'⟩ := List.cons_prefix_cons.mp hfront
        obtain ⟨next, hnext, hrest⟩ := Option.bind_eq_some_iff.mp h
        obtain ⟨present, hpresent⟩ := ih hrest hfront' fun heq => hne (heq ▸ rfl)
        exact ⟨present, by rw [follow?, hnext]; exact hpresent⟩
  constructor
  · intro hspares front hfront value hvalue
    obtain ⟨entries, present, rfl, hpresent⟩ := hspares front hfront value hvalue
    refine ⟨?_, rfl⟩
    rintro rfl
    cases h.symm.trans hpresent
    cases hleaf
  · intro hmaps front hfront value hvalue
    obtain ⟨hne, hmap⟩ := hmaps front hfront value hvalue
    obtain ⟨entries, hentries⟩ := Option.isSome_iff_exists.mp hmap
    obtain ⟨present, hpresent⟩ := hway front hfront hne
    exact ⟨entries, present, Value.map?_eq_some_iff.mp hentries, hpresent⟩

/-- **A text or list survives where it is spared and nowhere else**: where `Spares` holds, and only
there, any `other` text or list in its place is found when another value has been written over. -/
theorem survives_iff {before : Value} (hdistinct : new.Distinct)
    (h : before.follow? path = some leaf) (hleaf : leaf.map? = none) :
    (∀ other : Value, other.map? = none →
      (Value.over (some (before.replaceAt path other)) new).follow? path = some other) ↔
        Spares (some before) new path := by
  have hput : ∀ other, (some (before.replaceAt path other)).bind (follow? path) = some other :=
    follow?_replaceAt (by rw [h]; rfl)
  have hsame : ∀ other : Value, other.map? = none →
      (Spares (some (before.replaceAt path other)) new path ↔ Spares (some before) new path) :=
    fun other hother => by rw [spares_iff_of_leaf (hput other) hother, spares_iff_of_leaf h hleaf]
  constructor
  · intro hfound
    refine Classical.byContradiction fun hspares => ?_
    -- What is found would be the same for two different texts.
    have hnew : ∀ content, new.follow? path = some (.text content) := by
      intro content
      have hover := follow?_over_of_leaf hdistinct (hput (.text content)) rfl
      rw [← hover.2 fun hspares' => hspares ((hsame _ rfl).mp hspares'), hfound _ rfl]
    cases (hnew []).symm.trans (hnew ['a'])
  · intro hspares other hother
    have hover := follow?_over_of_leaf hdistinct (hput other) hother
    exact hover.1 ((hsame other hother).mpr hspares)

end Value

namespace Fields

variable {old new fields : Fields}

/-! ## One level -/

/-- The `keys` of the old map in their order and then the new ones in theirs, and under each key
what the old map has there (`kept`), the merger of two maps (`met`), or what the new map has there
(`replaced`). -/
structure Merges (old new merged : Fields) : Prop where
  keys : merged.keys = old.keys ++ new.keys.filter (· ∉ old.keys)
  kept : ∀ key, new.get? key = none → merged.get? key = old.get? key
  met : ∀ key present entries, old.get? key = some (.map present) →
    new.get? key = some (.map entries) → merged.get? key = some (.map (merge present entries))
  replaced : ∀ key value, new.get? key = some value →
    (¬ ∃ present entries, old.get? key = some (.map present) ∧ value = .map entries) →
      merged.get? key = some value

/-- By `merge` two maps become one that `Merges` them. -/
theorem merges_merge (hnew : new.keys.Nodup) (old : Fields) : Merges old new (merge old new) where
  keys := by rw [keys_merge, withKeys_eq hnew]
  kept key hkey := by rw [get?_merge hnew, hkey]
  met key present entries hpresent hentries := by
    rw [get?_merge hnew, hentries, hpresent]
    exact congrArg some (over_map present entries)
  replaced key value hvalue hmap := by
    rw [get?_merge hnew, hvalue]
    exact congrArg some (over_of_not_map hmap)

/-- **There is one map that `Merges` two**, the one that `merge` makes. -/
theorem merges_iff (hold : old.keys.Nodup) (hnew : new.keys.Nodup) {merged : Fields} :
    Merges old new merged ↔ merged = merge old new := by
  constructor
  · intro h
    have hmerge := merges_merge hnew old
    have hnodup : merged.keys.Nodup := by
      rw [h.keys, ← hmerge.keys, keys_merge]
      exact nodup_withKeys hold new.keys
    refine Keyed.eq_of_get?_eq hnodup (h.keys.trans hmerge.keys.symm) fun key => ?_
    cases hvalue : new.get? key with
    | none => rw [h.kept key hvalue, hmerge.kept key hvalue]
    | some value =>
      by_cases hmap : ∃ present entries, old.get? key = some (.map present) ∧ value = .map entries
      · obtain ⟨present, entries, hpresent, rfl⟩ := hmap
        rw [h.met key present entries hpresent hvalue,
          hmerge.met key present entries hpresent hvalue]
      · rw [h.replaced key value hvalue hmap, hmerge.replaced key value hvalue hmap]
  · rintro rfl
    exact merges_merge hnew old

/-! ## All levels -/

/-- What becomes of the entries that two maps have at a path. -/
structure MergesAlong (old new : Fields) (path : List Text) : Prop where
  /-- What the new map has there is found, a map with that of the old map under it. -/
  found : ∀ value, (Value.map new).follow? path = some value →
    (Value.map (merge old new)).follow? path = some value ∨
      ∃ present entries, (Value.map old).follow? path = some (.map present) ∧
        value = .map entries ∧
        (Value.map (merge old new)).follow? path = some (.map (merge present entries))
  /-- A text or list of the old map survives, whatever it is, just where it is spared. -/
  survives : ∀ leaf, (Value.map old).follow? path = some leaf → leaf.map? = none →
    ((∀ other : Value, other.map? = none →
      (Value.over (some ((Value.map old).replaceAt path other)) (.map new)).follow? path
        = some other) ↔ Value.Spares (some (.map old)) (.map new) path)
  /-- There it is found. -/
  spared : ∀ leaf, (Value.map old).follow? path = some leaf → leaf.map? = none →
    Value.Spares (some (.map old)) (.map new) path →
      (Value.map (merge old new)).follow? path = some leaf
  /-- Anywhere else there is what the new map has, be it nothing. -/
  lost : ∀ leaf, (Value.map old).follow? path = some leaf → leaf.map? = none →
    ¬ Value.Spares (some (.map old)) (.map new) path →
      (Value.map (merge old new)).follow? path = (Value.map new).follow? path

/-- What becomes of the entries at a `path` is what `MergesAlong` says. -/
theorem mergesAlong (hnew : new.Distinct) (old : Fields) (path : List Text) :
    MergesAlong old new path := by
  have hdistinct := distinct_map_iff.mpr hnew
  have hleaf := @Value.follow?_over_of_leaf (some (.map old)) (.map new)
  refine ⟨?_, fun leaf => Value.survives_iff hdistinct, ?_, ?_⟩
  · intro value hvalue
    rw [← over_map, Value.follow?_over_of_some hdistinct hvalue, Option.bind_some]
    by_cases hmap : ∃ present entries,
        (Value.map old).follow? path = some (.map present) ∧ value = .map entries
    · obtain ⟨present, entries, hold, rfl⟩ := hmap
      rw [hold, over_map]
      exact Or.inr ⟨present, entries, rfl, rfl, rfl⟩
    · exact Or.inl (congrArg some (over_of_not_map hmap))
  · intro leaf hold hnone
    rw [← over_map]
    exact (hleaf hdistinct hold hnone).1
  · intro leaf hold hnone
    rw [← over_map]
    exact (hleaf hdistinct hold hnone).2

/-- **What merging comes to.** The first part: `merge` makes the map that `Merges` the two, the only
one with the keys of the old map and behind them the new ones, each with the old value, the merger
of two maps, or the new value. The second part, `MergesAlong` for every `path`: what the new map has
at a path is found there, and a text or list of the old map survives exactly where the new map has
nothing on the way to it but maps that meet maps. -/
theorem merge_along_paths (hold : old.Distinct) (hnew : new.Distinct) :
    (∀ merged, Merges old new merged ↔ merged = merge old new) ∧
      ∀ path, MergesAlong old new path :=
  ⟨fun _ => merges_iff hold.nodup hnew.nodup, mergesAlong hnew old⟩

/-- Maps and leaves that take each other's places below a common key. What is new stands
where there was a text, the text that meets nothing stays in its place, and what was below
the one that is replaced is gone. -/
theorem merge_along_paths_replaced :
    let old : Fields :=
      [(['T'], .text ['a']),
        (['G'], .map [(['x'], .text ['a']), (['y'], .map [(['z'], .text [])])])]
    let new : Fields :=
      [(['N'], .list []), (['G'], .map [(['y'], .text ['b'])]),
        (['T'], .map [(['n'], .text ['b'])])]
    old.Distinct ∧ new.Distinct ∧
      Keyed.keys (merge old new) = [['T'], ['G'], ['N']] ∧
      (Value.map (merge old new)).follow? [['T'], ['n']] = some (.text ['b']) ∧
      (Value.map (merge old new)).follow? [['G'], ['x']] = some (.text ['a']) ∧
      (Value.map (merge old new)).follow? [['G'], ['y'], ['z']] = none := by
  intro old new
  have hleaf : ∀ leaf : Value, leaf.map? = none → leaf.Distinct := fun _ => Value.distinct_of_leaf
  have hold : old.Distinct :=
    (distinct_nil.put (hleaf _ rfl) ['T']).put (distinct_map_iff.mpr
      ((distinct_nil.put (hleaf _ rfl) ['x']).put
        (distinct_map_iff.mpr (distinct_nil.put (hleaf _ rfl) ['z'])) ['y'])) ['G']
  have hnew : new.Distinct :=
    ((distinct_nil.put (hleaf _ rfl) ['N']).put
      (distinct_map_iff.mpr (distinct_nil.put (hleaf _ rfl) ['y'])) ['G']).put
        (distinct_map_iff.mpr (distinct_nil.put (hleaf _ rfl) ['n'])) ['T']
  obtain ⟨hmerged, halong⟩ := merge_along_paths hold hnew
  refine ⟨hold, hnew, ((hmerged _).mpr rfl).keys, ?_, ?_, ?_⟩
  · rcases (halong [['T'], ['n']]).found (.text ['b']) rfl with hfound | ⟨_, _, -, hmap, -⟩
    · exact hfound
    · cases hmap
  · -- The new map has nothing below `G` at `x`, and there it meets a map.
    have hspares : Value.Spares (some (.map old)) (.map new) [['G'], ['x']] :=
      (Value.spares_cons_iff rfl).mpr (Value.spares_of_get?_eq_none rfl)
    exact (halong _).spared (.text ['a']) rfl rfl hspares
  · have hspares : ¬ Value.Spares (some (.map old)) (.map new) [['G'], ['y'], ['z']] := by
      intro hspares
      have hbelow := (Value.spares_cons_iff rfl).mp ((Value.spares_cons_iff rfl).mp hspares)
      exact Value.not_spares_of_not_map (fun ⟨_, _, _, hmap⟩ => nomatch hmap) hbelow
    exact (halong _).lost (.text []) rfl rfl hspares

/-! ## Merging twice -/

/-- To `merge` a second time changes nothing, if it changes nothing under the keys of the new
map. -/
theorem merge_merge_of_over_over (hold : old.keys.Nodup) (hnew : new.keys.Nodup)
    (h : ∀ key value, new.get? key = some value →
      Value.over (some (Value.over (old.get? key) value)) value = Value.over (old.get? key) value) :
    merge (merge old new) new = merge old new := by
  have hkeys : Keyed.keys (merge (merge old new) new) = Keyed.keys (merge old new) := by
    rw [keys_merge, keys_merge]
    exact withKeys_of_subset fun key hkey => mem_withKeys_iff.mpr (Or.inr hkey)
  refine Keyed.eq_of_get?_eq ?_ hkeys fun key => ?_
  · rw [hkeys, keys_merge]
    exact nodup_withKeys hold new.keys
  · rw [get?_merge hnew, get?_merge hnew]
    cases hvalue : new.get? key with
    | none => rfl
    | some value => exact congrArg some (h key value hvalue)

/-- By `merge` into nothing a map is itself. -/
theorem nil_merge (h : fields.keys.Nodup) : merge [] fields = fields := by
  refine ((merges_iff distinct_nil.nodup h).mp ⟨?_, ?_, ?_, ?_⟩).symm
  · exact (List.filter_eq_self.mpr fun _ _ => rfl).symm
  · exact fun key hkey => hkey
  · exact fun key present entries hpresent => nomatch hpresent
  · exact fun key value hvalue _ => hvalue

/-- **A value that is written a second time** by `Value.over` changes nothing, over whatever it was
written the first time. -/
theorem over_over {value : Value} :
    value.Distinct → ∀ {old : Option Value}, (∀ before, old = some before → before.Distinct) →
      Value.over (some (Value.over old value)) value = Value.over old value := by
  induction value using Value.induction with
  | text content =>
    intro _ old _
    rw [Value.leaf_over old rfl, Value.leaf_over _ rfl]
  | list items =>
    intro _ old _
    rw [Value.leaf_over old rfl, Value.leaf_over _ rfl]
  | map entries ih =>
    intro hvalue old hold
    have hentries := distinct_map_iff.mp hvalue
    by_cases hmap : ∃ present, old = some (.map present)
    · obtain ⟨present, rfl⟩ := hmap
      have hpresent := distinct_map_iff.mp (hold _ rfl)
      rw [over_map, over_map, merge_merge_of_over_over hpresent.nodup hentries.nodup]
      intro key value hkey
      exact ih key value hkey (hentries.get? hkey) fun before hbefore => hpresent.get? hbefore
    · -- The map has taken the place of what is none, and now it meets itself.
      have hself : merge entries entries = entries := by
        have htwice := merge_merge_of_over_over distinct_nil.nodup hentries.nodup
          fun key value hkey =>
            ih key value hkey (hentries.get? hkey) fun before hbefore => nomatch hbefore
        rwa [nil_merge hentries.nodup] at htwice
      have hover : Value.over old (.map entries) = .map entries :=
        over_of_not_map fun ⟨present, _, hsome, _⟩ => hmap ⟨present, hsome⟩
      rw [hover, over_map, hself]

/-- **Merging twice is merging once**, for fields that are `Distinct`. -/
theorem merge_merge (hold : old.Distinct) (hnew : new.Distinct) :
    merge (merge old new) new = merge old new :=
  merge_merge_of_over_over hold.nodup hnew.nodup fun _ _ hkey =>
    over_over (hnew.get? hkey) fun _ hbefore => hold.get? hbefore

/-- By `merge` into itself a map that is `Distinct` stays what it is. -/
theorem merge_self (h : fields.Distinct) : merge fields fields = fields := by
  have htwice := merge_merge distinct_nil h
  rwa [nil_merge h.nodup] at htwice

/-- Maps without a common key may be merged in either order, as far as `get?` goes. -/
theorem get?_merge_comm {first second : Fields} (hfirst : first.keys.Nodup)
    (hsecond : second.keys.Nodup) (h : ∀ key ∈ first.keys, key ∉ second.keys) (fields : Fields)
    (key : Text) :
    Keyed.get? key (merge (merge fields first) second)
      = Keyed.get? key (merge (merge fields second) first) := by
  rw [get?_merge hsecond, get?_merge hfirst, get?_merge hfirst, get?_merge hsecond]
  by_cases hkey : key ∈ first.keys
  · rw [Keyed.get?_eq_none_iff.mpr (h key hkey)]
  · rw [Keyed.get?_eq_none_iff.mpr hkey]

/-- **The laws of merging**, for maps that are `Distinct`, with keys in their order at every level:
`merge` twice is `merge` once, a map merged into itself stays what it is, nothing (`[]`) merged into
a map and a map merged into nothing leave that map, and two maps `first` and `second` without a
common key give the same value under every key in either order. -/
theorem merge_laws {first second : Fields} (hfields : fields.Distinct) (hfirst : first.Distinct)
    (hsecond : second.Distinct) :
    merge (merge fields first) first = merge fields first ∧
      merge fields fields = fields ∧ merge fields [] = fields ∧ merge [] fields = fields ∧
      ((∀ key ∈ first.keys, key ∉ second.keys) →
        ∀ key, Keyed.get? key (merge (merge fields first) second)
          = Keyed.get? key (merge (merge fields second) first)) := by
  refine ⟨merge_merge hfields hfirst, merge_self hfields, ?_, nil_merge hfields.nodup, ?_⟩
  · rw [merge]
  · intro hapart key
    exact get?_merge_comm hfirst.nodup hsecond.nodup hapart fields key

/-- A map that takes the place of a text, and meets itself when it is written again. The
other map shares no key with it and merges with what is there. -/
theorem merge_laws_replaced :
    let fields : Fields := [(['G'], .text ['a']), (['M'], .map [(['x'], .text ['a'])])]
    let first : Fields := [(['G'], .map [(['y'], .text ['b'])])]
    let second : Fields := [(['M'], .map [(['y'], .text ['c'])])]
    fields.Distinct ∧ first.Distinct ∧ second.Distinct ∧
      merge (merge fields first) first = merge fields first ∧
      Keyed.get? ['G'] (merge fields first) = some (.map [(['y'], .text ['b'])]) ∧
      (∀ key ∈ first.keys, key ∉ second.keys) ∧
      ∀ key, Keyed.get? key (merge (merge fields first) second)
        = Keyed.get? key (merge (merge fields second) first) := by
  intro fields first second
  have hleaf : ∀ (key content : Text), Fields.Distinct [(key, .text content)] :=
    fun key _ => distinct_nil.put (Value.distinct_of_leaf rfl) key
  have hfields : fields.Distinct :=
    (hleaf ['G'] ['a']).put (distinct_map_iff.mpr (hleaf ['x'] ['a'])) ['M']
  have hfirst : first.Distinct := distinct_nil.put (distinct_map_iff.mpr (hleaf ['y'] ['b'])) ['G']
  have hsecond : second.Distinct :=
    distinct_nil.put (distinct_map_iff.mpr (hleaf ['y'] ['c'])) ['M']
  have hapart : ∀ key ∈ first.keys, key ∉ second.keys := by decide
  obtain ⟨htwice, -, -, -, hcomm⟩ := merge_laws hfields hfirst hsecond
  refine ⟨hfields, hfirst, hsecond, htwice, ?_, hapart, hcomm hapart⟩
  rw [get?_merge hfirst.nodup]
  rfl

end Fields

end Stencil
