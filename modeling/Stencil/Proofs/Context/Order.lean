import Stencil.Proofs.Context.Write

/-!
# The order of the keys

The keys of a data context stand in the order in which they last became present. To say
this without looking at the order, a clock is kept beside the values: it goes on with
every key that is written, and a key that was not there gets the time. Writing a key
that is there leaves its time alone, and taking it out takes its time away, so that it
gets a new one when it comes back.

The same is so of the keys of every map within the values. Merging goes on below a key
that leads to a map on both sides, and there it is the same law one level down. Where a
value is put in the place of another one all keys below it are new.

Theorems:
- `Arrivals.Orders.eq`: there is one way to put keys in the order in which they arrived.
- `orders_write`: a change keeps the order, at every level.
- `orders_perform`: so does a run of actions.
- `perform_keeps_order`: all this of every run that begins with an empty context.
-/

namespace Stencil

/-! ## Times of arrival -/

/-- The time on a `clock` at which each key that is present became so. -/
structure Arrivals where
  clock : Nat := 0
  since : Text → Option Nat := fun _ => none

namespace Arrivals

/-- A key is written: if it is not present it becomes so now, at the time of the `clock`. -/
def write (arrivals : Arrivals) (key : Text) : Arrivals where
  clock := arrivals.clock + 1
  since other :=
    if other = key ∧ arrivals.since key = none then some arrivals.clock else arrivals.since other

/-- Keys are written one after the other, by `write`. -/
def writeAll (keys : List Text) (arrivals : Arrivals) : Arrivals :=
  keys.foldl write arrivals

/-- A key is taken out. -/
def erase (key : Text) (arrivals : Arrivals) : Arrivals :=
  { arrivals with since := fun other => if other = key then none else arrivals.since other }

/-- All keys are replaced by others, which become present in their order. -/
def replace (keys : List Text) (arrivals : Arrivals) : Arrivals :=
  writeAll keys { arrivals with since := fun _ => none }

/-- The `keys` are those that are present, in the order in which they became so: their times are
`ascending`, and all of them `past`. -/
structure Orders (arrivals : Arrivals) (keys : List Text) : Prop where
  mem_iff : ∀ key, key ∈ keys ↔ (arrivals.since key).isSome
  past : ∀ key time, arrivals.since key = some time → time < arrivals.clock
  ascending : keys.Pairwise fun key later =>
    ∃ time next, arrivals.since key = some time ∧ arrivals.since later = some next ∧ time < next

variable {arrivals : Arrivals} {keys others : List Text} {key : Text}

/-- No key stands twice. -/
theorem Orders.nodup (h : arrivals.Orders keys) : keys.Nodup := by
  refine h.ascending.imp ?_
  rintro key later ⟨time, next, htime, hnext, hlt⟩ rfl
  cases htime.symm.trans hnext
  exact Nat.lt_irrefl time hlt

/-- **There is one order of arrival**: no two lists of keys are in the order that `Orders` tells. -/
theorem Orders.eq (h : arrivals.Orders keys) (hothers : arrivals.Orders others) :
    keys = others := by
  have hperm : keys.Perm others := by
    refine (List.perm_ext_iff_of_nodup h.nodup hothers.nodup).mpr fun key => ?_
    rw [h.mem_iff, hothers.mem_iff]
  refine hperm.eq_of_pairwise (fun key later _ _ hkey hlater => ?_) h.ascending hothers.ascending
  obtain ⟨time, next, htime, hnext, hlt⟩ := hkey
  obtain ⟨next', time', hnext', htime', hgt⟩ := hlater
  cases htime.symm.trans htime'
  cases hnext.symm.trans hnext'
  exact absurd hlt (Nat.lt_asymm hgt)

/-- Before anything is written there are no keys. -/
theorem orders_nil (clock : Nat) : Orders ⟨clock, fun _ => none⟩ [] where
  mem_iff key := by simp
  past key time h := nomatch h
  ascending := List.Pairwise.nil

/-- A key that is written stays where it is, or goes behind all others, as in `withKey`. -/
theorem Orders.write (h : arrivals.Orders keys) (key : Text) :
    (arrivals.write key).Orders (withKey keys key) := by
  unfold withKey
  split
  next hmem =>
    -- The key is present, so it keeps its time.
    obtain ⟨time, htime⟩ := Option.isSome_iff_exists.mp ((h.mem_iff key).mp hmem)
    have hsince : (arrivals.write key).since = arrivals.since := by
      funext other
      exact if_neg fun hnew => by simp [htime] at hnew
    refine ⟨?_, ?_, ?_⟩
    · rw [hsince]
      exact h.mem_iff
    · rw [hsince]
      exact fun other time htime => Nat.lt_succ_of_lt (h.past other time htime)
    · rw [hsince]
      exact h.ascending
  next hmem =>
    have hnone : arrivals.since key = none := by
      rw [← Option.not_isSome_iff_eq_none, ← h.mem_iff]
      exact hmem
    have hself : (arrivals.write key).since key = some arrivals.clock := if_pos ⟨rfl, hnone⟩
    have hother : ∀ other, other ≠ key → (arrivals.write key).since other = arrivals.since other :=
      fun other hne => if_neg fun hnew => hne hnew.1
    have hkeep : ∀ other ∈ keys, (arrivals.write key).since other = arrivals.since other :=
      fun other hmem' => hother other fun heq => hmem (heq ▸ hmem')
    refine ⟨?_, ?_, ?_⟩
    · intro other
      by_cases hne : other = key
      · subst hne
        simp [hself]
      · rw [hother other hne, ← h.mem_iff]
        simp [hne]
    · intro other time htime
      by_cases hne : other = key
      · subst hne
        cases hself.symm.trans htime
        exact Nat.lt_succ_self _
      · rw [hother other hne] at htime
        exact Nat.lt_succ_of_lt (h.past other time htime)
    · refine List.pairwise_append.mpr ⟨?_, List.pairwise_singleton _ _, ?_⟩
      · refine h.ascending.imp_of_mem fun hkey hlater hpair => ?_
        rw [hkeep _ hkey, hkeep _ hlater]
        exact hpair
      · intro other hother' last hlast
        obtain ⟨time, htime⟩ := Option.isSome_iff_exists.mp ((h.mem_iff other).mp hother')
        rw [List.mem_singleton.mp hlast, hkeep other hother', hself]
        exact ⟨time, _, htime, rfl, h.past other time htime⟩

/-- Keys that are written go behind those that are there, in their order, as in `withKeys`. -/
theorem Orders.writeAll (h : arrivals.Orders keys) (new : List Text) :
    (arrivals.writeAll new).Orders (withKeys keys new) := by
  induction new generalizing arrivals keys with
  | nil => exact h
  | cons key rest ih => exact ih (h.write key)

/-- Keys that `replace` others stand in their order. -/
theorem orders_replace {new : List Text} (h : new.Nodup) (arrivals : Arrivals) :
    (arrivals.replace new).Orders new := by
  have hall : withKeys [] new = new := by
    rw [withKeys_eq h, List.nil_append, List.filter_eq_self]
    simp
  have horders := (orders_nil arrivals.clock).writeAll new
  rw [hall] at horders
  exact horders

/-- A key that is taken out moves no other. -/
theorem Orders.erase (h : arrivals.Orders keys) (key : Text) :
    (arrivals.erase key).Orders (keys.erase key) := by
  have hkeep : ∀ other ∈ keys.erase key, (arrivals.erase key).since other = arrivals.since other :=
    fun other hother => if_neg fun heq => h.nodup.not_mem_erase (heq ▸ hother)
  refine ⟨?_, ?_, ?_⟩
  · intro other
    by_cases hne : other = key
    · subst hne
      simp [Arrivals.erase, h.nodup.not_mem_erase]
    · rw [List.mem_erase_of_ne hne, h.mem_iff]
      simp [Arrivals.erase, hne]
  · intro other time htime
    by_cases hne : other = key
    · simp [Arrivals.erase, hne] at htime
    · exact h.past other time (by simpa [Arrivals.erase, hne] using htime)
  · refine (h.ascending.sublist List.erase_sublist).imp_of_mem fun hkey hlater hpair => ?_
    rw [hkeep _ hkey, hkeep _ hlater]
    exact hpair

/-! ## Arrivals at a level -/

/-- Fields are merged at a level: below a key that leads to a map on both sides they are merged
again, and below any other key that is written everything is replaced. -/
def merge : List Text → Fields → Fields → Arrivals → Arrivals
  | [], _, new, arrivals => arrivals.writeAll new.keys
  | key :: rest, fields, new, arrivals =>
    match new.get? key with
    | none => arrivals
    | some value =>
      match fields.get? key, value with
      | some (.map present), .map entries => merge rest present entries arrivals
      | _, value => arrivals.replace (keysOf (value.at? rest))

/-- To `merge` keeps the order at every level. -/
theorem Orders.merge {level : List Text} {fields new : Fields} {arrivals : Arrivals}
    (hdistinct : level = [] ∨ new.Distinct)
    (h : arrivals.Orders (keysOf (Fields.at? level fields))) :
    (arrivals.merge level fields new).Orders
      (keysOf (Fields.at? level (Fields.merge fields new))) := by
  induction level generalizing fields new with
  | nil =>
    show (arrivals.writeAll new.keys).Orders (Keyed.keys (Fields.merge fields new))
    rw [Fields.keys_merge]
    exact Orders.writeAll h new.keys
  | cons key rest ih =>
    have hnew : new.Distinct := hdistinct.resolve_left (List.cons_ne_nil _ _)
    unfold Arrivals.merge
    split
    next hnone =>
      rw [Fields.at?_cons_merge_of_none hnew.nodup hnone]
      exact h
    next value hvalue =>
      split
      next present entries hold =>
        rw [Fields.at?_cons_merge_of_map hnew.nodup hold hvalue]
        refine ih (Or.inr (Fields.distinct_map_iff.mp (hnew.get? hvalue))) ?_
        rw [Fields.at?, hold] at h
        exact h
      next hmap =>
        rw [Fields.at?_cons_merge_of_not_map hnew.nodup hvalue]
        · exact orders_replace ((hnew.get? hvalue).nodup_keysOf rest) arrivals
        · rintro ⟨present, entries, hold, rfl⟩
          exact hmap present entries hold rfl

end Arrivals

namespace Context

/-- What a change of the `values` makes of the arrivals at a `level`. -/
def Write.arrive (level : List Text) (values : Fields) (write : Write) (arrivals : Arrivals) :
    Arrivals :=
  match write, level with
  | .merge fields, level => arrivals.merge level values fields
  | .put key _, [] => arrivals.write key
  | .put key value, other :: rest =>
    if key = other then arrivals.replace (keysOf (value.at? rest)) else arrivals
  | .erase key, [] => arrivals.erase key
  | .erase key, other :: _ => if key = other then arrivals.replace [] else arrivals

/-- What a run of actions makes of the arrivals at a `level`: those of each `write?` in turn. -/
def arrivals (tree : FileTree) (level : List Text) :
    List Action → Context → Arrivals → Arrivals
  | [], _, start => start
  | action :: rest, context, start =>
    arrivals tree level rest (act tree action context).2
      (((action.write? tree context).map fun write =>
        write.arrive level context.values start).getD start)

/-- The keys at a `level` of the values of a context. -/
def keysAt (level : List Text) (context : Context) : List Text :=
  keysOf (Fields.at? level context.values)

variable {tree : FileTree} {level : List Text} {context : Context} {start : Arrivals}

/-- **A change keeps the order at every level**: `arrive` has the keys of `write.apply` in order. -/
theorem orders_write {values : Fields} {write : Write}
    (hdistinct : level = [] ∨ values.Distinct ∧ write.Distinct)
    (h : start.Orders (keysOf (Fields.at? level values))) :
    (write.arrive level values start).Orders (keysOf (Fields.at? level (write.apply values))) := by
  cases write with
  | merge fields => exact h.merge (hdistinct.imp id And.right)
  | put key value =>
    cases level with
    | nil =>
      show (start.write key).Orders (Keyed.keys (Keyed.put key value values))
      rw [Keyed.keys_put]
      exact Arrivals.Orders.write h key
    | cons other rest =>
      obtain ⟨-, hvalue⟩ := hdistinct.resolve_left (List.cons_ne_nil _ _)
      rw [Write.apply, Fields.at?_cons_put, Write.arrive]
      split
      next => exact Arrivals.orders_replace (Value.Distinct.nodup_keysOf hvalue rest) start
      next => exact h
  | erase key =>
    cases level with
    | nil =>
      show (start.erase key).Orders (Keyed.keys (Keyed.erase key values))
      rw [Keyed.keys_erase]
      exact Arrivals.Orders.erase h key
    | cons other rest =>
      obtain ⟨hvalues, -⟩ := hdistinct.resolve_left (List.cons_ne_nil _ _)
      rw [Write.apply, Fields.at?_cons_erase hvalues.nodup, Write.arrive]
      split
      next => exact Arrivals.orders_replace List.nodup_nil start
      next => exact h

/-- An action keeps the order of `keysAt` every level. -/
theorem orders_act {action : Action}
    (hdistinct : level = [] ∨ context.values.Distinct ∧ action.Distinct)
    (h : start.Orders (context.keysAt level)) :
    (((action.write? tree context).map fun write =>
      write.arrive level context.values start).getD start).Orders
        ((act tree action context).2.keysAt level) := by
  unfold keysAt
  rw [values_act]
  cases hwrite : action.write? tree context with
  | none => exact h
  | some write =>
    exact orders_write (hdistinct.imp id fun ⟨hvalues, haction⟩ =>
      ⟨hvalues, Write.distinct_of_write? hwrite haction⟩) h

/-- **A run of actions keeps the order at every level**: `arrivals` has the keys of `keysAt` in
order. -/
theorem orders_perform {actions : List Action}
    (hdistinct : level = [] ∨ context.values.Distinct ∧ ∀ action ∈ actions, action.Distinct)
    (h : start.Orders (context.keysAt level)) :
    (arrivals tree level actions context start).Orders
      ((perform tree actions context).2.keysAt level) := by
  induction actions generalizing context start with
  | nil => exact h
  | cons action rest ih =>
    refine ih ?_ (orders_act ?_ h)
    · refine hdistinct.imp id fun ⟨hvalues, hactions⟩ => ⟨?_, ?_⟩
      · exact distinct_act hvalues (hactions action List.mem_cons_self)
      · exact fun other hother => hactions other (List.mem_cons_of_mem _ hother)
    · exact hdistinct.imp id fun ⟨hvalues, hactions⟩ =>
        ⟨hvalues, hactions action List.mem_cons_self⟩

/-! ## One action -/

/-- What one action `act` does to the order of the keys of a context. -/
structure KeysKept (tree : FileTree) (context : Context) : Prop where
  /-- No key stands twice. -/
  nodup : context.values.keys.Nodup
  /-- Keys that are not taken out stay where they are, and new ones go behind them. -/
  stays : ∀ action, (∀ key, action ≠ .remove key) →
    context.values.keys <+: (act tree action context).2.values.keys
  /-- A key that is inserted goes behind the others unless it is there, as in `withKey`. -/
  inserted : ∀ key value, key ≠ [] →
    (act tree (.insert key value) context).2.values.keys = withKey context.values.keys key
  /-- So does the `languageKey` for the strings of a locale. -/
  translated : ∀ locale strings, strings? tree locale context = some strings →
    (act tree (.loadLocale locale) context).2.values.keys = withKey context.values.keys languageKey
  /-- Wherever a map of a data file meets a map of the values, its new keys go behind
  those that are there, in the order of the file. -/
  merged : ∀ name fields level present entries, mergedFields? tree name context = some fields →
    Fields.at? level context.values = some present → Fields.at? level fields = some entries →
    (act tree (.load name) context).2.keysAt level
      = present.keys ++ entries.keys.filter (· ∉ present.keys)
  /-- The other keys close the gap that one leaves. -/
  removed : ∀ key, (act tree (.remove key) context).2.values.keys = context.values.keys.erase key
  /-- A key that is taken out and comes back goes to the end. -/
  returned : ∀ key value, key ≠ [] →
    (perform tree [.remove key, .insert key value] context).2.values.keys
      = context.values.keys.erase key ++ [key]

/-- By `withKey` the keys stay where they are, and the new one goes behind them. -/
theorem prefix_withKey (keys : List Text) (key : Text) : keys <+: withKey keys key := by
  unfold withKey
  split
  next => exact List.prefix_refl keys
  next => exact List.prefix_append keys [key]

/-- By `withKeys` the keys stay where they are, and others go behind them. -/
theorem prefix_withKeys (keys new : List Text) : keys <+: withKeys keys new := by
  induction new generalizing keys with
  | nil => exact List.prefix_refl keys
  | cons key rest ih => exact (prefix_withKey keys key).trans (ih _)

/-- An action other than `.remove` leaves the keys where they are. -/
theorem prefix_keys_act {action : Action} (h : ∀ key, action ≠ .remove key) :
    context.values.keys <+: (act tree action context).2.values.keys := by
  rw [values_act]
  cases hwrite : action.write? tree context with
  | none => exact List.prefix_refl _
  | some write =>
    rw [Option.map_some, Option.getD_some]
    cases write with
    | merge fields =>
      rw [Write.apply, Fields.keys_merge]
      exact prefix_withKeys _ _
    | put key value =>
      rw [Write.apply, Keyed.keys_put]
      exact prefix_withKey _ _
    | erase key =>
      cases action with
      | remove other => exact absurd rfl (h other)
      | _ => simp [Action.write?] at hwrite

/-- An insertion under a key that is not empty is one `put`. -/
theorem values_act_insert {key : Text} (h : key ≠ []) (value : Value) :
    (act tree (.insert key value) context).2.values = context.values.put key value := by
  rw [values_act, Action.write?, if_neg h]
  rfl

/-- **What one action does to the order of the keys**: `KeysKept` holds wherever no key stands
twice. -/
theorem keysKept (tree : FileTree) (hnodup : context.values.keys.Nodup) :
    KeysKept tree context where
  nodup := hnodup
  stays action h := prefix_keys_act h
  inserted key value h := by rw [values_act_insert h, Keyed.keys_put]
  translated locale strings h := by
    rw [values_act, Action.write?, h]
    exact Keyed.keys_put languageKey (.map strings) context.values
  merged name fields level present entries hfields hpresent hentries := by
    obtain ⟨_, -, -, _, -, hsaid⟩ := mergedFields?_eq_some_iff.mp hfields
    have hmerge := Fields.at?_merge hsaid.distinct hpresent hentries
    rw [keysAt, values_act, Action.write?, hfields]
    show keysOf (Fields.at? level (Fields.merge context.values fields)) = _
    rw [hmerge, ← withKeys_eq (hsaid.distinct level entries hentries), ← Fields.keys_merge]
    rfl
  removed key := Keyed.keys_erase key context.values
  returned key value h := by
    show (act tree (.insert key value) (act tree (.remove key) context).2).2.values.keys = _
    rw [values_act_insert h, Keyed.keys_put]
    show withKey (Keyed.keys (Keyed.erase key context.values)) key = _
    rw [Keyed.keys_erase, withKey, if_neg hnodup.not_mem_erase]

/-! ## Runs from the beginning -/

/-- **Keys stand in the order in which they last became present**, in any run of `actions` that
begins with an empty context. The first part says that `keysAt` any `level` is the one list of keys
that `arrivals` has in order: at the top level (`level = []`) without a condition, and in the maps
below it for actions that are `Distinct`, whose inserted maps have distinct keys as maps do. The
second part, `KeysKept`, is about any next action: what is written over stays in its place, what is
new goes behind what is there, in the order of its data file, and what is taken out leaves the
others in their order. -/
theorem perform_keeps_order (tree : FileTree) (actions : List Action) :
    (∀ level, (level = [] ∨ ∀ action ∈ actions, action.Distinct) →
      ∀ keys, (arrivals tree level actions {} {}).Orders keys ↔
        keys = (perform tree actions {}).2.keysAt level) ∧
    KeysKept tree (perform tree actions {}).2 := by
  have horders : ∀ level, (level = [] ∨ ∀ action ∈ actions, action.Distinct) →
      (arrivals tree level actions {} {}).Orders ((perform tree actions {}).2.keysAt level) := by
    intro level hlevel
    refine orders_perform (hlevel.imp id fun h => ⟨Fields.distinct_nil, h⟩) ?_
    -- Before the first action no key is present at any level.
    have hnothing : keysAt level {} = [] := by cases level <;> rfl
    rw [hnothing]
    exact Arrivals.orders_nil 0
  refine ⟨?_, keysKept tree (horders [] (Or.inl rfl)).nodup⟩
  intro level hlevel keys
  constructor
  · exact fun hkeys => hkeys.eq (horders level hlevel)
  · rintro rfl
    exact horders level hlevel

/-- Two data files with a map in common, and a key that comes back: the map keeps the
place of its key and takes the new key of the second file behind its own. -/
theorem perform_keeps_order_merged :
    let tree : FileTree :=
      { root := .directory
          [(['d'], .directory
            [(['a'], .file "F: a\nG:\n  x: a\n  y: a\nL: a\n".toUTF8),
             (['b'], .file "G:\n  y: b\n  z: b\nF: b\n".toUTF8)])] }
    let actions : List Action :=
      [.addPath ⟨"/d".toList⟩, .load ['a'], .load ['b'], .remove ['F'], .insert ['F'] (.text [])]
    let context := (perform tree actions {}).2
    (∀ action ∈ actions, action.Distinct) ∧
      context.keysAt [] = [['G'], ['L'], ['F']] ∧
      (arrivals tree [] actions {} {}).Orders [['G'], ['L'], ['F']] ∧
      context.keysAt [['G']] = [['x'], ['y'], ['z']] ∧
      (arrivals tree [['G']] actions {} {}).Orders [['x'], ['y'], ['z']] := by
  intro tree actions context
  have hdistinct : ∀ action ∈ actions, action.Distinct := by
    have hinserted : (Value.text []).Distinct := fun level inner hinner => nomatch hinner
    simp [actions, Action.Distinct, hinserted]
  have htop : context.keysAt [] = [['G'], ['L'], ['F']] := by decide +kernel
  have hwithin : context.keysAt [['G']] = [['x'], ['y'], ['z']] := by decide +kernel
  have horder := (perform_keeps_order tree actions).1
  exact ⟨hdistinct, htop, (horder [] (Or.inl rfl) _).mpr htop.symm, hwithin,
    (horder [['G']] (Or.inr hdistinct) _).mpr hwithin.symm⟩

end Context

end Stencil
