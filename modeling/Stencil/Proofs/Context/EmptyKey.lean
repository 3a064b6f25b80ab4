import Stencil.Proofs.Context.Write

/-!
# Values without a key

A value cannot be inserted under the empty key. Neither can a locale put one there, as
its strings stand under a key of their own. But a data file may have an empty key at its
top level, and merging it puts the value of that key among the others. So there is a
value under the empty key just when such a file has been merged and the key has not been
taken out since.

Theorems:
- `hasEmptyKey_act_iff`: how a value comes under the empty key, and how it stays there.
- `perform_hasEmptyKey_iff`: when there is one after a run of actions.
- `perform_hasEmptyKey_of_file`: a run after which there is one.
-/

namespace Stencil.Context

variable {tree : FileTree} {context : Context} {action : Action} {actions : List Action}

/-- The `values` have one under the empty key `[]`. -/
def HasEmptyKey (context : Context) : Prop :=
  [] ∈ context.values.keys

/-- The action merges a data file that is `new` and says a value under the empty key. -/
inductive MergesEmptyKey (tree : FileTree) (context : Context) : Action → Prop
  | load {name : Text} {path : Path} {fields : Fields}
      (first : FirstFile tree (candidates name context.searchPaths) path)
      (new : ¬ context.isLoaded tree path) (acceptable : Acceptable tree path fields)
      (mem : [] ∈ fields.keys) : MergesEmptyKey tree context (.load name)

/-- A load merges a value under the empty key if its `mergedFields?` have one. -/
theorem mergesEmptyKey_load_iff {name : Text} : MergesEmptyKey tree context (.load name) ↔
    ∃ fields, mergedFields? tree name context = some fields ∧ [] ∈ fields.keys := by
  constructor
  · rintro ⟨hfirst, hnew, hsaid, hmem⟩
    exact ⟨_, mergedFields?_eq_some_iff.mpr ⟨_, hfirst, hnew, hsaid⟩, hmem⟩
  · rintro ⟨fields, hfields, hmem⟩
    obtain ⟨path, hfirst, hnew, hsaid⟩ := mergedFields?_eq_some_iff.mp hfields
    exact .load hfirst hnew hsaid hmem

/-- To `put` a value under another `key` brings none under the empty key. -/
theorem mem_keys_put_iff {values : Fields} {key : Text} (h : key ≠ []) (value : Value) :
    [] ∈ Keyed.keys (values.put key value) ↔ [] ∈ values.keys := by
  rw [Keyed.keys_put, mem_withKey_iff]
  exact or_iff_left (Ne.symm h)

/-- **A value is under the empty key** after an action that `MergesEmptyKey`, and after any other
action but its removal, `remove []`, if it was there before. -/
theorem hasEmptyKey_act_iff (hnodup : context.values.keys.Nodup) :
    (act tree action context).2.HasEmptyKey ↔
      MergesEmptyKey tree context action ∨ context.HasEmptyKey ∧ action ≠ .remove [] := by
  unfold HasEmptyKey
  rw [values_act]
  cases action with
  | addPath path =>
    have hnot : ¬ MergesEmptyKey tree context (.addPath path) := by rintro ⟨⟩
    simp [Action.write?, hnot]
  | load name =>
    rw [mergesEmptyKey_load_iff, Action.write?]
    cases mergedFields? tree name context with
    | none => simp
    | some fields =>
      show [] ∈ Keyed.keys (Fields.merge context.values fields) ↔ _
      rw [Fields.keys_merge, mem_withKeys_iff]
      simp [or_comm]
  | loadLocale locale =>
    have hnot : ¬ MergesEmptyKey tree context (.loadLocale locale) := by rintro ⟨⟩
    rw [Action.write?]
    cases strings? tree locale context with
    | none => simp [hnot]
    | some strings =>
      show [] ∈ Keyed.keys (context.values.put languageKey (.map strings)) ↔ _
      rw [mem_keys_put_iff (by decide)]
      simp [hnot]
  | insert key value =>
    have hnot : ¬ MergesEmptyKey tree context (.insert key value) := by rintro ⟨⟩
    rw [Action.write?]
    split
    next => simp [hnot]
    next hkey =>
      show [] ∈ Keyed.keys (context.values.put key value) ↔ _
      rw [mem_keys_put_iff hkey]
      simp [hnot]
  | remove key =>
    have hnot : ¬ MergesEmptyKey tree context (.remove key) := by rintro ⟨⟩
    show [] ∈ Keyed.keys (context.values.erase key) ↔ _
    rw [Keyed.keys_erase]
    by_cases hkey : key = []
    · subst hkey
      simp [hnot, hnodup.not_mem_erase]
    · rw [List.mem_erase_of_ne (Ne.symm hkey)]
      simp [hkey, hnot]

/-- **There is a value under the empty key after a run of actions** if it was there before or an
`action` of the run `MergesEmptyKey`, and no `remove []` comes after that. -/
theorem hasEmptyKey_perform_iff (hnodup : context.values.keys.Nodup) :
    (perform tree actions context).2.HasEmptyKey ↔
      (context.HasEmptyKey ∧ .remove [] ∉ actions) ∨
        ∃ earlier action later, actions = earlier ++ action :: later ∧
          MergesEmptyKey tree (perform tree earlier context).2 action ∧ .remove [] ∉ later := by
  induction actions generalizing context with
  | nil => simp [perform]
  | cons first rest ih =>
    show (perform tree rest (act tree first context).2).2.HasEmptyKey ↔ _
    rw [ih (nodup_keys_act hnodup), hasEmptyKey_act_iff hnodup]
    -- The action that merges the key is the first one, or it is one of the others.
    constructor
    · rintro (⟨hmerges | ⟨hthere, hfirst⟩, hrest⟩ | ⟨earlier, action, later, rfl, hmerges, hlater⟩)
      · exact Or.inr ⟨[], first, rest, rfl, hmerges, hrest⟩
      · exact Or.inl ⟨hthere, by simp [Ne.symm hfirst, hrest]⟩
      · exact Or.inr ⟨first :: earlier, action, later, rfl, hmerges, hlater⟩
    · rintro (⟨hthere, hnone⟩ | ⟨earlier, action, later, hsplit, hmerges, hlater⟩)
      · obtain ⟨hfirst, hrest⟩ := not_or.mp (mt List.mem_cons.mpr hnone)
        exact Or.inl ⟨Or.inr ⟨hthere, Ne.symm hfirst⟩, hrest⟩
      · cases earlier with
        | nil =>
          cases hsplit
          exact Or.inl ⟨Or.inl hmerges, hlater⟩
        | cons other earlier =>
          cases hsplit
          exact Or.inr ⟨earlier, action, later, rfl, hmerges, hlater⟩

/-- **A value comes under the empty key from data files only.** After a run of `actions` that begins
without any values, the context `HasEmptyKey` just when the run can be cut at an `action` that
`MergesEmptyKey` where it stands, and `remove []` is not among those `later`. No insertion, no
locale and no directory brings one. -/
theorem perform_hasEmptyKey_iff (tree : FileTree) (searchPaths : List Path)
    (actions : List Action) :
    (perform tree actions { searchPaths := searchPaths }).2.HasEmptyKey ↔
      ∃ earlier action later, actions = earlier ++ action :: later ∧
        MergesEmptyKey tree (perform tree earlier { searchPaths := searchPaths }).2 action ∧
          .remove [] ∉ later := by
  have hnodup : (Context.values { searchPaths := searchPaths }).keys.Nodup := List.nodup_nil
  rw [hasEmptyKey_perform_iff hnodup]
  exact or_iff_right fun h => absurd h.1 List.not_mem_nil

/-- A data file whose one key is empty puts a value where `insert` answers `missingKey`. -/
theorem perform_hasEmptyKey_of_file :
    let tree : FileTree := { root := .directory [(['f'], .file "\"\": x\n".toUTF8)] }
    (perform tree [.load "/f".toList] {}).2.HasEmptyKey ∧
      ∀ value context, act tree (.insert [] value) context = (.error .missingKey, context) := by
  intro tree
  have hmem : [] ∈ (perform tree [.load "/f".toList] {}).2.values.keys := by decide +kernel
  exact ⟨hmem, fun _ _ => rfl⟩

end Stencil.Context
