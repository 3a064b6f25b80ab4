import Stencil.Proofs.Context.DataFile

/-!
# What is written to the values of a context

Whatever is done to a data context, there are three ways in which its values change: the
fields of a data file are merged over them, a value is put under a key, or a key is taken
out. `Action.write?` tells which of them an action does, so that what is true of each of
the three is true of every action.

Theorems:
- `mergedFields?_eq_some_iff`: what loading a name merges.
- `values_act`: an action changes the values by what it writes.
- `distinct_perform`: keys are distinct at every level, whatever is done.
-/

namespace Stencil.Context

/-- A change of the values of a context: fields to `merge`, a value to `put`, or a key to
`erase`. -/
inductive Write where
  | merge (fields : Fields)
  | put (key : Text) (value : Value)
  | erase (key : Text)

/-- The values after a change. -/
def Write.apply (values : Fields) : Write → Fields
  | .merge fields => Fields.merge values fields
  | .put key value => values.put key value
  | .erase key => values.erase key

/-- The fields that are merged when a name is loaded, if any are: those that `readFields` reads from
its file, unless this `isLoaded`. -/
def mergedFields? (tree : FileTree) (name : Text) (context : Context) : Option Fields := do
  let path ← context.resolve? tree name
  if context.isLoaded tree path then none else (readFields tree path).toOption

/-- The strings that are put in place when a locale is loaded, if any are: those that `readFields`
reads from its `localeFile`. -/
def strings? (tree : FileTree) (locale : Text) (context : Context) : Option Fields := do
  (readFields tree (← context.resolve? tree (localeFile locale))).toOption

/-- The change that an action makes to the values of a context, `none` if it makes none. -/
def Action.write? (tree : FileTree) (context : Context) : Action → Option Write
  | .addPath _ => none
  | .load name => (mergedFields? tree name context).map .merge
  | .loadLocale locale =>
    (strings? tree locale context).map fun strings => .put languageKey (.map strings)
  | .insert key value => if key = [] then none else some (.put key value)
  | .remove key => some (.erase key)

variable {tree : FileTree} {context : Context} {action : Action} {actions : List Action}

theorem toOption_eq_some_iff {α ε : Type} {outcome : Except ε α} {value : α} :
    outcome.toOption = some value ↔ outcome = .ok value := by
  cases outcome <;> simp [Except.toOption]

/-- **What loading a name merges**: what the `FirstFile` of its `candidates` says, if it is not
`isLoaded`. -/
theorem mergedFields?_eq_some_iff {name : Text} {fields : Fields} :
    mergedFields? tree name context = some fields ↔
      ∃ path, FirstFile tree (candidates name context.searchPaths) path ∧
        ¬ context.isLoaded tree path ∧ Acceptable tree path fields := by
  unfold mergedFields?
  simp only [Option.bind_eq_bind, Option.bind_eq_some_iff, resolve?_eq_some_iff]
  refine exists_congr fun path => and_congr_right fun _ => ?_
  split
  next hloaded => simp [hloaded]
  next hnew => rw [toOption_eq_some_iff, readFields_eq_ok_iff, and_iff_right hnew]

/-- What loading a locale puts in place is what the `FirstFile` of the locale says. -/
theorem strings?_eq_some_iff {locale : Text} {strings : Fields} :
    strings? tree locale context = some strings ↔
      ∃ path, FirstFile tree (candidates (localeFile locale) context.searchPaths) path ∧
        Acceptable tree path strings := by
  unfold strings?
  simp only [Option.bind_eq_bind, Option.bind_eq_some_iff, resolve?_eq_some_iff,
    toOption_eq_some_iff, readFields_eq_ok_iff]

/-- A `Turn` changes the values by the `write?` of its action. -/
theorem Turn.values_eq {before after : Context} {answer : Except Error Unit} {file : Option Path}
    (h : Turn tree action before answer file after) :
    after.values
      = ((action.write? tree before).map (Write.apply before.values)).getD before.values := by
  cases h with
  | added new => rfl
  | known mem same => rfl
  | merged found new read =>
    rw [Action.write?, mergedFields?_eq_some_iff.mpr
      ⟨_, resolve?_eq_some_iff.mp found, new, readFields_eq_ok_iff.mp read⟩]
    rfl
  | passedOver found loaded => simp [Action.write?, mergedFields?, found, loaded]
  | notFound missing => simp [Action.write?, mergedFields?, missing]
  | notRead found new fails =>
    simp [Action.write?, mergedFields?, found, new, fails, Except.toOption]
  | translated found read =>
    rw [Action.write?, strings?_eq_some_iff.mpr
      ⟨_, resolve?_eq_some_iff.mp found, readFields_eq_ok_iff.mp read⟩]
    rfl
  | unsupported missing => simp [Action.write?, strings?, missing]
  | notTranslated found fails => simp [Action.write?, strings?, found, fails, Except.toOption]
  | inserted nonempty =>
    rw [Action.write?, if_neg nonempty]
    rfl
  | refused => rfl
  | removed => rfl

/-- **An action changes the values by what it writes**, its `write?`, and not at all if this is
`none`. -/
theorem values_act (tree : FileTree) (action : Action) (context : Context) :
    (act tree action context).2.values
      = ((action.write? tree context).map (Write.apply context.values)).getD context.values := by
  obtain ⟨file, hturn⟩ := turn_iff.mpr (Eq.refl (act tree action context))
  exact hturn.values_eq

/-! ## Distinct keys -/

/-- No action makes a key of the context stand twice. -/
theorem nodup_keys_act (h : context.values.keys.Nodup) :
    (act tree action context).2.values.keys.Nodup := by
  rw [values_act]
  cases action.write? tree context with
  | none => exact h
  | some write =>
    rw [Option.map_some, Option.getD_some]
    cases write with
    | merge fields =>
      rw [Write.apply, Fields.keys_merge]
      exact nodup_withKeys h _
    | put key value =>
      rw [Write.apply, Keyed.keys_put]
      exact nodup_withKey h key
    | erase key =>
      rw [Write.apply, Keyed.keys_erase]
      exact h.erase key

/-- The keys that a change writes are `Distinct` at every level. -/
def Write.Distinct : Write → Prop
  | .merge fields => Fields.Distinct fields
  | .put _ value => value.Distinct
  | .erase _ => True

/-- The keys of the maps that an action inserts are `Distinct`, as those of every map are. -/
def Action.Distinct : Action → Prop
  | .insert _ value => value.Distinct
  | _ => True

/-- What an action writes is `Distinct`, as what a data file says is. -/
theorem Write.distinct_of_write? {write : Write} (h : action.write? tree context = some write)
    (hdistinct : action.Distinct) : write.Distinct := by
  cases action with
  | addPath path => cases h
  | load name =>
    obtain ⟨fields, hfields, rfl⟩ := Option.map_eq_some_iff.mp h
    obtain ⟨path, -, -, text, -, hsaid⟩ := mergedFields?_eq_some_iff.mp hfields
    exact hsaid.distinct
  | loadLocale locale =>
    obtain ⟨strings, hstrings, rfl⟩ := Option.map_eq_some_iff.mp h
    obtain ⟨path, -, text, -, hsaid⟩ := strings?_eq_some_iff.mp hstrings
    exact Fields.distinct_map_iff.mpr hsaid.distinct
  | insert key value =>
    obtain ⟨-, hwrite⟩ := Option.ite_none_left_eq_some.mp h
    cases hwrite
    exact hdistinct
  | remove key =>
    cases h
    exact trivial

/-- A change that is `Distinct` keeps values so. -/
theorem Write.distinct_apply {values : Fields} {write : Write} (hvalues : values.Distinct)
    (hwrite : write.Distinct) : Fields.Distinct (write.apply values) := by
  cases write with
  | merge fields => exact hvalues.merge hwrite
  | put key value => exact hvalues.put hwrite key
  | erase key => exact hvalues.erase key

/-- An action that is `Distinct` keeps values so. -/
theorem distinct_act (hcontext : context.values.Distinct) (haction : action.Distinct) :
    (act tree action context).2.values.Distinct := by
  rw [values_act]
  cases hwrite : action.write? tree context with
  | none => exact hcontext
  | some write => exact Write.distinct_apply hcontext (Write.distinct_of_write? hwrite haction)

/-- **Keys are distinct at every level** after any run of actions that are `Distinct`. -/
theorem distinct_perform (hcontext : context.values.Distinct)
    (hactions : ∀ action ∈ actions, action.Distinct) :
    (perform tree actions context).2.values.Distinct := by
  induction actions generalizing context with
  | nil => exact hcontext
  | cons action rest ih =>
    exact ih (distinct_act hcontext (hactions action List.mem_cons_self))
      fun other hother => hactions other (List.mem_cons_of_mem _ hother)

end Stencil.Context
