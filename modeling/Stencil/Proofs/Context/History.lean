import Stencil.Context

/-!
# What becomes of a data context

A data context is filled by actions in any order: directories are added to the search
paths, data files and locales are loaded from a tree of files, and values are written
and taken out. `Turn` says what one action may do and what it answers, and it names the
file that is merged, if one is.

- A directory goes behind the search paths unless it is among them.
- A data file is merged over the values if its name leads to a file that has not been
  merged before and can be read; its path is noted as merged.
- A locale replaces the strings of the language in use, and is not noted.
- Whatever fails changes nothing.

Theorems:
- `Turns.preserves`: what each action keeps, a run of actions keeps.
- `turn_iff`: an action does what `Turn` says, and nothing else.
- `turns_iff`: so does a whole run of actions.
-/

namespace Stencil.Context

/-! ## Actions -/

/-- What can be done with a context. -/
inductive Action where
  | addPath (path : Path)
  | load (name : Text)
  | loadLocale (locale : Text)
  | insert (key : Text) (value : Value)
  | remove (key : Text)

/-- What is answered to work on a context, and what is left: the `context` as it was if the work is
an `.error`. -/
def settle (context : Context) : Except Error Context → Except Error Unit × Context
  | .ok after => (.ok (), after)
  | .error error => (.error error, context)

/-- Does an action to a context, over a `tree` of files; what can fail goes through `settle`. -/
def act (tree : FileTree) : Action → Context → Except Error Unit × Context
  | .addPath path, context => (.ok (), context.addPath path)
  | .load name, context => context.settle (context.load tree name)
  | .loadLocale locale, context => context.settle (context.loadLocale tree locale)
  | .insert key value, context => context.settle (context.insert key value)
  | .remove key, context => (.ok (), context.remove key)

/-- Does `act` for actions in order, and collects the answers. -/
def perform (tree : FileTree) : List Action → Context → List (Except Error Unit) × Context
  | [], context => ([], context)
  | action :: rest, context =>
    let (answer, middle) := act tree action context
    let (answers, after) := perform tree rest middle
    (answer :: answers, after)

/-- What an action makes of a context, what it answers, and which file it merges (`none` for no
file). -/
inductive Turn (tree : FileTree) :
    Action → Context → Except Error Unit → Option Path → Context → Prop
  /-- The directory is `new` and goes behind the `searchPaths` that are there. -/
  | added {path : Path} {context : Context}
      (new : ∀ known ∈ context.searchPaths, ¬ Path.same path known) :
      Turn tree (.addPath path) context (.ok ()) none
        { context with searchPaths := context.searchPaths ++ [path] }
  /-- One of the `searchPaths` is the `same`, and the context stays. -/
  | known {path known : Path} {context : Context} (mem : known ∈ context.searchPaths)
      (same : Path.same path known) :
      Turn tree (.addPath path) context (.ok ()) none context
  /-- The name leads by `resolve?` to a file that is not loaded, and its fields go over the
  values. -/
  | merged {name : Text} {path : Path} {context : Context} {fields : Fields}
      (found : context.resolve? tree name = some path) (new : ¬ context.isLoaded tree path)
      (read : readFields tree path = .ok fields) :
      Turn tree (.load name) context (.ok ()) (some path)
        { context with
          values := Fields.merge context.values fields
          loaded := context.loaded ++ [tree.canonical path] }
  /-- The name leads to a file that `isLoaded`. -/
  | passedOver {name : Text} {path : Path} {context : Context}
      (found : context.resolve? tree name = some path) (loaded : context.isLoaded tree path) :
      Turn tree (.load name) context (.ok ()) none context
  /-- The name leads to no file. -/
  | notFound {name : Text} {context : Context} (missing : context.resolve? tree name = none) :
      Turn tree (.load name) context (.error (.dataNotFound name)) none context
  /-- The name leads to a file that cannot be read. -/
  | notRead {name : Text} {path : Path} {context : Context} {error : Error}
      (found : context.resolve? tree name = some path) (new : ¬ context.isLoaded tree path)
      (fails : readFields tree path = .error error) :
      Turn tree (.load name) context (.error error) none context
  /-- The strings of the locale stand under `languageKey` in the place of those in use. -/
  | translated {locale : Text} {path : Path} {context : Context} {strings : Fields}
      (found : context.resolve? tree (localeFile locale) = some path)
      (read : readFields tree path = .ok strings) :
      Turn tree (.loadLocale locale) context (.ok ()) none
        { context with values := context.values.put languageKey (.map strings) }
  /-- The locale has no file. -/
  | unsupported {locale : Text} {context : Context}
      (missing : context.resolve? tree (localeFile locale) = none) :
      Turn tree (.loadLocale locale) context (.error (.unsupportedLanguage locale)) none context
  /-- The file of the locale cannot be read. -/
  | notTranslated {locale : Text} {path : Path} {context : Context} {error : Error}
      (found : context.resolve? tree (localeFile locale) = some path)
      (fails : readFields tree path = .error error) :
      Turn tree (.loadLocale locale) context (.error error) none context
  /-- The value is written under the key. -/
  | inserted {key : Text} {value : Value} {context : Context} (nonempty : key ≠ []) :
      Turn tree (.insert key value) context (.ok ()) none
        { context with values := context.values.put key value }
  /-- There is no key to write under. -/
  | refused {value : Value} {context : Context} :
      Turn tree (.insert [] value) context (.error .missingKey) none context
  /-- The key is taken out. -/
  | removed {key : Text} {context : Context} :
      Turn tree (.remove key) context (.ok ()) none
        { context with values := context.values.erase key }

/-- What a run of actions makes of a context, a `Turn` for each of them: what it answers, and which
files it merges in order. -/
inductive Turns (tree : FileTree) :
    List Action → Context → List (Except Error Unit) → List Path → Context → Prop
  | nil (context : Context) : Turns tree [] context [] [] context
  | cons {action : Action} {actions : List Action} {answer : Except Error Unit}
      {answers : List (Except Error Unit)} {file : Option Path} {files : List Path}
      {before middle after : Context} (first : Turn tree action before answer file middle)
      (others : Turns tree actions middle answers files after) :
      Turns tree (action :: actions) before (answer :: answers) (file.toList ++ files) after

/-- An `invariant` of a context that every `Turn` keeps is kept by a run of actions. -/
theorem Turns.preserves {tree : FileTree} {invariant : Context → Prop}
    (step : ∀ {action : Action} {before after : Context} {answer : Except Error Unit}
      {file : Option Path}, Turn tree action before answer file after →
        invariant before → invariant after)
    {actions : List Action} {before after : Context} {answers : List (Except Error Unit)}
    {files : List Path} (h : Turns tree actions before answers files after)
    (hbefore : invariant before) : invariant after := by
  induction h with
  | nil context => exact hbefore
  | cons first _ ih => exact ih (step first hbefore)

/-! ## What is done -/

variable {tree : FileTree} {action : Action} {actions : List Action} {before after : Context}
  {answer : Except Error Unit} {answers : List (Except Error Unit)}

/-- To `load` a name whose file `isLoaded` changes nothing. -/
theorem load_of_isLoaded {name : Text} {path : Path}
    (found : before.resolve? tree name = some path) (loaded : before.isLoaded tree path) :
    before.load tree name = .ok before := by
  unfold load
  rw [found]
  exact if_pos loaded

/-- To `load` a name whose file is not `isLoaded` merges the file, if `readFields` can read it. -/
theorem load_of_not_isLoaded {name : Text} {path : Path}
    (found : before.resolve? tree name = some path) (new : ¬ before.isLoaded tree path) :
    before.load tree name = (readFields tree path).map fun fields =>
      { before with
        values := Fields.merge before.values fields
        loaded := before.loaded ++ [tree.canonical path] } := by
  unfold load
  rw [found]
  exact if_neg new

/-- What `Turn` allows is what `act` does. -/
theorem act_of_turn {file : Option Path} (h : Turn tree action before answer file after) :
    act tree action before = (answer, after) := by
  cases h with
  | @added path _ new =>
    have hnone : ¬ before.searchPaths.any (Path.same path) := by
      intro hany
      obtain ⟨known, hmem, hsame⟩ := List.any_eq_true.mp hany
      exact new known hmem hsame
    rw [act, addPath, if_neg hnone]
  | known mem same => rw [act, addPath, if_pos (List.any_eq_true.mpr ⟨_, mem, same⟩)]
  | merged found new read =>
    rw [act, load_of_not_isLoaded found new, read]
    rfl
  | passedOver found loaded =>
    rw [act, load_of_isLoaded found loaded]
    rfl
  | notFound missing =>
    rw [act, load, missing]
    rfl
  | notRead found new fails =>
    rw [act, load_of_not_isLoaded found new, fails]
    rfl
  | translated found read =>
    rw [act, loadLocale, found]
    dsimp only
    rw [read]
    rfl
  | unsupported missing =>
    rw [act, loadLocale, missing]
    rfl
  | notTranslated found fails =>
    rw [act, loadLocale, found]
    dsimp only
    rw [fails]
    rfl
  | @inserted key _ _ nonempty =>
    have hkey : ¬ key.isEmpty := fun hempty => nonempty (List.isEmpty_iff.mp hempty)
    rw [act, insert, if_neg hkey]
    rfl
  | refused => rfl
  | removed => rfl

/-- For every action `Turn` allows something. -/
theorem exists_turn (tree : FileTree) (action : Action) (before : Context) :
    ∃ answer file after, Turn tree action before answer file after := by
  cases action with
  | addPath path =>
    by_cases hknown : ∃ known ∈ before.searchPaths, Path.same path known
    · obtain ⟨known, hmem, hsame⟩ := hknown
      exact ⟨_, _, _, .known hmem hsame⟩
    · exact ⟨_, _, _, .added fun known hmem hsame => hknown ⟨known, hmem, hsame⟩⟩
  | load name =>
    cases hfound : before.resolve? tree name with
    | none => exact ⟨_, _, _, .notFound hfound⟩
    | some path =>
      by_cases hloaded : before.isLoaded tree path
      · exact ⟨_, _, _, .passedOver hfound hloaded⟩
      · cases hread : readFields tree path with
        | ok fields => exact ⟨_, _, _, .merged hfound hloaded hread⟩
        | error error => exact ⟨_, _, _, .notRead hfound hloaded hread⟩
  | loadLocale locale =>
    cases hfound : before.resolve? tree (localeFile locale) with
    | none => exact ⟨_, _, _, .unsupported hfound⟩
    | some path =>
      cases hread : readFields tree path with
      | ok strings => exact ⟨_, _, _, .translated hfound hread⟩
      | error error => exact ⟨_, _, _, .notTranslated hfound hread⟩
  | insert key value =>
    cases key with
    | nil => exact ⟨_, _, _, .refused⟩
    | cons c key => exact ⟨_, _, _, .inserted (List.cons_ne_nil c key)⟩
  | remove key => exact ⟨_, _, _, .removed⟩

/-- What `act` does is what `Turn` says, and nothing else. -/
theorem turn_iff :
    (∃ file, Turn tree action before answer file after) ↔
      act tree action before = (answer, after) := by
  constructor
  · rintro ⟨file, hturn⟩
    exact act_of_turn hturn
  · intro hact
    -- Something is allowed, and what is allowed is what is done.
    obtain ⟨told, file, left, hturn⟩ := exists_turn tree action before
    have hsame : (told, left) = (answer, after) := (act_of_turn hturn).symm.trans hact
    cases hsame
    exact ⟨file, hturn⟩

/-- What `perform` does is what `Turns` says, and nothing else. -/
theorem turns_iff :
    (∃ files, Turns tree actions before answers files after) ↔
      perform tree actions before = (answers, after) := by
  induction actions generalizing before answers with
  | nil =>
    constructor
    · rintro ⟨files, hturns⟩
      cases hturns
      rfl
    · intro hperform
      cases hperform
      exact ⟨[], .nil _⟩
  | cons action rest ih =>
    constructor
    · rintro ⟨files, hturns⟩
      cases hturns with
      | cons first others =>
        rw [perform, act_of_turn first]
        show (_ :: (perform tree rest _).1, (perform tree rest _).2) = _
        rw [ih.mp ⟨_, others⟩]
    · intro hperform
      cases hperform
      obtain ⟨file, first⟩ := turn_iff.mpr (Eq.refl (act tree action before))
      obtain ⟨files, others⟩ := ih.mpr (Eq.refl (perform tree rest (act tree action before).2))
      exact ⟨_, .cons first others⟩

end Stencil.Context
