import Stencil.Proofs.Context.DataFile
import Stencil.Theme.Basic

/-!
# Failures change nothing

An action on a data context either does all of its work or none. Done write by write,
with every write there to stay, it still leaves the context as it was when it fails:
whatever can go wrong is found out before the first write. So a load that failed can be
done again as if for the first time, when the file has been mended, and a pass that
loads one file or one locale leaves its theme alone when it cannot be registered.

`Failing` says what goes wrong, and when. A file that has been merged is not read again;
but over the tree from which a context was filled, what has been merged can be read, so
there loading fails whenever the file that the name means is not acceptable.

Theorems:
- `run_inSteps`: write by write an action does what it does at once.
- `act_eq_error_iff`: an action fails as `Failing` says, and in no other way.
- `load_overwrite`, `loadLocale_overwrite`: what failed for a file can be done when the
  file has been mended.
- `register_eq_of_loads`: registering a pass that loads one thing.
- `act_all_or_nothing`: all this of every context that is reached by actions.
-/

namespace Stencil

open Context (Action act perform)

/-! ## Write by write -/

namespace Loading

/-- Merges `fields`, each of them by a write of its own with `Value.over`. -/
def mergeEach : Fields → Loading Unit
  | [] => pure ()
  | (key, value) :: rest => do
    modify fun context => { context with
      values := context.values.put key (Value.over (context.values.get? key) value) }
    mergeEach rest

/-- Merges the data file that a path leads to by `mergeEach`, unless it `isLoaded`. -/
def mergeFile (tree : FileTree) (path : Path) : Loading Unit := do
  unless (← get).isLoaded tree path do
    mergeEach (← load.liftExcept (Context.readFields tree path))
    modify fun context => { context with loaded := context.loaded ++ [tree.canonical path] }

/-- Puts the strings of the locale file that a path leads to under `languageKey`. -/
def putStrings (tree : FileTree) (path : Path) : Loading Unit := do
  let strings ← load.liftExcept (Context.readFields tree path)
  modify fun context => { context with
    values := context.values.put Context.languageKey (.map strings) }

/-- Does the `work` with the file that `name` means; `missing` is thrown where it means none. -/
def withFile (tree : FileTree) (name : Text) (missing : Error) (work : Path → Loading Unit) :
    Loading Unit := do
  match (← get).resolve? tree name with
  | none => throw missing
  | some path => work path

/-- Does an action write by write; what has been written stays when it fails. -/
def inSteps (tree : FileTree) : Action → Loading Unit
  | .addPath path => modify (Context.addPath path)
  | .load name => withFile tree name (.dataNotFound name) (mergeFile tree)
  | .loadLocale locale =>
    withFile tree (Context.localeFile locale) (.unsupportedLanguage locale) (putStrings tree)
  | .insert key value => do
    if key.isEmpty then throw .missingKey
    modify fun context => { context with values := context.values.put key value }
  | .remove key => modify (Context.remove key)

/-- Fields that `mergeEach` merges one by one are merged as by `Fields.merge`. -/
theorem run_mergeEach : ∀ (fields : Fields) (context : Context),
    (mergeEach fields).run.run context
      = (.ok (), { context with values := Fields.merge context.values fields })
  | [], context => by
    rw [Fields.merge]
    rfl
  | (key, value) :: rest, context => by
    rw [Fields.merge]
    exact run_mergeEach rest _

variable (tree : FileTree) (context : Context)

/-- Where `name` means no file, `withFile` has nothing to work with. -/
theorem run_withFile (name : Text) (missing : Error) (work : Path → Loading Unit) :
    (withFile tree name missing work).run.run context =
      match context.resolve? tree name with
      | none => (.error missing, context)
      | some path => (work path).run.run context := by
  show (match context.resolve? tree name with
    | none => throw missing
    | some path => work path : Loading Unit).run.run context = _
  cases context.resolve? tree name <;> rfl

/-- By `mergeFile` a file is read before anything of it is written. -/
theorem run_mergeFile (path : Path) :
    (mergeFile tree path).run.run context =
      if context.isLoaded tree path then (.ok (), context)
      else context.settle ((Context.readFields tree path).map fun fields =>
        { context with
          values := Fields.merge context.values fields
          loaded := context.loaded ++ [tree.canonical path] }) := by
  unfold mergeFile
  rw [ExceptT.run_bind, StateT.run_bind]
  show (unless context.isLoaded tree path do
    mergeEach (← load.liftExcept (Context.readFields tree path))
    modify fun context => { context with loaded := context.loaded ++ [tree.canonical path] } :
      Loading Unit).run.run context = _
  split
  next => rfl
  next =>
    -- Reading comes before all writes, and once there are fields nothing else can fail.
    cases Context.readFields tree path with
    | error error => rfl
    | ok fields =>
      show (do
        mergeEach fields
        modify fun context => { context with loaded := context.loaded ++ [tree.canonical path] } :
          Loading Unit).run.run context = _
      rw [ExceptT.run_bind, StateT.run_bind, run_mergeEach]
      rfl

/-- By `putStrings` the strings of a locale are read before they are written. -/
theorem run_putStrings (path : Path) :
    (putStrings tree path).run.run context =
      context.settle ((Context.readFields tree path).map fun strings =>
        { context with
          values := context.values.put Context.languageKey (.map strings) }) := by
  unfold putStrings
  cases Context.readFields tree path <;> rfl

/-- **Write by write an action does what it does at once**: `inSteps` leaves what `act` leaves, and
answers the same. -/
theorem run_inSteps (action : Action) :
    (inSteps tree action).run.run context = act tree action context := by
  cases action with
  | addPath path => rfl
  | load name =>
    show (withFile tree name (.dataNotFound name) (mergeFile tree)).run.run context = _
    rw [run_withFile, act, Context.load]
    cases context.resolve? tree name with
    | none => rfl
    | some path =>
      dsimp only
      rw [run_mergeFile]
      split <;> rfl
  | loadLocale locale =>
    show (withFile tree _ (.unsupportedLanguage locale) (putStrings tree)).run.run context = _
    rw [run_withFile, act, Context.loadLocale]
    cases context.resolve? tree _ with
    | none => rfl
    | some path =>
      exact run_putStrings tree context path
  | insert key value =>
    cases key <;> rfl
  | remove key => rfl

/-- To `load` a data file is the action `.load`. -/
theorem run_load (name : Text) :
    (load tree name).run.run context = act tree (.load name) context := by
  show (load.liftExcept (context.load tree name) >>= set : Loading Unit).run.run context
    = context.settle (context.load tree name)
  cases context.load tree name <;> rfl

/-- To load a locale is the action `.loadLocale`. -/
theorem run_loadLocale (locale : Text) :
    (loadLocale tree locale).run.run context = act tree (.loadLocale locale) context := by
  show (load.liftExcept (context.loadLocale tree locale) >>= set : Loading Unit).run.run context
    = context.settle (context.loadLocale tree locale)
  cases context.loadLocale tree locale <;> rfl

end Loading

/-! ## What goes wrong -/

namespace Context

/-- What goes wrong with an action on a context, and the error with which this is told. -/
inductive Failing (tree : FileTree) (context : Context) : Action → Error → Prop
  /-- None of the `candidates` of the name leads to a file. -/
  | notFound {name : Text}
      (missing : ∀ candidate ∈ candidates name context.searchPaths, ¬ tree.isFile candidate) :
      Failing tree context (.load name) (.dataNotFound name)
  /-- The first candidate of the name that leads to a file leads to a faulty one. -/
  | notAcceptable {name : Text} {path : Path} {fault : DataFault}
      (first : FirstFile tree (candidates name context.searchPaths) path)
      (faulty : Faulty tree path fault) :
      Failing tree context (.load name) (.dataInvalid path fault)
  /-- There is no file of the locale. -/
  | unsupported {locale : Text}
      (missing : ∀ candidate ∈ candidates (localeFile locale) context.searchPaths,
        ¬ tree.isFile candidate) :
      Failing tree context (.loadLocale locale) (.unsupportedLanguage locale)
  /-- The first file of the locale is faulty. -/
  | notTranslated {locale : Text} {path : Path} {fault : DataFault}
      (first : FirstFile tree (candidates (localeFile locale) context.searchPaths) path)
      (faulty : Faulty tree path fault) :
      Failing tree context (.loadLocale locale) (.dataInvalid path fault)
  /-- There is no key to write under. -/
  | keyless {value : Value} : Failing tree context (.insert [] value) .missingKey

/-- An action that has nothing to do, as the file that is meant `isLoaded`. -/
inductive PassedOver (tree : FileTree) (context : Context) : Action → Prop
  | load {name : Text} {path : Path}
      (first : FirstFile tree (candidates name context.searchPaths) path)
      (loaded : context.isLoaded tree path) : PassedOver tree context (.load name)

/-- What has been merged, as `isLoaded` tells, can be read: it is `Acceptable` with some fields. -/
def Intact (tree : FileTree) (context : Context) : Prop :=
  ∀ path, tree.isFile path → context.isLoaded tree path → ∃ fields, Acceptable tree path fields

variable {tree : FileTree} {context : Context} {action : Action} {error : Error}

/-- Work of which `settle` answers an error has failed with it. -/
theorem eq_error_of_settle {result : Except Error Context}
    (h : (context.settle result).1 = .error error) : result = .error error := by
  cases result with
  | ok after => cases h
  | error other =>
    cases h
    rfl

/-- The `files` that a run of `Turns` merges are `Acceptable`. -/
theorem acceptable_of_turns {actions : List Action} {before after : Context}
    {answers : List (Except Error Unit)} {files : List Path}
    (h : Turns tree actions before answers files after) :
    ∀ file ∈ files, ∃ fields, Acceptable tree file fields := by
  induction h with
  | nil => exact fun file hfile => absurd hfile List.not_mem_nil
  | cons first _ ih =>
    intro file hfile
    rcases List.mem_append.mp hfile with hfirst | hothers
    · cases first with
      | merged found new read =>
        rw [List.mem_singleton.mp hfirst]
        exact ⟨_, readFields_eq_ok_iff.mp read⟩
      | _ => exact absurd hfirst List.not_mem_nil
    · exact ih file hothers

/-- After any actions over a tree the context is `Intact` over this tree. -/
theorem intact_perform (placed : tree.WellPlaced) (actions : List Action) :
    Intact tree (perform tree actions {}).2 := by
  intro path hpath hloaded
  obtain ⟨files, hturns⟩ := turns_iff.mpr (Eq.refl (perform tree actions {}))
  have hempty : Noted tree [] {} :=
    ⟨fun file hfile => absurd hfile List.not_mem_nil, rfl, List.Pairwise.nil⟩
  have hnoted : Noted tree files (perform tree actions {}).2 := turns_noted hturns hempty
  -- The file that was merged may have another name, but it stands at the same place.
  obtain ⟨file, hfile, hsame⟩ := (hnoted.isLoaded_iff path).mp hloaded
  have hplace := FileTree.locate?_eq_of_same_canonical placed hpath (hnoted.isFile file hfile) hsame
  obtain ⟨fields, hfields⟩ := acceptable_of_turns hturns file hfile
  exact ⟨fields, readFields_eq_ok_iff.mp
    (readFields_eq_of_locate?_eq hplace.symm hfields.readFields_eq)⟩

/-- An action that fails merges nothing (`none`) and leaves the context. -/
theorem turn_of_act_eq_error (h : (act tree action context).1 = .error error) :
    Turn tree action context (.error error) none context := by
  obtain ⟨answer, file, after, hturn⟩ := exists_turn tree action context
  rw [act_of_turn hturn] at h
  subst h
  have hnothing : file = none ∧ after = context := by
    cases hturn <;> exact ⟨rfl, rfl⟩
  rw [hnothing.1, hnothing.2] at hturn
  exact hturn

/-- An error that `act` answers is one with which the action is `Failing`. -/
theorem failing_of_act (h : (act tree action context).1 = .error error) :
    Failing tree context action error := by
  cases turn_of_act_eq_error h with
  | notFound missing => exact .notFound (resolve?_eq_none_iff.mp missing)
  | notRead found new fails =>
    obtain ⟨fault, hfaulty, rfl⟩ := readFields_eq_error_iff.mp fails
    exact .notAcceptable (resolve?_eq_some_iff.mp found) hfaulty
  | unsupported missing => exact .unsupported (resolve?_eq_none_iff.mp missing)
  | notTranslated found fails =>
    obtain ⟨fault, hfaulty, rfl⟩ := readFields_eq_error_iff.mp fails
    exact .notTranslated (resolve?_eq_some_iff.mp found) hfaulty
  | refused => exact .keyless

/-- **An action fails as `Failing` says**, and in no other way, unless it is `PassedOver` because
the file that is meant has been merged. -/
theorem act_eq_error_iff : (act tree action context).1 = .error error ↔
    Failing tree context action error ∧ ¬ PassedOver tree context action := by
  constructor
  · intro h
    refine ⟨failing_of_act h, ?_⟩
    rintro ⟨hfirst, hloaded⟩
    rw [act_of_turn (.passedOver (resolve?_eq_some_iff.mpr hfirst) hloaded)] at h
    cases h
  · rintro ⟨hfailing, hnew⟩
    cases hfailing with
    | notFound missing => rw [act_of_turn (.notFound (resolve?_eq_none_iff.mpr missing))]
    | notAcceptable first faulty =>
      rw [act_of_turn (.notRead (resolve?_eq_some_iff.mpr first)
        (fun hloaded => hnew (.load first hloaded)) faulty.readFields_eq)]
    | unsupported missing => rw [act_of_turn (.unsupported (resolve?_eq_none_iff.mpr missing))]
    | notTranslated first faulty =>
      rw [act_of_turn (.notTranslated (resolve?_eq_some_iff.mpr first) faulty.readFields_eq)]
    | keyless => rfl

/-- On an `Intact` context an action that is `Failing` has something to do. -/
theorem Intact.not_passedOver (intact : Intact tree context)
    (h : Failing tree context action error) : ¬ PassedOver tree context action := by
  rintro ⟨hfirst, hloaded⟩
  have hfound := resolve?_eq_some_iff.mpr hfirst
  cases h with
  | notFound missing => cases (resolve?_eq_none_iff.mpr missing).symm.trans hfound
  | notAcceptable first faulty =>
    cases (resolve?_eq_some_iff.mpr first).symm.trans hfound
    obtain ⟨fields, hfields⟩ := intact _ hfirst.isFile hloaded
    cases hfields.readFields_eq.symm.trans faulty.readFields_eq

/-! ## Trying again -/

section Mending

variable {name locale : Text} {path : Path} {place : List Text} {old : ByteArray}

/-- By `resolve?` names lead where they led when a file has been overwritten. -/
theorem resolve?_overwrite (hplace : tree.locate? path = some place)
    (hfile : tree.root.at? place = some (.file old)) (content : ByteArray) (name : Text)
    (context : Context) :
    context.resolve? (tree.overwrite place content) name = context.resolve? tree name := by
  rw [resolve?_eq_find?, resolve?_eq_find?]
  congr 1
  funext other
  exact FileTree.isFile_overwrite hplace hfile content other

/-- A file that has been overwritten says what its new `content` says. -/
theorem readFields_overwrite (hplace : tree.locate? path = some place)
    (hfile : tree.root.at? place = some (.file old)) {content : ByteArray} {text : String}
    {fields : Fields} (hcontent : String.fromUTF8? content = some text)
    (hsaid : Says text.toList fields) :
    readFields (tree.overwrite place content) path = .ok fields := by
  refine readFields_eq_ok_iff.mpr ⟨text.toList, ?_, hsaid⟩
  rw [FileTree.readText?_overwrite hplace hfile, hcontent]
  rfl

/-- **A load that failed for a file can be done when the file has been mended**: with a `content`
that `Says` fields in its place, these are merged. -/
theorem load_overwrite {fault : DataFault}
    (h : (act tree (.load name) context).1 = .error (.dataInvalid path fault)) :
    ∃ place, tree.locate? path = some place ∧
      ∀ (content : ByteArray) (text : String) (fields : Fields),
        String.fromUTF8? content = some text → Says text.toList fields →
        act (tree.overwrite place content) (.load name) context
          = (.ok (), { context with
              values := Fields.merge context.values fields
              loaded := context.loaded ++ [tree.canonical path] }) := by
  cases turn_of_act_eq_error h with
  | @notRead _ found _ _ hfound new fails =>
    obtain ⟨fault', -, herror⟩ := readFields_eq_error_iff.mp fails
    cases herror
    obtain ⟨place, old, hplace, hfile⟩ :=
      FileTree.exists_locate?_of_isFile (isFile_of_resolve? hfound)
    refine ⟨place, hplace, ?_⟩
    intro content text fields hcontent hsaid
    have hcanonical := FileTree.canonical_overwrite hplace hfile content path
    have hnew : ¬ context.isLoaded (tree.overwrite place content) path := by
      unfold isLoaded
      rw [hcanonical]
      exact new
    rw [← hcanonical]
    refine act_of_turn (.merged ?_ hnew (readFields_overwrite hplace hfile hcontent hsaid))
    rw [resolve?_overwrite hplace hfile, hfound]

/-- **A locale that failed for its file can be loaded when the file has been mended**: with a
`content` that `Says` strings in its place, these go to the `languageKey`. -/
theorem loadLocale_overwrite {fault : DataFault}
    (h : (act tree (.loadLocale locale) context).1 = .error (.dataInvalid path fault)) :
    ∃ place, tree.locate? path = some place ∧
      ∀ (content : ByteArray) (text : String) (strings : Fields),
        String.fromUTF8? content = some text → Says text.toList strings →
        act (tree.overwrite place content) (.loadLocale locale) context
          = (.ok (), { context with
              values := context.values.put languageKey (.map strings) }) := by
  cases turn_of_act_eq_error h with
  | @notTranslated _ found _ _ hfound fails =>
    obtain ⟨fault', -, herror⟩ := readFields_eq_error_iff.mp fails
    cases herror
    obtain ⟨place, old, hplace, hfile⟩ :=
      FileTree.exists_locate?_of_isFile (isFile_of_resolve? hfound)
    refine ⟨place, hplace, ?_⟩
    intro content text strings hcontent hsaid
    refine act_of_turn (.translated ?_ (readFields_overwrite hplace hfile hcontent hsaid))
    rw [resolve?_overwrite hplace hfile, hfound]

end Mending

end Context

/-! ## Registering -/

/-- What a pass loads when it is registered is one thing: the data file of a `.load`, or the locale
of a `.loadLocale`. -/
inductive Pass.Loads {m : Type → Type} (tree : FileTree) (pass : Pass m) : Action → Prop
  | file {name : Text} (preload : pass.preload = Loading.load tree name) :
      Pass.Loads tree pass (.load name)
  | locale {locale : Text} (preload : pass.preload = Loading.loadLocale tree locale) :
      Pass.Loads tree pass (.loadLocale locale)

/-- The `preload` of a pass that loads one thing is that one action. -/
theorem Pass.Loads.run_preload {m : Type → Type} {tree : FileTree} {pass : Pass m} {action : Action}
    (h : pass.Loads tree action) (context : Context) :
    pass.preload.run.run context = act tree action context := by
  cases h with
  | file hpreload => rw [hpreload, Loading.run_load]
  | locale hpreload => rw [hpreload, Loading.run_loadLocale]

/-- **A pass that loads one thing** is registered if `act` can do this, and else `register` leaves
the theme what it is. -/
theorem Theme.register_eq_of_loads {m : Type → Type} {tree : FileTree} {pass : Pass m}
    {action : Action} (h : pass.Loads tree action) (theme : Theme m) :
    theme.register pass =
      match act tree action theme.context with
      | (.ok (), context) =>
        (.ok (), { theme with context := context, passes := theme.passes ++ [pass] })
      | (.error error, _) => (.error error, theme) := by
  unfold register
  rw [h.run_preload]
  split
  next heq => rw [heq]
  next heq =>
    -- The theme takes the context that preloading left, and this is the one that was there.
    have hturn := Context.turn_of_act_eq_error (congrArg Prod.fst heq)
    have hsame := Context.act_of_turn hturn
    rw [hsame]
    cases hsame.symm.trans heq
    rfl

namespace Context

/-! ## All or nothing -/

/-- Whatever `act` does to a context over a tree is done as a whole or not at all. -/
structure AllOrNothing (tree : FileTree) (context : Context) : Prop where
  /-- An action answers the error with which it is `Failing`, unless it is `PassedOver`, and no
  other. -/
  fails_iff : ∀ action error, (act tree action context).1 = .error error ↔
    Failing tree context action error ∧ ¬ PassedOver tree context action
  /-- Done by `Loading.inSteps`, where every write of it stays, an action leaves no more than by
  `act`. -/
  inSteps : ∀ action, (Loading.inSteps tree action).run.run context = act tree action context
  /-- What fails changes neither `values` nor `searchPaths` nor what is noted as `loaded`. -/
  unchanged : ∀ action error after,
    (Loading.inSteps tree action).run.run context = (.error error, after) → after = context
  /-- What failed for a file can be done when the file has been mended. -/
  reload : ∀ name path fault, (act tree (.load name) context).1 = .error (.dataInvalid path fault) →
    ∃ place, tree.locate? path = some place ∧
      ∀ (content : ByteArray) (text : String) (fields : Fields),
        String.fromUTF8? content = some text → Says text.toList fields →
        act (tree.overwrite place content) (.load name) context
          = (.ok (), { context with
              values := Fields.merge context.values fields
              loaded := context.loaded ++ [tree.canonical path] })
  reloadLocale : ∀ locale path fault,
    (act tree (.loadLocale locale) context).1 = .error (.dataInvalid path fault) →
    ∃ place, tree.locate? path = some place ∧
      ∀ (content : ByteArray) (text : String) (strings : Fields),
        String.fromUTF8? content = some text → Says text.toList strings →
        act (tree.overwrite place content) (.loadLocale locale) context
          = (.ok (), { context with values := context.values.put languageKey (.map strings) })
  /-- A theme stays what it is when `register` fails for a pass that loads one thing. -/
  register : ∀ {m : Type → Type} (theme : Theme m) (pass : Pass m) (action : Action),
    theme.context = context → pass.Loads tree action →
      (theme.register pass).1 = (act tree action context).1 ∧
        ∀ error, (theme.register pass).1 = .error error → (theme.register pass).2 = theme

/-- Every context is `AllOrNothing` over every tree. -/
theorem allOrNothing (tree : FileTree) (context : Context) : AllOrNothing tree context where
  fails_iff _ _ := act_eq_error_iff
  inSteps action := Loading.run_inSteps tree context action
  unchanged action error after h := by
    rw [Loading.run_inSteps] at h
    have hturn := turn_of_act_eq_error (congrArg Prod.fst h)
    cases (act_of_turn hturn).symm.trans h
    rfl
  reload _ _ _ := load_overwrite
  reloadLocale _ _ _ := loadLocale_overwrite
  register := by
    intro m theme pass action hcontext hloads
    rw [Theme.register_eq_of_loads hloads, ← hcontext]
    split
    next heq =>
      rw [heq]
      exact ⟨rfl, fun error herror => by cases herror⟩
    next heq =>
      rw [heq]
      exact ⟨rfl, fun _ _ => rfl⟩

/-- **Failures change nothing**, and it is told exactly what went wrong. The first part: over the
tree of its files, a context that any run of `actions` has reached fails exactly as `Failing` says,
to load a name that means no file, a locale that has no file, a file that is first of those that are
meant and is not acceptable, and to write under an empty key. The second part: over any tree `now`,
the context is `AllOrNothing`, so that what fails leaves the context and the theme as they were, and
can be tried again. -/
theorem act_all_or_nothing (tree : FileTree) (placed : tree.WellPlaced) (actions : List Action) :
    (∀ action error, (act tree action (perform tree actions {}).2).1 = .error error ↔
      Failing tree (perform tree actions {}).2 action error) ∧
    ∀ now : FileTree, AllOrNothing now (perform tree actions {}).2 := by
  refine ⟨?_, fun now => allOrNothing now _⟩
  intro action error
  rw [act_eq_error_iff]
  exact and_iff_left_of_imp (intact_perform placed actions).not_passedOver

/-- A name that means a spoilt file of the first of two directories: the file of the
second is not taken instead, and when the first has been mended it is merged. -/
theorem act_all_or_nothing_shadowed :
    let tree : FileTree :=
      { root := .directory
          [(['a'], .directory [(['f'], .file "k: [".toUTF8)]),
           (['b'], .directory [(['f'], .file "k: v".toUTF8)])]
        workingDirectory := [['a']] }
    let actions : List Action := [.addPath ⟨"/a".toList⟩, .addPath ⟨"/b".toList⟩]
    let context := (perform tree actions {}).2
    tree.WellPlaced ∧
      act tree (.load ['f']) context
        = (.error (.dataInvalid ⟨"/a/f".toList⟩ .malformed), context) ∧
      ∃ (fields : Fields) (after : Context),
        act (tree.overwrite [['a'], ['f']] "k: w".toUTF8) (.load ['f']) context
          = (.ok (), after) ∧ after.values = Fields.merge [] fields ∧ fields.keys = [['k']] ∧
          after.loaded = [⟨"/a/f".toList⟩] := by
  intro tree actions context
  have hplaced : tree.WellPlaced := by
    intro name hname
    rw [List.mem_singleton.mp hname]
    exact ⟨by decide, by decide⟩
  obtain ⟨hfails, hall⟩ := act_all_or_nothing tree hplaced actions
  have hfirst : FirstFile tree (candidates ['f'] context.searchPaths) ⟨"/a/f".toList⟩ :=
    ⟨by decide +kernel, [], [⟨"/b/f".toList⟩], by decide +kernel, by simp⟩
  have hfaulty : Faulty tree ⟨"/a/f".toList⟩ .malformed := by
    have hread : tree.readText? ⟨"/a/f".toList⟩ = some "k: [".toList := by decide +kernel
    have hmalformed : (Yaml.Datum.ofText? "k: [".toList).isNone := by decide +kernel
    exact .malformed hread (Option.isNone_iff_eq_none.mp hmalformed)
  have herror := (hfails (.load ['f']) _).mpr (.notAcceptable hfirst hfaulty)
  have hsaid : ∃ fields : Fields, Says "k: w".toList fields ∧ fields.keys = [['k']] := by
    have hkeys : (((Yaml.Datum.ofText? "k: w".toList).map Yaml.Datum.toValue).bind
        Value.map?).map Keyed.keys = some [['k']] := by decide +kernel
    obtain ⟨fields, hfields, hkeys⟩ := Option.map_eq_some_iff.mp hkeys
    obtain ⟨value, hvalue, hmap⟩ := Option.bind_eq_some_iff.mp hfields
    obtain ⟨datum, hdatum, rfl⟩ := Option.map_eq_some_iff.mp hvalue
    exact ⟨fields, .mapping hdatum (Value.map?_eq_some_iff.mp hmap), hkeys⟩
  refine ⟨hplaced, act_of_turn (turn_of_act_eq_error herror), ?_⟩
  obtain ⟨fields, hsaid, hkeys⟩ := hsaid
  obtain ⟨place, hplace, hreload⟩ := (hall tree).reload _ _ _ herror
  have hthere : tree.locate? ⟨"/a/f".toList⟩ = some [['a'], ['f']] := by decide +kernel
  cases hplace.symm.trans hthere
  have hcontent : String.fromUTF8? "k: w".toUTF8 = some "k: w" := by decide +kernel
  have hnoted : context.loaded ++ [tree.canonical ⟨"/a/f".toList⟩] = [⟨"/a/f".toList⟩] := by
    decide +kernel
  exact ⟨fields, _, hreload _ _ _ hcontent hsaid, rfl, hkeys, hnoted⟩

end Context

end Stencil
