import Stencil.Pass.Language
import Stencil.Proofs.Context.Failure
import Stencil.Proofs.Context.Write
import Stencil.Proofs.Theme.History

/-!
# The language in use

A locale is loaded by itself, or because a pass for its language is registered, alone or as
one of several. Whichever way it is done, it comes to calls that load locales one after the
other (`Translation.calls`), and some of them may fail.

What a call answers is settled by where files are looked for, and no call changes that. So
each call answers what it would have answered at first, and the last one that succeeds
decides what is left: its strings stand where the strings of the others stood in turn, or
whatever else was merged or inserted there. All passes for a language fill in these strings,
even those that were registered for another locale.

Theorems:
- `Context.act_loadLocale_of_ok`: loading a locale writes its strings, and nothing else.
- `Context.perform_of_last`: of several locales the last one that can be loaded decides.
- `Language.render_pass`: what is filled in.
- `Translation.runAll_eq`: the calls that are made when locales are loaded in several ways.
- `Translation.translated_runAll`: what becomes of a theme.
-/

namespace Stencil

namespace Context

variable {tree : FileTree} {context other : Context} {locale : Text} {locales : List Text}

/-! ## One locale -/

/-- What is answered when `loadLocale` loads a locale. -/
def answer (tree : FileTree) (context : Context) (locale : Text) : Except Error Unit :=
  (act tree (.loadLocale locale) context).1

/-- **Loading a locale writes its strings** under `languageKey`, and nothing else, wherever files
are looked for in the same directories. -/
theorem act_loadLocale_of_ok (h : answer tree context locale = .ok ()) :
    ∃ path strings, FirstFile tree (candidates (localeFile locale) context.searchPaths) path ∧
      Acceptable tree path strings ∧
      ∀ other : Context, other.searchPaths = context.searchPaths →
        act tree (.loadLocale locale) other
          = (.ok (), { other with values := other.values.put languageKey (.map strings) }) := by
  obtain ⟨told, file, after, hturn⟩ := exists_turn tree (.loadLocale locale) context
  rw [answer, act_of_turn hturn] at h
  cases hturn with
  | @translated _ path _ strings found read =>
    refine ⟨path, strings, resolve?_eq_some_iff.mp found, readFields_eq_ok_iff.mp read, ?_⟩
    intro other hother
    have hthere : other.resolve? tree (localeFile locale) = some path := by
      rw [resolve?_eq_some_iff, hother, ← resolve?_eq_some_iff, found]
    exact act_of_turn (.translated hthere read)
  | unsupported missing => cases h
  | notTranslated found fails => cases h

/-- A locale for which the `answer` is not `.ok` leaves the context. -/
theorem act_loadLocale_of_ne_ok (h : answer tree context locale ≠ .ok ()) :
    act tree (.loadLocale locale) context = (answer tree context locale, context) := by
  cases hanswer : answer tree context locale with
  | ok => exact absurd hanswer h
  | error error => exact act_of_turn (turn_of_act_eq_error hanswer)

/-- The `answer` is settled by where files are looked for, the `searchPaths`. -/
theorem answer_congr (h : other.searchPaths = context.searchPaths) (locale : Text) :
    answer tree other locale = answer tree context locale := by
  have hfound : other.resolve? tree (localeFile locale)
      = context.resolve? tree (localeFile locale) := by
    rw [resolve?_eq_find?, resolve?_eq_find?, h]
  show (other.settle (other.loadLocale tree locale)).1
    = (context.settle (context.loadLocale tree locale)).1
  unfold loadLocale
  rw [hfound]
  cases context.resolve? tree (localeFile locale) with
  | none => rfl
  | some path =>
    dsimp only
    cases readFields tree path <;> rfl

/-! ## One locale after the other -/

/-- The contexts that are `context`, but for what is under `languageKey`. -/
inductive Varies (context : Context) : Context → Prop
  | same : Varies context context
  | put (value : Value) :
      Varies context { context with values := context.values.put languageKey value }

theorem Varies.searchPaths_eq (h : Varies context other) :
    other.searchPaths = context.searchPaths := by
  cases h <;> rfl

theorem Varies.loaded_eq (h : Varies context other) : other.loaded = context.loaded := by
  cases h <;> rfl

/-- Where the context `Varies` what is under another key stays. -/
theorem Varies.get?_of_ne (h : Varies context other) {key : Text} (hkey : key ≠ languageKey) :
    other.get? key = context.get? key := by
  cases h with
  | same => rfl
  | put value =>
    show Keyed.get? key (context.values.put languageKey value) = _
    rw [Keyed.get?_put, if_neg (Ne.symm hkey)]
    rfl

/-- Strings that are written leave nothing of what stood there before: contexts that `Varies`
relates become equal. -/
theorem Varies.put_eq (h : Varies context other) (value : Value) :
    { other with values := other.values.put languageKey value }
      = { context with values := context.values.put languageKey value } := by
  cases h with
  | same => rfl
  | put old => rw [Keyed.put_put]

/-- To load a locale leaves a context that `Varies` in the strings in use and in nothing else. -/
theorem Varies.act (h : Varies context other) (locale : Text) :
    Varies context (act tree (.loadLocale locale) other).2 := by
  by_cases hanswer : answer tree other locale = .ok ()
  · obtain ⟨path, strings, -, -, hact⟩ := act_loadLocale_of_ok hanswer
    rw [hact other rfl, h.put_eq]
    exact .put _
  · rw [act_loadLocale_of_ne_ok hanswer]
    exact h

/-- To load locales one after the other leaves a context that `Varies` in the strings in use and in
nothing else. -/
theorem Varies.perform (h : Varies context other) (locales : List Text) :
    Varies context (perform tree (locales.map .loadLocale) other).2 := by
  induction locales generalizing other with
  | nil => exact h
  | cons locale rest ih => exact ih (h.act locale)

/-- Every call answers the `answer` that it would have given at first. -/
theorem Varies.answers_eq (h : Varies context other) (locales : List Text) :
    (Context.perform tree (locales.map .loadLocale) other).1
      = locales.map (answer tree context) := by
  induction locales generalizing other with
  | nil => rfl
  | cons locale rest ih =>
    exact congrArg₂ List.cons (answer_congr h.searchPaths_eq locale) (ih (h.act locale))

/-- What is done in two parts, `front` and `back`, is done in order. -/
theorem perform_append (tree : FileTree) (front back : List Action) (context : Context) :
    (perform tree (front ++ back) context).2
      = (perform tree back (perform tree front context).2).2 := by
  induction front generalizing context with
  | nil => rfl
  | cons action rest ih => exact ih (act tree action context).2

/-- Locales for none of which the `answer` is `.ok` leave the context. -/
theorem perform_of_ne_ok (h : ∀ locale ∈ locales, answer tree context locale ≠ .ok ()) :
    (perform tree (locales.map .loadLocale) context).2 = context := by
  induction locales with
  | nil => rfl
  | cons locale rest ih =>
    show (perform tree (rest.map .loadLocale) (act tree (.loadLocale locale) context).2).2 = context
    rw [act_loadLocale_of_ne_ok (h locale List.mem_cons_self)]
    exact ih fun later hlater => h later (List.mem_cons_of_mem _ hlater)

/-- **The last locale that can be loaded decides**: what `perform` leaves is what loading it alone
would have left. -/
theorem perform_of_last {back : List Text} (hlocale : answer tree context locale = .ok ())
    (hback : ∀ later ∈ back, answer tree context later ≠ .ok ()) (front : List Text) :
    (perform tree ((front ++ locale :: back).map .loadLocale) context).2
      = (act tree (.loadLocale locale) context).2 := by
  have hfront : Varies context (perform tree (front.map .loadLocale) context).2 :=
    Varies.same.perform front
  rw [List.map_append, perform_append]
  generalize (perform tree (front.map .loadLocale) context).2 = middle at hfront
  show (perform tree (back.map .loadLocale) (act tree (.loadLocale locale) middle).2).2 = _
  -- What the locales before it have put in place is replaced.
  obtain ⟨path, strings, -, -, hact⟩ := act_loadLocale_of_ok hlocale
  have hsame : act tree (.loadLocale locale) middle = act tree (.loadLocale locale) context := by
    rw [hact middle hfront.searchPaths_eq, hact context rfl, hfront.put_eq]
  rw [hsame]
  refine perform_of_ne_ok fun later hlater => ?_
  rw [answer_congr (Varies.same.act locale).searchPaths_eq]
  exact hback later hlater

end Context

/-! ## What is filled in -/

namespace Language

/-- Fills in the `strings` that are texts, in their order, each under its `variableName`. -/
def fillStrings (strings : Fields) (cursor : Cursor) : Cursor :=
  (strings.filterMap fun (key, value) => value.text?.map (variableName key, ·)).foldl
    (fun filled (name, content) => filled.fill name content false) cursor

/-- The `pass` for any language fills in the strings in use, by `fillStrings`. -/
theorem render_pass {m : Type → Type} [Monad m] {context : Context} {strings : Fields}
    (h : context.get? Context.languageKey = some (.map strings)) (tree : FileTree)
    (language : Language) :
    (language.pass tree : Pass m).render context = modify (fillStrings strings) := by
  have hfill : fill context = fillStrings strings := by
    funext cursor
    rw [fill, h, fillStrings, List.foldl_filterMap]
    show strings.foldl _ cursor = _
    congr 1
    funext filled (key, value)
    dsimp only
    cases value.text? <;> rfl
  show modify (fill context) = _
  rw [hfill]

end Language

/-! ## Calls from a theme -/

open Context (FirstFile Acceptable languageKey candidates localeFile act perform answer)

/-- A way to load locales: one by itself, or with passes for their languages. -/
inductive Translation where
  | load (locale : Text)
  | register (language : Language)
  | registerAll (languages : List Language)

namespace Translation

/-- The locales that are asked for. -/
def locales : Translation → List Text
  | load locale => [locale]
  | register language => [language.locale]
  | registerAll languages => languages.map (·.locale)

/-- The languages that passes are offered for. -/
def languages : Translation → List Language
  | load _ => []
  | register language => [language]
  | registerAll languages => languages

/-- The locales up to the first one whose `answer` is an error, which is tried as well. -/
def tried (tree : FileTree) (context : Context) : List Text → List Text
  | [] => []
  | locale :: rest =>
    match answer tree context locale with
    | .ok () => locale :: tried tree context rest
    | .error _ => [locale]

/-- The locales for which calls are made to load them, those `tried`. -/
def calls (tree : FileTree) (context : Context) (translation : Translation) : List Text :=
  tried tree context translation.locales

/-- The languages whose passes are registered: those in front of the first whose `answer` is an
error. -/
def registered (tree : FileTree) (context : Context) (languages : List Language) :
    List Language :=
  languages.takeWhile fun language => (answer tree context language.locale).isOk

/-- What the last of several `calls` answers, `.ok ()` if there is none. -/
def outcome (tree : FileTree) (context : Context) (calls : List Text) : Except Error Unit :=
  (calls.map (answer tree context)).getLast?.getD (.ok ())

theorem outcome_cons_of_ok {tree : FileTree} {context : Context} {locale : Text}
    (h : answer tree context locale = .ok ()) (calls : List Text) :
    outcome tree context (locale :: calls) = outcome tree context calls := by
  rw [outcome, List.map_cons, h, List.getLast?_cons, Option.getD_some, outcome]

section Run

variable {m : Type → Type} [Monad m]

/-- Loads locales in a theme in one of the ways: by `loadLocale`, by `register` or by
`registerAll`. -/
def run (tree : FileTree) : Translation → Theme m → Except Error Unit × Theme m
  | load locale, theme =>
    let (told, context) := act tree (.loadLocale locale) theme.context
    (told, { theme with context := context })
  | register language, theme => theme.register (language.pass tree)
  | registerAll languages, theme => theme.registerAll (languages.map (Language.pass tree))

/-- Loads locales in a theme in several ways in order, each by `run`. -/
def runAll (tree : FileTree) :
    List Translation → Theme m → List (Except Error Unit) × Theme m
  | [], theme => ([], theme)
  | translation :: rest, theme =>
    let (told, middle) := translation.run tree theme
    let (others, after) := runAll tree rest middle
    (told :: others, after)

/-- A theme in which the locales of `calls` have been loaded, and passes for `languages` been
registered. -/
def after (tree : FileTree) (calls : List Text) (languages : List Language) (theme : Theme m) :
    Theme m :=
  { theme with
    context := (perform tree (calls.map .loadLocale) theme.context).2
    passes := theme.passes ++ languages.map (Language.pass tree) }

variable {tree : FileTree} {context : Context} {theme : Theme m}

/-- Where no pass is registered the passes `after` are those that there were. -/
theorem after_nil (calls : List Text) :
    after tree calls [] theme
      = { theme with context := (perform tree (calls.map .loadLocale) theme.context).2 } := by
  rw [after, List.map_nil, List.append_nil]

/-- What is done in two parts is done in order: `after` of an append is `after` of `after`. -/
theorem after_append (calls later : List Text) (languages others : List Language) :
    after tree (calls ++ later) (languages ++ others) theme
      = after tree later others (after tree calls languages theme) := by
  unfold after
  rw [List.map_append, List.map_append, Context.perform_append, List.append_assoc]

/-- No call looks for files elsewhere: the `searchPaths` stay. -/
theorem searchPaths_after (calls : List Text) (languages : List Language) :
    (after tree calls languages theme).context.searchPaths = theme.context.searchPaths :=
  (Context.Varies.same.perform calls).searchPaths_eq

/-- By `registerAll` passes for languages are registered, with one call each, up to the first whose
locale cannot be loaded. -/
theorem registerAll_pass (languages : List Language)
    (h : theme.context.searchPaths = context.searchPaths) :
    theme.registerAll (languages.map (Language.pass tree)) =
      (outcome tree context (tried tree context (languages.map (·.locale))),
        after tree (tried tree context (languages.map (·.locale)))
          (registered tree context languages) theme) := by
  induction languages generalizing theme with
  | nil =>
    show (_, theme) = (_, after tree [] [] theme)
    rw [after_nil]
    rfl
  | cons language rest ih =>
    have hpreload : (language.pass tree : Pass m).preloadOn theme.context
        = (answer tree context language.locale,
          (perform tree [.loadLocale language.locale] theme.context).2) := by
      rw [← Context.answer_congr h]
      exact Loading.run_loadLocale tree theme.context language.locale
    rw [List.map_cons, List.map_cons, tried, registered]
    cases hcase : answer tree context language.locale with
    | ok =>
      rw [hcase] at hpreload
      rw [List.takeWhile_cons_of_pos (by rw [hcase]; rfl), Theme.registerAll_cons hpreload]
      -- The first call is made, and the first pass registered, before the others.
      show (after tree [language.locale] [language] theme).registerAll _ =
        (_, after tree ([language.locale] ++ _) ([language] ++ _) theme)
      rw [ih ((searchPaths_after _ _).trans h), ← after_append]
      show _ = (outcome tree context (language.locale :: _), _)
      rw [outcome_cons_of_ok hcase]
      rfl
    | error error =>
      rw [hcase] at hpreload
      rw [Theme.registerAll_of_fails hpreload,
        List.takeWhile_cons_of_neg (by rw [hcase]; exact nofun)]
      show _ = (outcome tree context [language.locale], after tree [language.locale] [] theme)
      rw [after_nil, outcome, List.map_singleton, hcase]
      rfl

/-- A call for one locale alone is `tried`, whatever it answers. -/
theorem tried_singleton (tree : FileTree) (context : Context) (locale : Text) :
    tried tree context [locale] = [locale] := by
  rw [tried]
  cases answer tree context locale <;> rfl

/-- **What loading locales in one way comes to**: the `outcome` of the `calls` that are made, and a
theme `after` these and the passes `registered`. -/
theorem run_eq (translation : Translation)
    (h : theme.context.searchPaths = context.searchPaths) :
    translation.run tree theme =
      (outcome tree context (translation.calls tree context),
        after tree (translation.calls tree context)
          (registered tree context translation.languages) theme) := by
  cases translation with
  | load locale =>
    rw [calls, locales, tried_singleton]
    show (answer tree theme.context locale, _) = (_, after tree [locale] [] theme)
    rw [Context.answer_congr h, after_nil]
    rfl
  | register language =>
    show theme.register (language.pass tree) = _
    rw [Theme.register_eq]
    exact registerAll_pass [language] h
  | registerAll languages => exact registerAll_pass languages h

/-- **What loading locales in several ways comes to**: the `outcome` of each, and a theme `after`
all `calls` and all passes `registered`. -/
theorem runAll_eq (translations : List Translation)
    (h : theme.context.searchPaths = context.searchPaths) :
    runAll tree translations theme =
      (translations.map fun translation => outcome tree context (translation.calls tree context),
        after tree (translations.flatMap (calls tree context))
          (translations.flatMap fun translation => registered tree context translation.languages)
          theme) := by
  induction translations generalizing theme with
  | nil =>
    show ([], theme) = ([], after tree [] [] theme)
    rw [after_nil]
    rfl
  | cons translation rest ih =>
    rw [runAll, run_eq translation h]
    dsimp only
    rw [ih ((searchPaths_after _ _).trans h), ← after_append]
    rfl

end Run

/-! ## What is left -/

/-- Values with `strings` in the place of whatever was under `languageKey`, or at the end if there
was nothing. -/
structure Replaced (strings before after : Fields) : Prop where
  found : after.get? languageKey = some (.map strings)
  present : ∀ (front : Fields) old back, before = front ++ (languageKey, old) :: back →
    languageKey ∉ front.keys → after = front ++ (languageKey, .map strings) :: back
  absent : languageKey ∉ before.keys → after = before ++ [(languageKey, .map strings)]

/-- Strings that are `put` under `languageKey` replace whatever was there. -/
theorem replaced_put (strings values : Fields) :
    Replaced strings values (values.put languageKey (.map strings)) where
  found := by rw [Keyed.get?_put, if_pos rfl]
  present front old back hvalues hfront := by rw [hvalues, Keyed.put_append hfront]
  absent hkey := Keyed.put_of_not_mem hkey _

/-- A locale is in use: the context `after` is what loading this locale `alone` would have made of
it. The `strings` that its file has are there in the place of any others, and these are what the
passes of all languages fill in. -/
structure InUse (tree : FileTree) (locale : Text) (before after : Context) : Prop where
  alone : act tree (.loadLocale locale) before = (.ok (), after)
  strings : ∃ path strings,
    FirstFile tree (candidates (localeFile locale) before.searchPaths) path ∧
      Acceptable tree path strings ∧ Replaced strings before.values after.values ∧
      ∀ {m : Type → Type} [Monad m] (language : Language) (other : FileTree),
        (language.pass other : Pass m).render after = modify (Language.fillStrings strings)

/-- A locale for which the `answer` is `.ok` is `InUse` then. -/
theorem inUse_of_ok {tree : FileTree} {context : Context} {locale : Text}
    (h : answer tree context locale = .ok ()) :
    InUse tree locale context (act tree (.loadLocale locale) context).2 := by
  obtain ⟨path, strings, hfirst, haccept, hact⟩ := Context.act_loadLocale_of_ok h
  rw [hact context rfl]
  refine ⟨hact context rfl, path, strings, hfirst, haccept, replaced_put strings _, ?_⟩
  intro m _ language other
  refine Language.render_pass ?_ other language
  exact (replaced_put strings context.values).found

variable {m : Type → Type} [Monad m]

/-- What becomes of a theme in which locales are loaded in several ways, some of which fail. -/
structure Translated (tree : FileTree) (translations : List Translation) (before : Theme m)
    (answers : List (Except Error Unit)) (after : Theme m) : Prop where
  /-- Calls are made that answer what they would have answered at first. -/
  calls : perform tree ((translations.flatMap (calls tree before.context)).map .loadLocale)
      before.context
    = ((translations.flatMap (calls tree before.context)).map (answer tree before.context),
      after.context)
  /-- What is told is the `outcome`: what the last call has answered. -/
  answers : answers = translations.map fun translation =>
    outcome tree before.context (translation.calls tree before.context)
  /-- Passes are registered as long as their locales can be loaded. -/
  passes : after.passes = before.passes ++ (translations.flatMap fun translation =>
    registered tree before.context translation.languages).map (Language.pass tree)
  cursor : after.cursor = before.cursor
  searchPaths : after.context.searchPaths = before.context.searchPaths
  loaded : after.context.loaded = before.context.loaded
  others : ∀ key, key ≠ languageKey → after.context.get? key = before.context.get? key
  /-- The last call that succeeds decides which locale is in use. -/
  last : ∀ front locale back,
    translations.flatMap (Translation.calls tree before.context) = front ++ locale :: back →
    answer tree before.context locale = .ok () →
    (∀ later ∈ back, answer tree before.context later ≠ .ok ()) →
      InUse tree locale before.context after.context
  /-- If none succeeds the context stays what it is. -/
  unchanged : (∀ locale ∈ translations.flatMap (Translation.calls tree before.context),
    answer tree before.context locale ≠ .ok ()) → after.context = before.context

/-- **The last locale that can be loaded is in use**, whatever was there before, in whichever ways
`runAll` loads locales and whichever of them fail; nothing else of the context changes. This is what
`Translated` tells for every list of `translations` and every theme. -/
theorem translated_runAll (tree : FileTree) (translations : List Translation) (theme : Theme m) :
    Translated tree translations theme (runAll tree translations theme).1
      (runAll tree translations theme).2 := by
  have hpaths : theme.context.searchPaths = theme.context.searchPaths := rfl
  rw [runAll_eq translations hpaths]
  have hsame : Context.Varies theme.context theme.context := .same
  have hvaries : Context.Varies theme.context (perform tree
      ((translations.flatMap (calls tree theme.context)).map .loadLocale) theme.context).2 :=
    hsame.perform _
  refine
    { calls := Prod.ext (hsame.answers_eq _) rfl
      answers := rfl
      passes := rfl
      cursor := rfl
      searchPaths := hvaries.searchPaths_eq
      loaded := hvaries.loaded_eq
      others := fun key hkey => hvaries.get?_of_ne hkey
      last := ?_
      unchanged := Context.perform_of_ne_ok }
  intro front locale back hcalls hlocale hback
  have hlast := Context.perform_of_last hlocale hback front
  rw [← hcalls] at hlast
  show InUse tree locale theme.context (perform tree (_ : List Context.Action) theme.context).2
  rw [hlast]
  exact inUse_of_ok hlocale

/-- A locale whose file is faulty is tried, and of passes that are registered together none is
tried behind the one that fails. -/
example :
    let tree : FileTree :=
      { root := .directory [(['a'], .directory [("locales".toList, .directory
          [("en.yml".toList, .file "k: v".toUTF8), ("fr.yml".toList, .file "k: w".toUTF8),
            ("xx.yml".toList, .file "k: [".toUTF8)])])] }
    let context : Context :=
      { values := [("lang".toList, .text ['a'])], searchPaths := [⟨"/a".toList⟩] }
    [Translation.register ⟨"en".toList⟩, .load "xx".toList,
        .registerAll [⟨"en".toList⟩, ⟨"fr".toList⟩, ⟨"yy".toList⟩, ⟨"en".toList⟩]].flatMap
      (calls tree context) = ["en".toList, "xx".toList, "en".toList, "fr".toList, "yy".toList] := by
  decide +kernel

end Translation

end Stencil
