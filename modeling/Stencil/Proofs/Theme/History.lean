import Stencil.Theme.Basic
import Stencil.Proofs.Block.Cleanup

/-!
# What becomes of a theme

A theme is used by registering passes with it and rendering it, in any order and
any number of times. `Turn` says what one such action may do and what it answers,
for passes that are any functions at all: they may fail in the middle of their
work, and they may share a state of their own beside the theme.

- Registering keeps the passes up to the first whose data does not load, in order,
  and never touches the text.
- Rendering runs the passes in order, each on what the one before it left. If all
  of them succeed the text that they leave is stored, with every block taken out.
  If one fails no later one runs and the theme is what it was, whatever the failing
  pass and those before it had done to the cursor.

Theorems:
- `succeed_or_fail`: attempts made in order all succeed, or there is a first one
  that fails.
- `turn_iff`: an action does what `Turn` says, and nothing else.
- `perform_iff`: so does a whole run of actions, and no text that is rendered in it
  has a complete block.
-/

namespace Stencil

/-! ## One attempt after the other -/

section Attempts

variable {α ω ε : Type*} {attempt : α → ω → Except ε Unit × ω}

/-- The attempts of a list, made one after the other, each on the state that the one before it left,
all succeed. -/
inductive Succeed (attempt : α → ω → Except ε Unit × ω) : List α → ω → ω → Prop
  | nil (state : ω) : Succeed attempt [] state state
  | cons {a : α} {rest : List α} {before middle after : ω}
      (first : attempt a before = (.ok (), middle)) (others : Succeed attempt rest middle after) :
      Succeed attempt (a :: rest) before after

/-- Either all attempts `Succeed` or there is a first one that fails. -/
theorem succeed_or_fail (attempt : α → ω → Except ε Unit × ω) :
    ∀ (list : List α) (state : ω), (∃ after, Succeed attempt list state after) ∨
      ∃ done failing rest middle error after, list = done ++ failing :: rest ∧
        Succeed attempt done state middle ∧ attempt failing middle = (.error error, after)
  | [], state => Or.inl ⟨state, .nil state⟩
  | a :: rest, state => by
    match hfirst : attempt a state with
    | (.error error, after) =>
      exact Or.inr ⟨[], a, rest, state, error, after, rfl, .nil state, hfirst⟩
    | (.ok (), middle) =>
      rcases succeed_or_fail attempt rest middle with
        ⟨after, hrest⟩ | ⟨done, failing, later, last, error, after, rfl, hdone, hfails⟩
      · exact Or.inl ⟨after, .cons hfirst hrest⟩
      · exact Or.inr ⟨a :: done, failing, later, last, error, after, rfl, .cons hfirst hdone, hfails⟩

end Attempts

/-- What a pass does to a context when it loads its data: `preload`, run on it. -/
def Pass.preloadOn {m : Type → Type} (pass : Pass m) (context : Context) :
    Except Error Unit × Context :=
  pass.preload.run.run context

variable {σ : Type}

/-- What a pass does to a cursor, and to the state that the passes share: `render`, run on both. -/
def Pass.renderOn (context : Context) (pass : Pass (StateM σ)) (work : Cursor × σ) :
    Except Error Unit × Cursor × σ :=
  let ((outcome, cursor), shared) := ((pass.render context).run.run work.1).run work.2
  (outcome, cursor, shared)

namespace Theme

/-! ## Actions -/

/-- One pass or several in order, offered to a theme. -/
inductive Registration (m : Type → Type) where
  | one (pass : Pass m)
  | several (passes : List (Pass m))

/-- The passes that a registration offers. -/
def Registration.offered {m : Type → Type} : Registration m → List (Pass m)
  | one pass => [pass]
  | several passes => passes

/-- What can be done with a theme. -/
inductive Action (m : Type → Type) where
  | register (registration : Registration m)
  | render

/-- What an action answers. -/
inductive Answer where
  | registered (outcome : Except Error Unit)
  | rendered (outcome : Except Error Text)

/-- Does an action to a theme and to the state that its passes share, by `register`, `registerAll`
or `render`. -/
def act : Action (StateM σ) → Theme (StateM σ) × σ → Answer × Theme (StateM σ) × σ
  | .register (.one pass), (theme, shared) =>
    let (outcome, registered) := theme.register pass
    (.registered outcome, registered, shared)
  | .register (.several passes), (theme, shared) =>
    let (outcome, registered) := theme.registerAll passes
    (.registered outcome, registered, shared)
  | .render, (theme, shared) =>
    let ((outcome, rendered), after) := theme.render.run shared
    (.rendered outcome, rendered, after)

/-- Does `act` for actions in order, and collects the answers. -/
def perform : List (Action (StateM σ)) → Theme (StateM σ) × σ →
    List Answer × Theme (StateM σ) × σ
  | [], state => ([], state)
  | action :: rest, state =>
    let (answer, middle) := act action state
    let (answers, after) := perform rest middle
    (answer :: answers, after)

/-- What an action makes of a theme and of the state that its passes share, and what
it answers. -/
inductive Turn :
    Action (StateM σ) → Theme (StateM σ) × σ → Answer → Theme (StateM σ) × σ → Prop
  /-- All data load (`Succeed`): the passes that are `offered` go behind those that are there. -/
  | registered {registration : Registration (StateM σ)} {theme : Theme (StateM σ)} {shared : σ}
      {context : Context}
      (loaded : Succeed Pass.preloadOn registration.offered theme.context context) :
      Turn (.register registration) (theme, shared) (.registered (.ok ()))
        ({ theme with context := context, passes := theme.passes ++ registration.offered }, shared)
  /-- The data of a pass do not load: the passes before it stay. -/
  | rejected {registration : Registration (StateM σ)} {theme : Theme (StateM σ)} {shared : σ}
      {context after : Context} {done rest : List (Pass (StateM σ))} {failing : Pass (StateM σ)}
      {error : Error} (offered : registration.offered = done ++ failing :: rest)
      (loaded : Succeed Pass.preloadOn done theme.context context)
      (fails : failing.preloadOn context = (.error error, after)) :
      Turn (.register registration) (theme, shared) (.registered (.error error))
        ({ theme with context := after, passes := theme.passes ++ done }, shared)
  /-- All passes succeed: what they leave is stored and told without its blocks. -/
  | rendered {theme : Theme (StateM σ)} {shared after : σ} {cursor : Cursor}
      (ran : Succeed (Pass.renderOn theme.context) theme.passes (theme.cursor, shared)
        (cursor, after)) :
      Turn .render (theme, shared) (.rendered (.ok (Block.removeAll cursor.current)))
        ({ theme with cursor := ⟨Block.removeAll cursor.current, cursor.initial⟩ }, after)
  /-- A pass fails: the theme is what it was, and no later pass has touched the
  shared state. -/
  | failed {theme : Theme (StateM σ)} {shared after : σ} {done rest : List (Pass (StateM σ))}
      {failing : Pass (StateM σ)} {work : Cursor × σ} {cursor : Cursor} {error : Error}
      (passes : theme.passes = done ++ failing :: rest)
      (ran : Succeed (Pass.renderOn theme.context) done (theme.cursor, shared) work)
      (fails : failing.renderOn theme.context work = (.error error, cursor, after)) :
      Turn .render (theme, shared) (.rendered (.error error)) (theme, after)

/-- What a run of actions makes of a theme and of the state that its passes share, a `Turn` for each
of them, and what it answers. -/
inductive Turns :
    List (Action (StateM σ)) → Theme (StateM σ) × σ → List Answer → Theme (StateM σ) × σ → Prop
  | nil (state : Theme (StateM σ) × σ) : Turns [] state [] state
  | cons {action : Action (StateM σ)} {actions : List (Action (StateM σ))} {answer : Answer}
      {answers : List Answer} {before middle after : Theme (StateM σ) × σ}
      (first : Turn action before answer middle) (others : Turns actions middle answers after) :
      Turns (action :: actions) before (answer :: answers) after

/-! ## Registering -/

section Registering

variable {m : Type → Type}

/-- By `register` a pass alone is registered as several are by `registerAll`. -/
theorem register_eq (pass : Pass m) (theme : Theme m) :
    theme.register pass = theme.registerAll [pass] := by
  rw [registerAll]
  split
  next registered heq => rw [heq, registerAll]
  next error unregistered heq => exact heq

/-- By `registerAll` a pass whose data load is registered, and the others are tried after it. -/
theorem registerAll_cons {pass : Pass m} {theme : Theme m} {context : Context}
    (h : pass.preloadOn theme.context = (.ok (), context)) (rest : List (Pass m)) :
    theme.registerAll (pass :: rest)
      = registerAll rest { theme with context := context, passes := theme.passes ++ [pass] } := by
  have hregister : theme.register pass
      = (.ok (), { theme with context := context, passes := theme.passes ++ [pass] }) := by
    unfold register
    rw [show (pass.preload.run).run theme.context = (.ok (), context) from h]
  rw [registerAll, hregister]

/-- By `registerAll` a pass whose data do not load ends the registering. -/
theorem registerAll_of_fails {pass : Pass m} {theme : Theme m} {error : Error} {context : Context}
    (h : pass.preloadOn theme.context = (.error error, context)) (rest : List (Pass m)) :
    theme.registerAll (pass :: rest) = (.error error, { theme with context := context }) := by
  have hregister : theme.register pass = (.error error, { theme with context := context }) := by
    unfold register
    rw [show (pass.preload.run).run theme.context = (.error error, context) from h]
  rw [registerAll, hregister]

/-- Passes whose data load, `done`, are registered in order, and the `rest` are tried after them. -/
theorem registerAll_append {done : List (Pass m)} {before after : Context}
    (h : Succeed Pass.preloadOn done before after) (rest : List (Pass m)) :
    ∀ {theme : Theme m}, theme.context = before →
      theme.registerAll (done ++ rest)
        = registerAll rest { theme with context := after, passes := theme.passes ++ done } := by
  induction h with
  | nil state =>
    intro theme htheme
    subst htheme
    rw [List.nil_append, List.append_nil]
  | cons first _ ih =>
    intro theme htheme
    subst htheme
    rw [List.cons_append, registerAll_cons first, ih rfl, List.append_assoc, List.singleton_append]

end Registering

/-! ## Rendering -/

/-- Runs passes in order on a cursor and on the state that they share, by `runPasses`. -/
def runOn (context : Context) (passes : List (Pass (StateM σ))) (work : Cursor × σ) :
    Except Error Unit × Cursor × σ :=
  let ((outcome, cursor), shared) := ((runPasses context passes).run.run work.1).run work.2
  (outcome, cursor, shared)

/-- With no pass `runOn` does nothing. -/
theorem runOn_nil (context : Context) (work : Cursor × σ) :
    runOn context [] work = (.ok (), work) := rfl

/-- What `renderOn` does with one pass decides whether the others are run. -/
theorem runOn_cons (context : Context) (pass : Pass (StateM σ)) (rest : List (Pass (StateM σ)))
    (work : Cursor × σ) :
    runOn context (pass :: rest) work =
      match pass.renderOn context work with
      | (.ok (), after) => runOn context rest after
      | (.error error, after) => (.error error, after) := by
  unfold runOn Pass.renderOn
  rw [runPasses, ExceptT.run_bind, StateT.run_bind, StateT.run_bind]
  generalize ((pass.render context).run.run work.1).run work.2 = outcome
  match outcome with
  | ((.ok (), cursor), shared) => rfl
  | ((.error error, cursor), shared) => rfl

/-- A pass that fails ends the rendering by `runOn`. -/
theorem runOn_of_fails {context : Context} {pass : Pass (StateM σ)} {work after : Cursor × σ}
    {error : Error} (h : pass.renderOn context work = (.error error, after))
    (rest : List (Pass (StateM σ))) :
    runOn context (pass :: rest) work = (.error error, after) := by
  rw [runOn_cons, h]

/-- Passes that `Succeed` leave their work to those behind them. -/
theorem runOn_append {context : Context} {done : List (Pass (StateM σ))}
    {work after : Cursor × σ} (h : Succeed (Pass.renderOn context) done work after)
    (rest : List (Pass (StateM σ))) :
    runOn context (done ++ rest) work = runOn context rest after := by
  induction h with
  | nil state => rw [List.nil_append]
  | cons first _ ih =>
    rw [List.cons_append, runOn_cons, first]
    exact ih

/-- By `render` the passes are run and what they leave is kept if none of them fails. -/
theorem run_render (theme : Theme (StateM σ)) (shared : σ) :
    theme.render.run shared =
      match runOn theme.context theme.passes (theme.cursor, shared) with
      | (.ok (), cursor, after) =>
        ((.ok (Block.removeAll cursor.current),
          { theme with cursor := ⟨Block.removeAll cursor.current, cursor.initial⟩ }), after)
      | (.error error, _, after) => ((.error error, theme), after) := by
  unfold render runOn
  rw [StateT.run_bind]
  generalize ((runPasses theme.context theme.passes).run.run theme.cursor).run shared = outcome
  match outcome with
  | ((.ok (), cursor), after) => rfl
  | ((.error error, cursor), after) => rfl

/-! ## Runs of actions -/

/-- Both ways to register do what `registerAll` does with the passes offered. -/
theorem act_register (registration : Registration (StateM σ)) (theme : Theme (StateM σ))
    (shared : σ) :
    act (.register registration) (theme, shared) =
      (.registered (theme.registerAll registration.offered).1,
        (theme.registerAll registration.offered).2, shared) := by
  cases registration with
  | one pass =>
    show (Answer.registered (theme.register pass).1, (theme.register pass).2, shared) = _
    rw [register_eq, Registration.offered]
  | several passes => rfl

/-- What `Turn` allows is what `act` does. -/
theorem act_of_turn {action : Action (StateM σ)} {before after : Theme (StateM σ) × σ}
    {answer : Answer} (h : Turn action before answer after) :
    act action before = (answer, after) := by
  cases h with
  | @registered registration theme shared context loaded =>
    have hall := registerAll_append loaded [] rfl
    rw [List.append_nil, registerAll] at hall
    rw [act_register, hall]
  | @rejected registration theme shared context after done rest failing error offered loaded fails =>
    -- Those behind the failing pass are not tried.
    have hall := registerAll_append loaded (failing :: rest) rfl
    rw [← offered, registerAll_of_fails fails] at hall
    rw [act_register, hall]
  | @rendered theme shared after cursor ran =>
    have hall := runOn_append ran []
    rw [List.append_nil, runOn_nil] at hall
    rw [act, run_render, hall]
  | @failed theme shared after done rest failing work cursor error passes ran fails =>
    -- Those behind the failing pass are not run.
    have hall := runOn_append ran (failing :: rest)
    rw [← passes, runOn_of_fails fails] at hall
    rw [act, run_render, hall]

/-- For every action `Turn` allows something. -/
theorem exists_turn (action : Action (StateM σ)) (before : Theme (StateM σ) × σ) :
    ∃ answer after, Turn action before answer after := by
  obtain ⟨theme, shared⟩ := before
  cases action with
  | register registration =>
    rcases succeed_or_fail Pass.preloadOn registration.offered theme.context with
      ⟨context, hall⟩ | ⟨done, failing, rest, context, error, after, hoffered, hdone, hfails⟩
    · exact ⟨_, _, .registered hall⟩
    · exact ⟨_, _, .rejected hoffered hdone hfails⟩
  | render =>
    rcases succeed_or_fail (Pass.renderOn theme.context) theme.passes (theme.cursor, shared) with
      ⟨⟨cursor, after⟩, hall⟩ | ⟨done, failing, rest, work, error, after, hpasses, hdone, hfails⟩
    · exact ⟨_, _, .rendered hall⟩
    · exact ⟨_, _, .failed hpasses hdone hfails⟩

/-- **An action does what `Turn` says**, and nothing else: `act` and `Turn` agree. -/
theorem turn_iff {action : Action (StateM σ)} {before after : Theme (StateM σ) × σ}
    {answer : Answer} : Turn action before answer after ↔ act action before = (answer, after) := by
  constructor
  · exact act_of_turn
  · intro hact
    -- Something is allowed, and what is allowed is what is done.
    obtain ⟨told, left, hturn⟩ := exists_turn action before
    have hsame : (told, left) = (answer, after) := (act_of_turn hturn).symm.trans hact
    cases hsame
    exact hturn

/-- No `Turn` tells a text that has a complete block, `HasComplete`. -/
theorem not_hasComplete_of_turn {action : Action (StateM σ)}
    {before after : Theme (StateM σ) × σ} {text : Text}
    (h : Turn action before (.rendered (.ok text)) after) : ¬ Block.HasComplete text := by
  cases h with
  | rendered ran => exact Block.not_hasComplete_removeAll _

/-- A run of actions by `perform` does what `Turns` says, and nothing else. -/
theorem turns_iff {actions : List (Action (StateM σ))} {before after : Theme (StateM σ) × σ}
    {answers : List Answer} :
    Turns actions before answers after ↔ perform actions before = (answers, after) := by
  induction actions generalizing before answers with
  | nil =>
    constructor
    · intro h
      cases h
      rfl
    · intro h
      cases h
      exact .nil _
  | cons action rest ih =>
    constructor
    · intro h
      cases h with
      | cons first others =>
        rw [perform, turn_iff.mp first]
        show (_ :: (perform rest _).1, (perform rest _).2) = _
        rw [ih.mp others]
    · intro h
      cases h
      exact .cons (turn_iff.mpr rfl) (ih.mpr rfl)

/-- No text that `Turns` tells has a complete block, `HasComplete`. -/
theorem not_hasComplete_of_turns {actions : List (Action (StateM σ))}
    {before after : Theme (StateM σ) × σ} {answers : List Answer}
    (h : Turns actions before answers after) {text : Text}
    (hmem : Answer.rendered (.ok text) ∈ answers) : ¬ Block.HasComplete text := by
  induction h with
  | nil state => cases hmem
  | cons first _ ih =>
    rcases List.mem_cons.mp hmem with rfl | hrest
    · exact not_hasComplete_of_turn first
    · exact ih hrest

/-- **A run of actions does what `Turns` says, and nothing else.** In `perform` the passes whose
data load go behind those that are there, up to the first whose data do not; a rendering that
succeeds stores and tells what the passes in order make of the text, with every block taken out; and
a rendering that fails leaves the theme alone. The last part adds that no text told, none that is
`.rendered (.ok text)` among the `answers`, has a complete block. -/
theorem perform_iff {actions : List (Action (StateM σ))} {before after : Theme (StateM σ) × σ}
    {answers : List Answer} :
    perform actions before = (answers, after) ↔
      Turns actions before answers after ∧
        ∀ text, Answer.rendered (.ok text) ∈ answers → ¬ Block.HasComplete text := by
  constructor
  · intro h
    have hturns := turns_iff.mpr h
    exact ⟨hturns, fun text => not_hasComplete_of_turns hturns⟩
  · intro h
    exact turns_iff.mp h.1

end Theme

end Stencil
