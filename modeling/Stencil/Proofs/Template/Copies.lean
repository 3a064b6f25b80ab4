import Stencil.Cursor.Template

/-!
# The copies that a template gathers

A template is one cursor that is used for every copy of a text, with an accumulator
beside it. The copies have nothing to do with each other all the same: whatever has
been done to the cursor is gone once a copy is committed, so each copy is what the
steps since the last commit make of a fresh cursor, and what is done after the last
commit does not reach the accumulator.

Steps may call back, and callbacks are any functions at all. They share a state
from the first step to the last, beside the cursor; it is all that one copy can tell
another.

Theorems:
- `foldl_commit`: changes made one after the other, each committed, are made to a
  fresh cursor each.
- `initial_runAll`: no steps change what a cursor began as.
- `runAll_copyMoves`: a copy is gathered from a fresh cursor, and leaves a fresh cursor.
- `runAll_moves`: a run of steps and commits gathers what the steps between the
  commits make of fresh cursors.
-/

namespace Stencil

variable {σ : Type}

namespace Cursor

/-! ## Steps -/

/-- What can be done to the text of a cursor. A `callback` may do anything to the children that it
is given and to the state `σ` that the callbacks share. -/
inductive Step (σ : Type) where
  | fill (name value : Text) (transform : Bool)
  | fillFields (fields : Fields) (transform : Bool)
  | unwrap (tag : Text)
  | remove (tag : Text)
  | removeAll
  | choose (label : Text) (holds : Bool)
  | repeatRows (tag : Text) (rows : List Fields)
  | visit (tag : Text) (callback : Cursor → StateM σ Cursor)
  | gather (tag : Text) (callback : Template → StateM σ Template)
  | replace (old new : Text)
  | setCurrent (text : Text)
  /-- What is done to the shared state alone, such as making a callback ready. -/
  | prepare (change : σ → σ)

/-- Takes a step, by the function of `Cursor` of its name. -/
def Step.run : Step σ → Cursor → StateM σ Cursor
  | fill name value transform, cursor => pure (cursor.fill name value transform)
  | fillFields fields transform, cursor => pure (cursor.fillFields fields transform)
  | unwrap tag, cursor => pure (cursor.unwrap tag)
  | remove tag, cursor => pure (cursor.remove tag)
  | removeAll, cursor => pure cursor.removeAll
  | choose label holds, cursor => pure (cursor.choose label holds)
  | repeatRows tag rows, cursor => pure (cursor.repeatRows tag rows)
  | visit tag callback, cursor => cursor.visitM tag callback
  | gather tag callback, cursor => cursor.gatherM tag callback
  | replace old new, cursor => pure (cursor.replace old new)
  | setCurrent text, cursor => pure (cursor.setCurrent text)
  | prepare change, cursor => do
    modify change
    return cursor

/-- Takes the steps in order, each by `Step.run`. -/
def runAll : List (Step σ) → Cursor → StateM σ Cursor
  | [], cursor => pure cursor
  | step :: rest, cursor => do runAll rest (← step.run cursor)

/-- To render the blocks of a cursor does not change the `initial` text that it began as. -/
theorem initial_replaceBodiesM (tag : Text) (render : Text → StateM σ Text) (cursor : Cursor)
    (shared : σ) :
    ((cursor.replaceBodiesM tag render).run shared).1.initial = cursor.initial := rfl

/-- A step does not change the `initial` text of a cursor. -/
theorem Step.initial_run (step : Step σ) (cursor : Cursor) (shared : σ) :
    ((step.run cursor).run shared).1.initial = cursor.initial := by
  cases step with
  | visit tag callback =>
    rw [run, visitM]
    exact initial_replaceBodiesM tag _ cursor shared
  | gather tag callback =>
    rw [run, gatherM]
    exact initial_replaceBodiesM tag _ cursor shared
  | _ => rfl

/-- No steps change the `initial` text of a cursor. -/
theorem initial_runAll (steps : List (Step σ)) (cursor : Cursor) (shared : σ) :
    ((runAll steps cursor).run shared).1.initial = cursor.initial := by
  induction steps generalizing cursor shared with
  | nil => rfl
  | cons step rest ih =>
    rw [runAll, StateT.run_bind]
    show ((runAll rest ((step.run cursor).run shared).1).run _).1.initial = _
    rw [ih, step.initial_run]

end Cursor

namespace Template

/-! ## Changes, each of them committed -/

/-- Changes made one after the other, with a `commit` after each of them, are made to a fresh cursor
each. -/
theorem foldl_commit {text : Text} {changes : List (Cursor → Cursor)}
    (h : ∀ change ∈ changes, (change (Cursor.ofText text)).initial = text) (gathered : Text) :
    changes.foldl (fun template change => (edit change template).commit)
        ⟨Cursor.ofText text, gathered⟩
      = ⟨Cursor.ofText text,
          gathered ++ changes.flatMap fun change => (change (Cursor.ofText text)).current⟩ := by
  induction changes generalizing gathered with
  | nil => rw [List.foldl_nil, List.flatMap_nil, List.append_nil]
  | cons change rest ih =>
    have hfirst : (change (Cursor.ofText text)).initial = text := h change List.mem_cons_self
    have hrest : ∀ other ∈ rest, (other (Cursor.ofText text)).initial = text :=
      fun other hother => h other (List.mem_cons_of_mem change hother)
    rw [List.foldl_cons, commit_edit hfirst, ih hrest, List.flatMap_cons, List.append_assoc]

/-! ## Steps and commits -/

/-- What can be done to a template: a `step` of its cursor, or the end of a copy. -/
inductive Move (σ : Type) where
  | step (taken : Cursor.Step σ)
  | commit

/-- Makes a move. -/
def Move.run : Move σ → Template → StateM σ Template
  | step taken, template => do
    let cursor ← taken.run template.cursor
    return { template with cursor := cursor }
  | commit, template => pure template.commit

/-- Makes the moves in order, each by `Move.run`. -/
def runAll : List (Move σ) → Template → StateM σ Template
  | [], template => pure template
  | move :: rest, template => do runAll rest (← move.run template)

/-- By `runAll` moves are made up to any place, and then the others. -/
theorem runAll_append (first second : List (Move σ)) (template : Template) :
    runAll (first ++ second) template = runAll first template >>= runAll second := by
  induction first generalizing template with
  | nil => rw [List.nil_append, runAll, pure_bind]
  | cons move rest ih =>
    rw [List.cons_append, runAll, runAll, bind_assoc]
    exact bind_congr fun middle => ih middle

/-- Steps are taken by the cursor, and what is `gathered` stays. -/
theorem runAll_steps (steps : List (Cursor.Step σ)) (template : Template) :
    runAll (steps.map Move.step) template = do
      let cursor ← Cursor.runAll steps template.cursor
      return { template with cursor := cursor } := by
  induction steps generalizing template with
  | nil => rw [List.map_nil, runAll, Cursor.runAll, pure_bind]
  | cons step rest ih =>
    rw [List.map_cons, runAll, Move.run, Cursor.runAll, bind_assoc, bind_assoc]
    refine bind_congr fun cursor => ?_
    rw [pure_bind]
    exact ih { template with cursor := cursor }

/-- No move changes the `initial` text of the cursor of a template. -/
theorem initial_move (move : Move σ) (template : Template) (shared : σ) :
    ((move.run template).run shared).1.cursor.initial = template.cursor.initial := by
  cases move with
  | step taken => exact taken.initial_run template.cursor shared
  | commit => rfl

/-- No moves change the `initial` text of the cursor of a template. -/
theorem initial_moves (moves : List (Move σ)) (template : Template) (shared : σ) :
    ((runAll moves template).run shared).1.cursor.initial = template.cursor.initial := by
  induction moves generalizing template shared with
  | nil => rfl
  | cons move rest ih =>
    rw [runAll, StateT.run_bind]
    show ((runAll rest ((move.run template).run shared).1).run _).1.cursor.initial = _
    rw [ih, initial_move]

/-- After a `commit` the cursor is back at what it began as. -/
theorem cursor_run_commit (moves : List (Move σ)) (template : Template) (shared : σ) :
    ((runAll (moves ++ [.commit]) template).run shared).1.cursor
      = Cursor.ofText template.cursor.initial := by
  rw [runAll_append, StateT.run_bind, ← initial_moves moves template shared]
  rfl

/-- The moves that make a copy: the `steps` to it, and the `commit` that ends it. -/
def copyMoves (steps : List (Cursor.Step σ)) : List (Move σ) :=
  steps.map Move.step ++ [.commit]

/-- What `steps` make of a fresh cursor over a `text`. -/
def rendering (text : Text) (steps : List (Cursor.Step σ)) : StateM σ Text := do
  return (← Cursor.runAll steps (Cursor.ofText text)).current

/-- By `copyMoves` a copy is gathered from a fresh cursor, and leaves a fresh cursor. -/
theorem runAll_copyMoves (steps : List (Cursor.Step σ)) (text gathered : Text) :
    runAll (copyMoves steps) ⟨Cursor.ofText text, gathered⟩ = do
      let copy ← rendering text steps
      return ⟨Cursor.ofText text, gathered ++ copy⟩ := by
  rw [copyMoves, runAll_append, runAll_steps, rendering, bind_assoc, bind_assoc]
  funext shared
  -- The cursor that the steps leave began as the text.
  have hinitial := Cursor.initial_runAll steps (Cursor.ofText text) shared
  let left : Cursor := ((Cursor.runAll steps (Cursor.ofText text)).run shared).1
  have hcommit : (edit (fun _ => left) ⟨Cursor.ofText text, gathered⟩).commit
      = ⟨Cursor.ofText text, gathered ++ left.current⟩ := commit_edit hinitial gathered
  exact Prod.ext hcommit rfl

/-- The copies of `copyMoves` are gathered from fresh cursors one after the other. -/
theorem runAll_flatMap_copyMoves (iterations : List (List (Cursor.Step σ)))
    (text gathered : Text) :
    runAll (iterations.flatMap copyMoves) ⟨Cursor.ofText text, gathered⟩ = do
      let copies ← iterations.mapM (rendering text)
      return ⟨Cursor.ofText text, gathered ++ copies.flatten⟩ := by
  induction iterations generalizing gathered with
  | nil =>
    rw [List.flatMap_nil, runAll, List.mapM_nil, pure_bind, List.flatten_nil, List.append_nil]
  | cons steps rest ih =>
    rw [List.flatMap_cons, runAll_append, runAll_copyMoves, List.mapM_cons, bind_assoc, bind_assoc]
    refine bind_congr fun copy => ?_
    rw [pure_bind, ih, bind_assoc]
    refine bind_congr fun copies => ?_
    rw [pure_bind, List.flatten_cons, List.append_assoc]

/-- **The copies of a template have nothing to do with each other**, for every `text`, any steps,
any callbacks and commits in any places. What the cursor began as, its `initial` text, never
changes, and after each `commit` nothing has been done to it. What is `gathered` are the copies in
order, each of them the `rendering` by the steps between two commits from a fresh cursor over the
text, and the cursor that is left is what the `last` steps, after the last commit, make of such a
cursor; they add nothing to what is gathered. -/
theorem runAll_moves (text : Text) :
    (∀ (moves : List (Move σ)) (shared : σ),
      ((runAll moves (ofText text)).run shared).1.cursor.initial = text) ∧
    (∀ (moves : List (Move σ)) (shared : σ),
      ((runAll (moves ++ [.commit]) (ofText text)).run shared).1.cursor = Cursor.ofText text) ∧
    ∀ (iterations : List (List (Cursor.Step σ))) (last : List (Cursor.Step σ)),
      runAll (iterations.flatMap copyMoves ++ last.map Move.step) (ofText text) = do
        let copies ← iterations.mapM (rendering text)
        let left ← Cursor.runAll last (Cursor.ofText text)
        return ⟨left, copies.flatten⟩ := by
  refine ⟨fun moves => initial_moves moves (ofText text),
    fun moves => cursor_run_commit moves (ofText text), fun iterations last => ?_⟩
  rw [runAll_append, ofText, runAll_flatMap_copyMoves, bind_assoc]
  refine bind_congr fun copies => ?_
  rw [pure_bind, runAll_steps, List.nil_append]

/-- Templates within a template. -/
example :
    let cells (row : Char) : Template → StateM Unit Template :=
      runAll (['0', '1'].flatMap fun cell => copyMoves [.fill ['v'] [row, cell] true])
    let rows : List (Move Unit) :=
      ['0', '1'].flatMap fun row => copyMoves [.gather ['C'] (cells row)]
    let text := Block.openTag ['C'] ++ '[' :: Variable.tag ['v'] ++ [']'] ++ Block.closeTag ['C']
    ((runAll rows (ofText (text ++ [';']))).run ()).1.gathered
      = "[00][01];[10][11];".toList := by decide +kernel

end Template

end Stencil
