import Stencil.Proofs.Template.Copies

/-!
# Different ways to render a block

A block can be unwrapped, removed, repeated for rows, or handed to a callback with a
child cursor or a template over its body. Where two of these are asked for the same
they give the same: repeating is committing one copy for each row, one row is a visit
that fills it in, unwrapping is a visit that does nothing, and removing is repeating
for no row or a template in which nothing is committed.

The reason is one law: however the text for a body is come by, if it depends on the
body alone then that text stands in the place of each block.

Theorems:
- `replaceBodiesM_pure`: rendering that has no effect replaces the blocks.
- `fst_run_replaceBodiesM`: so does rendering that has effects, if they do not show
  in the text.
- `repeatRows_agrees`: the ways to render a block agree.
-/

namespace Stencil

open Block (Region)

/-! ## Rendering that depends on the body alone -/

namespace Cursor

/-- To render bodies without an effect, by `pure`, is `Block.replace`. -/
theorem replaceBodiesM_pure {m : Type → Type} [Monad m] [LawfulMonad m] (tag : Text)
    (written : Text → Text) (cursor : Cursor) :
    cursor.replaceBodiesM tag (fun body => (pure (written body) : m Text))
      = pure (cursor.edit (Block.replace (.ofTag tag) fun region => written region.body)) := by
  have hparts : ∀ pieces : List (Text × Region),
      (pieces.mapM fun piece => do
          return piece.1 ++ (← (pure (written piece.2.body) : m Text)) : m (List Text))
        = pure (pieces.map fun piece => piece.1 ++ written piece.2.body) := by
    intro pieces
    rw [← List.mapM_pure]
    exact congrArg (fun render => pieces.mapM render) (funext fun piece => pure_bind _ _)
  unfold replaceBodiesM Split.assembleM
  dsimp only
  rw [hparts, pure_bind, pure_bind, ← List.flatMap_def]
  rfl

/-- A visit without an effect, by `pure`, puts in the place of each block what `change` leaves. -/
theorem visitM_pure {m : Type → Type} [Monad m] [LawfulMonad m] (tag : Text)
    (change : Cursor → Cursor) (cursor : Cursor) :
    cursor.visitM tag (fun child => (pure (change child) : m Cursor))
      = pure (cursor.edit
          (Block.replace (.ofTag tag) fun region => (change (ofText region.body)).current)) := by
  unfold visitM
  rw [← replaceBodiesM_pure tag fun body => (change (ofText body)).current]
  exact congrArg (fun render => cursor.replaceBodiesM tag render) (funext fun body => pure_bind _ _)

/-- A template filled without an effect, by `pure`, puts in the place of each block what it has
`gathered`. -/
theorem gatherM_pure {m : Type → Type} [Monad m] [LawfulMonad m] (tag : Text)
    (change : Template → Template) (cursor : Cursor) :
    cursor.gatherM tag (fun template => (pure (change template) : m Template))
      = pure (cursor.edit (Block.replace (.ofTag tag) fun region =>
          (change (Template.ofText region.body)).gathered)) := by
  unfold gatherM
  rw [← replaceBodiesM_pure tag fun body => (change (Template.ofText body)).gathered]
  exact congrArg (fun render => cursor.replaceBodiesM tag render) (funext fun body => pure_bind _ _)

variable {σ : Type}

/-- Calls whose `answer` does not show the state answer in `mapM` as a function does. -/
theorem fst_run_mapM {α β : Type} {call : α → StateM σ β} {answer : α → β}
    (h : ∀ a shared, ((call a).run shared).1 = answer a) (list : List α) (shared : σ) :
    ((list.mapM call).run shared).1 = list.map answer := by
  induction list generalizing shared with
  | nil => rfl
  | cons a rest ih =>
    rw [List.mapM_cons, List.map_cons, StateT.run_bind]
    show ((call a).run shared).1 :: ((rest.mapM call).run ((call a).run shared).2).1 = _
    rw [h, ih]

/-- To render bodies with effects that do not show in the text `written` is `Block.replace`. -/
theorem fst_run_replaceBodiesM {render : Text → StateM σ Text} (written : Text → Text)
    (h : ∀ body shared, ((render body).run shared).1 = written body) (tag : Text) (cursor : Cursor)
    (shared : σ) :
    ((cursor.replaceBodiesM tag render).run shared).1
      = cursor.edit (Block.replace (.ofTag tag) fun region => written region.body) := by
  have hpiece : ∀ (piece : Text × Region) (shared : σ),
      ((do return piece.1 ++ (← render piece.2.body) : StateM σ Text).run shared).1
        = piece.1 ++ written piece.2.body := by
    intro piece shared
    show piece.1 ++ ((render piece.2.body).run shared).1 = _
    rw [h]
  unfold edit Block.replace Split.assemble
  rw [List.flatMap_def, ← fst_run_mapM hpiece _ shared]
  rfl

end Cursor

/-! ## The ways to render a block -/

/-- Commits one copy for each of the `rows`, with the variables of the row filled in by
`fillFields`. -/
def Template.fillRows (rows : List Fields) (template : Template) : Template :=
  rows.foldl (fun template row => (template.edit (Cursor.fillFields row true)).commit) template

namespace Cursor

/-- What `fillRows` has `gathered` is the body filled in for each of the `rows`. -/
theorem gathered_fillRows (rows : List Fields) (body : Text) :
    ((Template.ofText body).fillRows rows).gathered
      = rows.flatMap fun row => Variable.fillFields true row body := by
  let changes : List (Cursor → Cursor) := rows.map fun row => fillFields row true
  have hinitial : ∀ change ∈ changes, (change (ofText body)).initial = body := by
    intro change hchange
    obtain ⟨row, -, rfl⟩ := List.mem_map.mp hchange
    rfl
  have hcopies := Template.foldl_commit hinitial []
  rw [List.foldl_map, List.flatMap_map, List.nil_append] at hcopies
  exact congrArg Template.gathered hcopies

/-- A template that `fillRows` fills is `repeatRows`. -/
theorem gatherM_fillRows {m : Type → Type} [Monad m] [LawfulMonad m] (tag : Text)
    (rows : List Fields) (cursor : Cursor) :
    cursor.gatherM tag (fun template => (pure (template.fillRows rows) : m Template))
      = pure (cursor.repeatRows tag rows) := by
  have hregion : (fun region : Region => ((Template.ofText region.body).fillRows rows).gathered)
      = fun region => rows.flatMap fun row => Variable.fillFields true row region.body :=
    funext fun region => gathered_fillRows rows region.body
  rw [gatherM_pure, hregion]
  rfl

/-- A visit that `fillFields` fills in for one row is `repeatRows` for it. -/
theorem visitM_fillFields {m : Type → Type} [Monad m] [LawfulMonad m] (tag : Text)
    (row : Fields) (cursor : Cursor) :
    cursor.visitM tag (fun child => (pure (child.fillFields row true) : m Cursor))
      = pure (cursor.repeatRows tag [row]) := by
  have hregion : (fun region : Region => ((ofText region.body).fillFields row true).current)
      = fun region => [row].flatMap fun row => Variable.fillFields true row region.body :=
    funext fun region => (List.flatMap_singleton _ _).symm
  rw [visitM_pure tag (fillFields row true), hregion]
  rfl

/-- A template in which nothing is `gathered` removes the blocks. -/
theorem fst_run_gatherM_of_gathered_eq_nil {σ : Type} {callback : Template → StateM σ Template}
    (h : ∀ body shared, ((callback (Template.ofText body)).run shared).1.gathered = [])
    (tag : Text) (cursor : Cursor) (shared : σ) :
    ((cursor.gatherM tag callback).run shared).1 = cursor.remove tag := by
  unfold gatherM
  rw [fst_run_replaceBodiesM (fun _ => []) h]
  rfl

/-- **The ways to render a block agree**, for every text, every `tag`, the empty one included, and
any `rows`. In the order of the statement: to repeat the blocks for rows is to commit a copy for
each of them in a template (`fillRows`); to repeat them for one row is a visit by `fillFields`; to
`unwrap` is a visit that does nothing; to `remove` is to repeat for no row; and `remove` is what
becomes of a template in which a `callback`, whatever else it does, leaves nothing `gathered`. -/
theorem repeatRows_agrees (tag : Text) (rows : List Fields) (row : Fields) (cursor : Cursor)
    (σ : Type) :
    cursor.gatherM tag (fun template => (pure (template.fillRows rows) : StateM σ Template))
        = pure (cursor.repeatRows tag rows) ∧
      cursor.visitM tag (fun child => (pure (child.fillFields row true) : StateM σ Cursor))
        = pure (cursor.repeatRows tag [row]) ∧
      cursor.visitM tag (fun child => (pure child : StateM σ Cursor)) = pure (cursor.unwrap tag) ∧
      cursor.remove tag = cursor.repeatRows tag [] ∧
      ∀ callback : Template → StateM σ Template,
        (∀ body shared, ((callback (Template.ofText body)).run shared).1.gathered = []) →
        ∀ shared, ((cursor.gatherM tag callback).run shared).1 = cursor.remove tag :=
  ⟨gatherM_fillRows tag rows cursor, visitM_fillFields tag row cursor,
    visitM_pure tag (fun child => child) cursor, rfl,
    fun _ hcallback => fst_run_gatherM_of_gathered_eq_nil hcallback tag cursor⟩

/-- A template that is counted and filled in, but never committed. -/
theorem repeatRows_agrees_uncommitted :
    let callback : Template → StateM Nat Template := fun template => do
      modify (· + 1)
      return template.edit (Cursor.fill ['v'] ['l'] true)
    let block := Block.openTag ['T'] ++ Variable.tag ['v'] ++ Block.closeTag ['T']
    let cursor := Cursor.ofText ('a' :: block ++ 'b' :: block)
    (∀ body shared, ((callback (Template.ofText body)).run shared).1.gathered = []) ∧
      ((cursor.gatherM ['T'] callback).run 0).1 = cursor.remove ['T'] ∧
      ((cursor.gatherM ['T'] callback).run 0).2 = 2 ∧
      (cursor.remove ['T']).current = ['a', 'b'] := by
  intro callback block cursor
  have hcallback : ∀ body shared,
      ((callback (Template.ofText body)).run shared).1.gathered = [] := fun body shared => rfl
  obtain ⟨-, -, -, -, hremove⟩ := repeatRows_agrees ['T'] [] [] cursor Nat
  refine ⟨hcallback, hremove callback hcallback 0, ?_, ?_⟩
  · decide +kernel
  · decide +kernel

end Cursor

end Stencil
