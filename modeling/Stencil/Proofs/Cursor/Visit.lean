import Stencil.Cursor.Template
import Stencil.Proofs.Block.Scan

/-!
# Rendering the blocks of a cursor one by one

`visitM` and `gatherM` hand the body of each block that a tag names to a callback,
which may keep a state of its own from one call to the next. `RendersInPlace` says
what becomes of the cursor without saying how it is done: the text is cut into gaps
and regions, the callback is called once for each region from the left, on a fresh
child over its body, and what it leaves stands between the same two gaps. Nothing
is looked for again, neither in what a call leaves nor in the gaps, and a region is
told from another by where it stands, not by what it says.

Theorems:
- `cutAt_regions`: the search for regions cuts a text at its regions.
- `eq_of_placesOf_eq`: a text is cut at given places in one way only.
- `Calls.run_mapM`: calls made in order leave the texts of their children behind the
  gaps.
- `run_iff_rendersInPlace`: both ways of rendering blocks do what `RendersInPlace`
  says, and nothing else.
-/

namespace Stencil

open Block Text

/-! ## Texts cut at regions -/

namespace Block

/-- Where regions stand that follow one another with gaps before them, when the first gap begins at
the byte `start`. -/
def placesOf : Nat → List (Text × Region) → List Place
  | _, [] => []
  | start, (gap, region) :: rest =>
    let first := start + byteLength gap
    let stop := first + byteLength region.raw
    ⟨region, first, stop⟩ :: placesOf stop rest

/-- The `places` of the regions that are found are where the gaps put them by `placesOf`. -/
theorem placesOf_pieces (pattern : Pattern) (text : Text) :
    placesOf 0 (regions pattern text).pieces = places pattern text := by
  have hoffsets : ∀ (start : Nat) (pieces : List (Text × Region)),
      placesOf start pieces
        = (Split.offsets (fun region => byteLength region.raw) start pieces).map
            fun piece => ⟨piece.2, piece.1, piece.1 + byteLength piece.2.raw⟩ := by
    intro start pieces
    induction pieces generalizing start with
    | nil => rfl
    | cons piece rest ih => simp only [placesOf, Split.offsets, List.map_cons, ih]
  exact hoffsets 0 _

/-- The `text` is cut at the regions that the `pattern` admits, in the places that are
`LeftmostLazy`: a gap before each region in `pieces`, and the `tail` behind the last one. -/
structure CutAt (pattern : Pattern) (text : Text) (pieces : List (Text × Region)) (tail : Text) :
    Prop where
  text_eq : text = pieces.flatMap (fun piece => piece.1 ++ piece.2.raw) ++ tail
  regions : LeftmostLazy pattern text (placesOf 0 pieces)

/-- The search `Block.regions` makes such a cut, `CutAt`. -/
theorem cutAt_regions (pattern : Pattern) (text : Text) :
    CutAt pattern text (regions pattern text).pieces (regions pattern text).tail where
  text_eq := (assemble_regions pattern text).symm
  regions := by
    rw [placesOf_pieces]
    exact leftmostLazy_places pattern text

/-- A text is cut at the places of `placesOf` in one way only. -/
theorem eq_of_placesOf_eq {tail tail' : Text} :
    ∀ {pieces pieces' : List (Text × Region)} {start : Nat},
      (⟨pieces, tail⟩ : Split Region).assemble Region.raw
        = (⟨pieces', tail'⟩ : Split Region).assemble Region.raw →
      placesOf start pieces = placesOf start pieces' → pieces = pieces' ∧ tail = tail'
  | [], [], _, htext, _ => ⟨rfl, htext⟩
  | [], _ :: _, _, _, hplaces => nomatch hplaces
  | _ :: _, [], _, _, hplaces => nomatch hplaces
  | (gap, region) :: rest, (gap', region') :: rest', start, htext, hplaces => by
    simp only [placesOf, List.cons.injEq, Place.mk.injEq] at hplaces
    obtain ⟨⟨rfl, hfirst, -⟩, hrest⟩ := hplaces
    simp only [Split.assemble, List.flatMap_cons, List.append_assoc] at htext
    -- The gaps are equally long, so the regions begin behind equal gaps.
    obtain ⟨rfl, hbehind⟩ := eq_of_byteLength_eq htext (by omega)
    obtain ⟨rfl, rfl⟩ := eq_of_placesOf_eq (List.append_cancel_left hbehind) hrest
    exact ⟨rfl, rfl⟩

end Block

/-! ## Calls in order -/

section Calls

variable {σ γ : Type} {call : γ → StateM σ γ}

/-- The calls of a callback, each made on a child and in the state that the one before it left, with
the children as they were `handed` over and as they were `left`. -/
inductive Calls (call : γ → StateM σ γ) : List (γ × γ) → σ → σ → Prop
  | nil (state : σ) : Calls call [] state state
  | cons {handed left : γ} {others : List (γ × γ)} {before middle after : σ}
      (first : (call handed).run before = (left, middle)) (rest : Calls call others middle after) :
      Calls call ((handed, left) :: others) before after

/-- What is put in the place of a region: the `gap` before it, the `region`, and the child over its
body as the callback `left` it. -/
structure Visit (γ : Type) where
  gap : Text
  region : Region
  left : γ

/-- What a visit finds: the `gap` and the `region` behind it. -/
def Visit.piece (visit : Visit γ) : Text × Region :=
  (visit.gap, visit.region)

variable {make : Text → γ} {read : γ → Text}

/-- The call of a visit: the child that `make` makes over the body of the region, and what is `left`
of it. -/
def Visit.handover (make : Text → γ) (visit : Visit γ) : γ × γ :=
  (make visit.region.body, visit.left)

/-- What a visit leaves of the text: the `gap` as it was, and the text that `read` reads of the
child. -/
def Visit.written (read : γ → Text) (visit : Visit γ) : Text :=
  visit.gap ++ read visit.left

/-- Whatever a callback `call` is, it leaves something of every child. -/
theorem exists_calls (make : Text → γ) (call : γ → StateM σ γ) :
    ∀ (pieces : List (Text × Region)) (before : σ), ∃ (visits : List (Visit γ)) (after : σ),
      visits.map Visit.piece = pieces ∧ Calls call (visits.map (Visit.handover make)) before after
  | [], before => ⟨[], before, rfl, .nil before⟩
  | (gap, region) :: rest, before => by
    match hfirst : (call (make region.body)).run before with
    | (left, middle) =>
      obtain ⟨visits, after, hpieces, hcalls⟩ := exists_calls make call rest middle
      refine ⟨⟨gap, region, left⟩ :: visits, after, ?_, .cons hfirst hcalls⟩
      rw [List.map_cons, hpieces, Visit.piece]

/-- What a callback leaves of a child over a `body`, by `read`. -/
def renderChild (make : Text → γ) (read : γ → Text) (call : γ → StateM σ γ) (body : Text) :
    StateM σ Text := do
  return read (← call (make body))

/-- The gap of a piece, and behind it what `renderChild` leaves of the body of its region. -/
def renderPiece (make : Text → γ) (read : γ → Text) (call : γ → StateM σ γ)
    (piece : Text × Region) : StateM σ Text := do
  return piece.1 ++ (← renderChild make read call piece.2.body)

/-- A call leaves the text of its child behind the gap, as `Visit.written` says. -/
theorem run_renderPiece {visit : Visit γ} {before after : σ}
    (h : (call (make visit.region.body)).run before = (visit.left, after)) :
    (renderPiece make read call visit.piece).run before = (visit.written read, after) := by
  rw [renderPiece, StateT.run_bind, Visit.piece, renderChild, StateT.run_bind, h]
  rfl

/-- The `Calls` made in order leave the texts of their children behind the gaps. -/
theorem Calls.run_mapM {visits : List (Visit γ)} {before after : σ}
    (h : Calls call (visits.map (Visit.handover make)) before after) :
    ((visits.map Visit.piece).mapM (renderPiece make read call)).run before
      = (visits.map (Visit.written read), after) := by
  induction visits generalizing before with
  | nil =>
    cases h
    rfl
  | cons visit rest ih =>
    rw [List.map_cons] at h
    cases h with
    | cons first others =>
      rw [List.map_cons, List.mapM_cons, StateT.run_bind, run_renderPiece first]
      show (do
        let written ← ((rest.map Visit.piece).mapM (renderPiece make read call)).run _
        (pure (visit.written read :: written.1) : StateM σ (List Text)).run written.2) = _
      rw [ih others]
      rfl

end Calls

/-! ## In the place of each region -/

/-- A callback renders the blocks of a cursor in their places: the text is cut at the `LeftmostLazy`
regions that `tag` names, each of the `calls` is made on a fresh child over the body of the next
region, and what the calls leave stands between the gaps (`current_eq`). -/
structure RendersInPlace {σ γ : Type} (make : Text → γ) (read : γ → Text) (tag : Text)
    (call : γ → StateM σ γ) (cursor : Cursor) (before : σ) (visits : List (Visit γ)) (tail : Text)
    (result : Cursor) (after : σ) : Prop where
  text_eq : cursor.current
    = visits.flatMap (fun visit => visit.gap ++ visit.region.raw) ++ tail
  regions : LeftmostLazy (.ofTag tag) cursor.current (placesOf 0 (visits.map Visit.piece))
  calls : Calls call (visits.map (Visit.handover make)) before after
  current_eq : result.current
    = visits.flatMap (fun visit => visit.gap ++ read visit.left) ++ tail
  initial_eq : result.initial = cursor.initial

section Render

variable {σ γ : Type} {make : Text → γ} {read : γ → Text} {tag : Text} {call : γ → StateM σ γ}
  {cursor result : Cursor} {before after : σ}

/-- The gaps and regions of `RendersInPlace` are those that the search `Block.regions` finds. -/
theorem RendersInPlace.regions_eq {visits : List (Visit γ)} {tail : Text}
    (h : RendersInPlace make read tag call cursor before visits tail result after) :
    Block.regions (.ofTag tag) cursor.current = ⟨visits.map Visit.piece, tail⟩ := by
  have hplaces : placesOf 0 (visits.map Visit.piece)
      = placesOf 0 (Block.regions (.ofTag tag) cursor.current).pieces := by
    rw [placesOf_pieces]
    exact h.regions.unique (leftmostLazy_places _ _)
  have htext : (⟨visits.map Visit.piece, tail⟩ : Split Region).assemble Region.raw
      = (Block.regions (.ofTag tag) cursor.current).assemble Region.raw := by
    rw [assemble_regions, h.text_eq, Split.assemble, List.flatMap_map]
    rfl
  obtain ⟨hpieces, htail⟩ := eq_of_placesOf_eq htext hplaces
  rw [hpieces, htail]
  rfl

/-- To render the bodies of the blocks of a cursor by `replaceBodiesM` is `RendersInPlace`. -/
theorem run_replaceBodiesM_iff :
    (cursor.replaceBodiesM tag (renderChild make read call)).run before = (result, after) ↔
      ∃ visits tail, RendersInPlace make read tag call cursor before visits tail result after := by
  -- Once the regions are known the outcome is.
  have hrun : ∀ {visits : List (Visit γ)} {tail : Text} {last : σ},
      Block.regions (.ofTag tag) cursor.current = ⟨visits.map Visit.piece, tail⟩ →
      Calls call (visits.map (Visit.handover make)) before last →
      (cursor.replaceBodiesM tag (renderChild make read call)).run before
        = (cursor.setCurrent (visits.flatMap (Visit.written read) ++ tail), last) := by
    intro visits tail last hregions hcalls
    have hassemble : ((⟨visits.map Visit.piece, tail⟩ : Split Region).assembleM
        fun region => renderChild make read call region.body).run before
          = ((visits.map (Visit.written read)).flatten ++ tail, last) := by
      show (do
        let parts ← ((visits.map Visit.piece).mapM (renderPiece make read call)).run before
        (pure (parts.1.flatten ++ tail) : StateM σ Text).run parts.2) = _
      rw [hcalls.run_mapM]
      rfl
    rw [Cursor.replaceBodiesM, hregions, StateT.run_bind, hassemble, List.flatMap_def]
    rfl
  constructor
  · intro h
    obtain ⟨visits, last, hpieces, hcalls⟩ :=
      exists_calls make call (Block.regions (.ofTag tag) cursor.current).pieces before
    have hregions : Block.regions (.ofTag tag) cursor.current
        = ⟨visits.map Visit.piece, (Block.regions (.ofTag tag) cursor.current).tail⟩ := by
      rw [hpieces]
    rw [hrun hregions hcalls] at h
    obtain ⟨rfl, rfl⟩ := Prod.mk.inj h
    refine ⟨visits, _, ?_, ?_, hcalls, rfl, rfl⟩
    · have hassemble := assemble_regions (.ofTag tag) cursor.current
      rw [Split.assemble, ← hpieces, List.flatMap_map] at hassemble
      exact hassemble.symm
    · rw [hpieces, placesOf_pieces]
      exact leftmostLazy_places _ _
  · intro h
    obtain ⟨visits, tail, h⟩ := h
    rw [hrun h.regions_eq h.calls]
    obtain ⟨current, initial⟩ := result
    have hcurrent := h.current_eq
    have hinitial := h.initial_eq
    dsimp only at hcurrent hinitial
    rw [hcurrent, hinitial]
    rfl

end Render

/-- **Blocks are rendered where they stand**, for every text, every `tag` and every callback `visit`
with a state of its own, in `visitM` as in `gatherM`: the `result` and the state `after` are those
of `RendersInPlace`, and no others. So the callback is called once for each region of the text, from
left to right, on a fresh child over its body; what the child holds after the call, its
`Cursor.current` or what a template has `gathered`, takes the place of the region, and the gaps, the
text the cursor began as, and nothing else stay. -/
theorem run_iff_rendersInPlace (tag : Text) (cursor : Cursor) {σ : Type} (before : σ)
    (result : Cursor) (after : σ) :
    (∀ visit : Cursor → StateM σ Cursor,
      (cursor.visitM tag visit).run before = (result, after) ↔
        ∃ visits tail, RendersInPlace Cursor.ofText Cursor.current tag visit cursor before
          visits tail result after) ∧
      ∀ visit : Template → StateM σ Template,
        (cursor.gatherM tag visit).run before = (result, after) ↔
          ∃ visits tail, RendersInPlace Template.ofText Template.gathered tag visit cursor before
            visits tail result after :=
  ⟨fun _ => run_replaceBodiesM_iff, fun _ => run_replaceBodiesM_iff⟩

end Stencil
