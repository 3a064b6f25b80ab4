import Stencil.Text.Basic

/-!
# Splitting a text at the pieces a reader recognises

A reader looks at the front of a text and either takes a piece off it or
refuses. `split` walks a text from the left, takes every piece the reader
recognises, goes on after it, and keeps the characters in between as gaps:

    gap₀ piece₁ gap₁ piece₂ … pieceₙ gapₙ

Everything that is found or replaced in a template goes through this one walk:
block regions, open tags, variable tags, and the occurrences of a literal.
A piece of no length is never taken, so the walk always ends.

Theorems:
- `assemble_pushGap`, `assemble_pushPiece`: how an assembled text begins.
- `assemble_split`: written back as they were read, the pieces restore the text.
-/

namespace Stencil

/-- A text cut at its pieces: each of the `pieces` with the gap before it, and the gap after the
last one as the `tail`. -/
structure Split (α : Type) where
  pieces : List (Text × α)
  tail : Text

namespace Split

variable {α β : Type}

/-- One more character in front of the first gap. -/
def pushGap (c : Char) (s : Split α) : Split α :=
  match s.pieces with
  | [] => ⟨[], c :: s.tail⟩
  | (gap, a) :: rest => ⟨(c :: gap, a) :: rest, s.tail⟩

/-- One more piece in front, with no gap before it. -/
def pushPiece (a : α) (s : Split α) : Split α :=
  ⟨([], a) :: s.pieces, s.tail⟩

/-- The `pieces` without the gaps. -/
def found (s : Split α) : List α :=
  s.pieces.map (·.2)

/-- The text with `render a` in the place of each piece `a`. -/
def assemble (render : α → Text) (s : Split α) : Text :=
  s.pieces.flatMap (fun piece => piece.1 ++ render piece.2) ++ s.tail

/-- A character that `pushGap` puts in front of the first gap is the first of the assembled text. -/
theorem assemble_pushGap (render : α → Text) (c : Char) (s : Split α) :
    (s.pushGap c).assemble render = c :: s.assemble render := by
  obtain ⟨pieces, tail⟩ := s
  cases pieces with
  | nil => rfl
  | cons piece rest => rfl

/-- A piece that `pushPiece` puts in front begins the assembled text. -/
theorem assemble_pushPiece (render : α → Text) (a : α) (s : Split α) :
    (s.pushPiece a).assemble render = render a ++ s.assemble render := by
  simp [pushPiece, assemble]

/-- What `assemble` does, with effects, which happen piece by piece from the left. -/
def assembleM {m : Type → Type} [Monad m] (render : α → m Text) (s : Split α) : m Text := do
  let parts ← s.pieces.mapM fun piece => do
    return piece.1 ++ (← render piece.2)
  return parts.flatten ++ s.tail

/-- Each piece with the byte offset at which it starts, when the gaps stand as
they are, a piece `a` is `width a` bytes long, and the walk begins at `start`. -/
def offsets (width : α → Nat) : Nat → List (Text × α) → List (Nat × α)
  | _, [] => []
  | start, (gap, a) :: rest =>
    let place := start + Text.byteLength gap
    (place, a) :: offsets width (place + width a) rest

end Split

namespace Text

variable {α : Type}

/-- Splits a text at the pieces that `read?` takes off the front of a rest. -/
def split (read? : Text → Option (α × Text)) : Text → Split α
  | [] => ⟨[], []⟩
  | c :: text =>
    match read? (c :: text) with
    | none => (split read? text).pushGap c
    | some (a, rest) =>
      if _h : rest.length ≤ text.length then (split read? rest).pushPiece a
      else (split read? text).pushGap c
termination_by text => text.length
decreasing_by all_goals (simp only [List.length_cons]; omega)

/-- When every piece that `read?` reads is written back by `render` as it was read, `assemble`
restores the text that was `split`. -/
theorem assemble_split {read? : Text → Option (α × Text)} {render : α → Text}
    (h : ∀ {text a rest}, read? text = some (a, rest) → text = render a ++ rest) (text : Text) :
    (split read? text).assemble render = text := by
  fun_induction split read? text with
  | case1 => rfl
  | case2 c text hread ih => rw [Split.assemble_pushGap, ih]
  | case3 c text a rest hread hle ih => rw [Split.assemble_pushPiece, ih, ← h hread]
  | case4 c text a rest hread hle ih => rw [Split.assemble_pushGap, ih]

/-- The text with `render a` in the place of each piece `a` that `read?` recognises. -/
def replaceEach (read? : Text → Option (α × Text)) (render : α → Text) (text : Text) : Text :=
  (split read? text).assemble render

/-- The text with `new` in the place of each occurrence of `old`, none of which
overlap. Nothing is replaced when `old` is empty. -/
def replaceAll (old new : Text) : Text → Text :=
  replaceEach (fun text => (stripPrefix? old text).map fun rest => ((), rest)) fun _ => new

end Text

end Stencil
