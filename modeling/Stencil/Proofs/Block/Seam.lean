import Stencil.Proofs.Block.Region

/-!
# Texts put together from literals and blocks

A text in which literals and blocks of one name take turns is taken apart again
where it was put together, whatever else the literals and the bodies hold: halves
of tags, close tags that close nothing, other blocks, open tags of the same name
inside a body. Only two things are asked for. No literal holds the open tag, and no
body holds the close tag.

The reason is that the brace of a tag stands only at its front. A tag that began in
a literal or a body and ended behind the seam would hold the brace of the tag behind
the seam as well.

Theorems:
- `regions_joined`: the search for regions cuts such a text at its seams.
- `find_unwrap_remove_joined`: what is found, unwrapped and removed in it.
-/

namespace Stencil.Block

open Text

/-- A `body` between the `openTag` and the `closeTag` of a block. -/
def wrapped (name body : Text) : Text :=
  openTag name ++ body ++ closeTag name

/-- Literals and blocks of one name in turn, each of the `parts` a literal with the body of the
block behind it, and the literal `last` behind the last block. -/
def joined (name : Text) (parts : List (Text × Text)) (last : Text) : Text :=
  parts.flatMap (fun part => part.1 ++ wrapped name part.2) ++ last

/-- A `literal` without the `openTag` of a well-formed name is passed over as a whole, if it ends
the text or a brace follows it (`hseam`). -/
theorem refuses_literal {name literal rest : Text} (hname : isName name)
    (hliteral : ¬ openTag name <:+: literal) (hseam : ∀ c after, rest = c :: after → c = '{') :
    Refuses (region? (.named name)) literal rest := by
  have hbrace : '{' ∉ (openTag name).tail := by
    simp [openTag, openMark, not_mem_name hname (by decide : '{'.isAlphanum = false)]
  have hmark : Refuses (readMark? (openTag name)) literal rest :=
    refuses_readMark? hbrace hseam hliteral
  refine hmark.mono fun hnone => region?_eq_none_iff.mpr fun other after hother htext => ?_
  obtain rfl := admits_named_iff.mp hother
  exact absurd htext (readMark?_eq_none_iff.mp hnone after)

/-- A `body` without the `closeTag` of a well-formed name is `Closed` by the one behind it. -/
theorem closed_of_not_infix {name body : Text} (hname : isName name)
    (hbody : ¬ closeTag name <:+: body) : Region.Closed ⟨name, body⟩ := by
  have hbrace : '{' ∉ (closeTag name).tail := by
    simp [closeTag, closeMark, not_mem_name hname (by decide : '{'.isAlphanum = false)]
  refine endsFirst_of_refuses (refuses_readMark? hbrace (fun c after htext => ?_) hbody)
  exact (List.cons.inj htext).1.symm

/-- The search `regions` cuts a text that was `joined` from literals and blocks at its seams. -/
theorem regions_joined {name last : Text} (hname : isName name)
    (hlast : ¬ openTag name <:+: last) :
    ∀ {parts : List (Text × Text)},
      (∀ part ∈ parts, ¬ openTag name <:+: part.1 ∧ ¬ closeTag name <:+: part.2) →
      regions (.named name) (joined name parts last)
        = ⟨parts.map fun part => (part.1, ⟨name, part.2⟩), last⟩
  | [], _ => by
    have hrefuses : Refuses (region? (.named name)) last [] := refuses_literal hname hlast nofun
    rw [joined, List.flatMap_nil, List.nil_append, ← List.append_nil last, regions,
      split_append_of_refuses hrefuses, split_nil, Split.pushText_tail]
    rfl
  | (literal, body) :: parts, hparts => by
    obtain ⟨⟨hliteral, hbody⟩, hothers⟩ := List.forall_mem_cons.mp hparts
    have hrest := regions_joined hname hlast hothers
    have hread : region? (.named name) (wrapped name body ++ joined name parts last)
        = some (⟨name, body⟩, joined name parts last) :=
      region?_eq_some_iff.mpr
        ⟨admits_named_iff.mpr rfl, closed_of_not_infix hname hbody, rfl⟩
    have hrefuses : Refuses (region? (.named name)) literal
        (wrapped name body ++ joined name parts last) :=
      refuses_literal hname hliteral fun c after htext => (List.cons.inj htext).1.symm
    have htext : joined name ((literal, body) :: parts) last
        = literal ++ (wrapped name body ++ joined name parts last) := by
      simp [joined]
    rw [htext, regions, split_append_of_refuses hrefuses, ← regions, regions_of_some hread, hrest,
      Split.pushText_pushPiece]
    rfl

/-- **Literals and blocks stay apart.** Let a text be `joined` from literals without the `openTag`
of a name and blocks of that name whose bodies are without its `closeTag`. Then `find` gives the
blocks as they were `wrapped`, `unwrap` leaves the literals and the bodies, and `remove` leaves the
literals. -/
theorem find_unwrap_remove_joined {name last : Text} {parts : List (Text × Text)}
    (hname : isName name) (hlast : ¬ openTag name <:+: last)
    (hparts : ∀ part ∈ parts, ¬ openTag name <:+: part.1 ∧ ¬ closeTag name <:+: part.2) :
    find (.ofTag name) (joined name parts last) = parts.map (fun part => wrapped name part.2) ∧
      unwrap (.ofTag name) (joined name parts last)
        = parts.flatMap (fun part => part.1 ++ part.2) ++ last ∧
      remove (.ofTag name) (joined name parts last) = parts.flatMap Prod.fst ++ last := by
  have hregions := regions_joined hname hlast hparts
  rw [ofTag_of_isName hname]
  refine ⟨?_, ?_, ?_⟩
  · rw [find, hregions, Split.found, List.map_map, List.map_map]
    rfl
  · rw [unwrap, replace, hregions, Split.assemble, List.flatMap_map]
  · rw [remove, replace, hregions, Split.assemble, List.flatMap_map]
    simp only [List.append_nil]

/-- Halves of tags at both seams of a block, a `closeTag` that closes nothing, and an `openTag`
within a body. -/
theorem find_unwrap_remove_joined_halves :
    let half : Text := ['{', 'b', 'l', 'o', 'c', 'k', ':', 'A']
    let halfClose : Text := closeMark ++ ['A']
    isName ['A'] ∧ ¬ openTag ['A'] <:+: half ∧
      (∀ part ∈ [(closeTag ['A'] ++ half, openTag ['A'] ++ halfClose)],
        ¬ openTag ['A'] <:+: part.1 ∧ ¬ closeTag ['A'] <:+: part.2) ∧
      unwrap (.ofTag ['A'])
          (closeTag ['A'] ++ half ++ wrapped ['A'] (openTag ['A'] ++ halfClose) ++ half)
        = closeTag ['A'] ++ half ++ (openTag ['A'] ++ halfClose) ++ half := by
  intro half halfClose
  have hlast : ¬ openTag ['A'] <:+: half := by decide
  have hparts : ∀ part ∈ [(closeTag ['A'] ++ half, openTag ['A'] ++ halfClose)],
      ¬ openTag ['A'] <:+: part.1 ∧ ¬ closeTag ['A'] <:+: part.2 := by decide
  have hname : isName ['A'] := by decide
  exact ⟨hname, hlast, hparts, (find_unwrap_remove_joined hname hlast hparts).2.1⟩

end Stencil.Block
