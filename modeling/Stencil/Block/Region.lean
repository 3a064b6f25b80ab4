import Stencil.Block.Tag

/-!
# Block regions

A region is an open tag, a body, and the first close tag of the same name after
it. Regions are found from left to right: each search goes on behind the region
found before, so regions never overlap, and whatever stands inside one, other
blocks included, is part of its body. An open tag that nothing closes is plain
text, and the search goes on at its second character.

Theorems:
- `region?_eq_append`: what a region is read from is its text and the rest.
- `assemble_regions`: the regions and the gaps between them make up the text.
-/

namespace Stencil.Block

open Text

/-- A complete block in a text: its `name`, and the `body` between its two tags. -/
structure Region where
  name : Text
  body : Text
  deriving DecidableEq

/-- The text of a region, with `openTag` in front of the `body` and `closeTag` behind it. -/
def Region.raw (region : Region) : Text :=
  openTag region.name ++ region.body ++ closeTag region.name

/-- A region that begins at the front of a text, and what follows it. The body ends at the first
`closeTag name` behind the open tag. -/
def region? (pattern : Pattern) (text : Text) : Option (Region × Text) := do
  let (name, afterOpen) ← openTag? pattern text
  let (body, rest) ← breakAt? (closeTag name) afterOpen
  return (⟨name, body⟩, rest)

/-- The text is `region.raw ++ rest` for the region and the rest that `region?` reads from it. -/
theorem region?_eq_append {pattern : Pattern} {text rest : Text} {region : Region}
    (h : region? pattern text = some (region, rest)) : text = region.raw ++ rest := by
  simp only [region?, Option.bind_eq_bind, Option.bind_eq_some_iff, Option.pure_def,
    Option.some.injEq, Prod.mk.injEq] at h
  obtain ⟨⟨name, afterOpen⟩, hopen, ⟨body, after⟩, hbreak, rfl, rfl⟩ := h
  have hbody : afterOpen = body ++ closeTag name ++ after := breakAt?_eq_append hbreak
  rw [openTag?_eq_append hopen, hbody]
  simp [Region.raw]

/-- The text cut at the regions that the pattern admits, by `split` with `region?`. -/
def regions (pattern : Pattern) (text : Text) : Split Region :=
  split (region? pattern) text

/-- The `regions` with `Region.raw` in their places make up the text again. -/
theorem assemble_regions (pattern : Pattern) (text : Text) :
    (regions pattern text).assemble Region.raw = text :=
  assemble_split region?_eq_append text

/-- The `raw` texts of the regions that the pattern admits, from left to right. -/
def find (pattern : Pattern) (text : Text) : List Text :=
  (regions pattern text).found.map Region.raw

/-- The text with `render region` in the place of each of its `regions`. -/
def replace (pattern : Pattern) (render : Region → Text) (text : Text) : Text :=
  (regions pattern text).assemble render

/-- The text without the tags of the regions: each gives way to its `Region.body`. -/
def unwrap (pattern : Pattern) : Text → Text :=
  replace pattern Region.body

/-- The text without the regions. -/
def remove (pattern : Pattern) : Text → Text :=
  replace pattern fun _ => []

/-- The text without any region at all. Taking regions out may join what stood around them into a
new one, so `remove .any` is done over until the text becomes no shorter. -/
def removeAll (text : Text) : Text :=
  if _h : (remove .any text).length < text.length then removeAll (remove .any text) else text
termination_by text.length

/-- A region with the byte offsets `start` and `stop` at which it begins and ends. -/
structure Place where
  region : Region
  start : Nat
  stop : Nat

/-- Every one of the `regions` with its place, from left to right. A region is as wide as the
`byteLength` of its `raw` text. -/
def places (pattern : Pattern) (text : Text) : List Place :=
  let width := fun region : Region => byteLength region.raw
  (Split.offsets width 0 (regions pattern text).pieces).map fun (start, region) =>
    ⟨region, start, start + width region⟩

end Stencil.Block
