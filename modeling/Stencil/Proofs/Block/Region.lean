import Stencil.Block.Region
import Stencil.Proofs.Block.Tag
import Stencil.Proofs.Text.Occurrence

/-!
# What the region reader accepts

A region is read from a text exactly when the text begins with it, the pattern
admits its name, and its close tag is the first one of that name behind the open
tag (`region?_eq_some_iff`). None is read exactly when the text begins with no
admitted open tag or no close tag of its name follows (`region?_eq_none_iff`).
With these two, `regions_of_none`, `regions_of_some` and `regions_induction`
nothing else needs to be known of how regions are found.
-/

namespace Stencil.Block

open Text

/-- The `closeTag` of a region is the first one of its name behind the open tag. -/
def Region.Closed (region : Region) : Prop :=
  EndsFirst (closeTag region.name) region.body

/-- Behind an open tag `region?` reads up to the first `closeTag` of its name. -/
theorem region?_of_openTag? {pattern : Pattern} {text name after : Text}
    (h : openTag? pattern text = some (name, after)) :
    region? pattern text
      = (breakAt? (closeTag name) after).map fun cut => (⟨name, cut.1⟩, cut.2) := by
  simp only [region?, h, Option.bind_eq_bind, Option.bind_some, Option.pure_def]
  rw [Option.map_eq_bind]
  rfl

/-- The reader `region?` gives a region exactly where a `Closed` one stands that the pattern
`admits`. -/
theorem region?_eq_some_iff {pattern : Pattern} {text rest : Text} {region : Region} :
    region? pattern text = some (region, rest) ↔
      pattern.admits region.name ∧ region.Closed ∧ text = region.raw ++ rest := by
  constructor
  · intro h
    have htext := region?_eq_append h
    simp only [region?, Option.bind_eq_bind, Option.bind_eq_some_iff, Option.pure_def,
      Option.some.injEq, Prod.mk.injEq] at h
    obtain ⟨⟨name, afterOpen⟩, hopen, ⟨body, after⟩, hbreak, rfl, rfl⟩ := h
    exact ⟨(openTag?_eq_some_iff.mp hopen).1, (breakAt?_eq_some_iff.mp hbreak).2, htext⟩
  · intro h
    obtain ⟨hname, hclosed, rfl⟩ := h
    have hopen : openTag? pattern (region.raw ++ rest)
        = some (region.name, region.body ++ closeTag region.name ++ rest) :=
      openTag?_eq_some_iff.mpr ⟨hname, by simp [Region.raw]⟩
    have hbreak : breakAt? (closeTag region.name) (region.body ++ closeTag region.name ++ rest)
        = some (region.body, rest) :=
      breakAt?_eq_some_iff.mpr ⟨rfl, hclosed⟩
    rw [region?_of_openTag? hopen, hbreak]
    rfl

/-- The reader `region?` gives nothing exactly where no admitted `openTag` stands that a `closeTag`
of its name follows. -/
theorem region?_eq_none_iff {pattern : Pattern} {text : Text} :
    region? pattern text = none ↔
      ∀ name after, pattern.admits name → text = openTag name ++ after →
        ∀ start, ¬ OccursAt (closeTag name) after start := by
  constructor
  · intro h name after hname htext
    subst htext
    have hopen : openTag? pattern (openTag name ++ after) = some (name, after) :=
      openTag?_eq_some_iff.mpr ⟨hname, rfl⟩
    rw [region?_of_openTag? hopen, Option.map_eq_none_iff] at h
    exact breakAt?_eq_none_iff.mp h
  · intro h
    refine Option.eq_none_iff_forall_ne_some.mpr fun pair hread => ?_
    obtain ⟨region, rest⟩ := pair
    obtain ⟨hname, -, rfl⟩ := region?_eq_some_iff.mp hread
    -- The close tag of a region stands behind its body.
    refine h region.name (region.body ++ closeTag region.name ++ rest) hname
      (by simp [Region.raw]) (byteLength region.body) ?_
    exact ⟨region.body, rest, rfl, rfl⟩

/-- The `raw` text of a region takes at least one byte. -/
theorem Region.byteLength_raw_pos (region : Region) : 0 < byteLength region.raw :=
  byteLength_pos (by simp [Region.raw, openTag, openMark])

/-- What follows the region that `region?` reads is shorter than the text. -/
theorem shortens_region? (pattern : Pattern) : Shortens (region? pattern) := by
  intro text rest region h
  rw [region?_eq_append h]
  simp [Region.raw, openTag, openMark]
  omega

/-- What `region?` reads begins with a brace. -/
theorem beginsWith_region? (pattern : Pattern) : BeginsWith '{' (region? pattern) := by
  intro c text hc
  refine region?_eq_none_iff.mpr fun name after _ htext => ?_
  exact absurd (List.cons.inj htext).1 hc

/-- Where `region?` gives `none` the search goes on at the next character. -/
theorem regions_of_none {pattern : Pattern} {c : Char} {text : Text}
    (h : region? pattern (c :: text) = none) :
    regions pattern (c :: text) = (regions pattern text).pushGap c :=
  split_of_none h

/-- Where `region?` gives a region the search goes on in the `rest` behind it. -/
theorem regions_of_some {pattern : Pattern} {text rest : Text} {region : Region}
    (h : region? pattern text = some (region, rest)) :
    regions pattern text = (regions pattern rest).pushPiece region :=
  split_of_some (shortens_region? pattern) h

/-- No `pieces` are found in a text at none of whose characters `region?` reads one. -/
theorem pieces_of_refuses {pattern : Pattern} {text : Text}
    (h : Refuses (region? pattern) text []) : (regions pattern text).pieces = [] := by
  have hsplit := split_append_of_refuses h
  have hfound := Split.found_pushText text (split (region? pattern) [])
  rw [← hsplit, List.append_nil, split_nil] at hfound
  exact List.map_eq_nil_iff.mp hfound

/-- A text without `pieces` is its own tail, and `replace` leaves it as it is. -/
theorem replace_of_pieces_eq_nil {pattern : Pattern} {text : Text}
    (h : (regions pattern text).pieces = []) (render : Region → Text) :
    replace pattern render text = text := by
  have hassemble := assemble_regions pattern text
  rw [Split.assemble, h] at hassemble
  rw [replace, Split.assemble, h]
  exact hassemble

/-- A character where `region?` gives `none` stays in `replace`. -/
theorem replace_of_none {pattern : Pattern} {c : Char} {text : Text}
    (h : region? pattern (c :: text) = none) (render : Region → Text) :
    replace pattern render (c :: text) = c :: replace pattern render text := by
  rw [replace, regions_of_none h, Split.assemble_pushGap]
  rfl

/-- A region that `region?` reads is rendered by `replace`, which goes on in the `rest`. -/
theorem replace_of_some {pattern : Pattern} {text rest : Text} {region : Region}
    (h : region? pattern text = some (region, rest)) (render : Region → Text) :
    replace pattern render text = render region ++ replace pattern render rest := by
  rw [replace, regions_of_some h, Split.assemble_pushPiece]
  rfl

/-- What holds of the empty text (`nil`), and is kept where the search passes over a character
(`skip`) and where it takes a region (`take`), holds of every text. -/
@[elab_as_elim]
theorem regions_induction (pattern : Pattern) {motive : Text → Prop} (nil : motive [])
    (skip : ∀ c text, region? pattern (c :: text) = none → motive text → motive (c :: text))
    (take : ∀ text rest region, region? pattern text = some (region, rest) →
      motive rest → motive text)
    (text : Text) : motive text :=
  walk_induction (shortens_region? pattern) nil skip take text

/-- The pattern `admits` the name of a region that is found, and its `raw` text stands in the
text. -/
theorem admits_of_mem_found {pattern : Pattern} {region : Region} {text : Text}
    (h : region ∈ (regions pattern text).found) :
    pattern.admits region.name ∧ region.raw <:+: text := by
  induction text using regions_induction pattern with
  | nil =>
    rw [regions, split_nil] at h
    cases h
  | skip c text hnone ih =>
    rw [regions_of_none hnone, Split.found_pushGap] at h
    obtain ⟨hname, hin⟩ := ih h
    exact ⟨hname, hin.trans (List.suffix_cons c text).isInfix⟩
  | take text rest first hsome ih =>
    obtain ⟨hfirst, -, rfl⟩ := region?_eq_some_iff.mp hsome
    rw [regions_of_some hsome, Split.found_pushPiece] at h
    rcases List.mem_cons.mp h with rfl | h
    · exact ⟨hfirst, (List.prefix_append _ _).isInfix⟩
    · obtain ⟨hname, hin⟩ := ih h
      exact ⟨hname, hin.trans (List.suffix_append _ _).isInfix⟩

end Stencil.Block
