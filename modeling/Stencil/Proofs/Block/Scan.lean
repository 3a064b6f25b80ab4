import Stencil.Proofs.Block.Region

/-!
# The search for regions

`places` finds the regions of a text from left to right. This file says which
list of places that is without saying how it is found. `LeftmostLazy` asks for
four things of a list of places: each is a region with an admitted name, no close
tag of that name begins within its body, the places follow one another without
overlapping, and an admitted open tag outside of all of them has no close tag of
its own name behind it. There is exactly one such list, and the search ends with
it on every text (`leftmostLazy_iff`): the reading position only moves forward,
and what is not taken is looked at character by character.

The list is unique because of its completeness: of two such lists take the
first place that is in only one of them. Its open tag is not covered by the
other list, which has the same places before it, so its close tag contradicts
the completeness of that list.
-/

namespace Stencil.Block

open Text

/-- The byte offset `start` lies within the place. -/
def Place.Covers (place : Place) (start : Nat) : Prop :=
  place.start ≤ start ∧ start < place.stop

/-- A region that the pattern admits `occurs` at the place, and between its two tags no `closeTag`
of its name begins (`lazy`). -/
structure Place.Fits (pattern : Pattern) (text : Text) (place : Place) : Prop where
  admitted : pattern.admits place.region.name
  occurs : OccursAt place.region.raw text place.start
  stop_eq : place.stop = place.start + byteLength place.region.raw
  lazy : ∀ start, place.start + byteLength (openTag place.region.name) ≤ start →
    start + byteLength (closeTag place.region.name) < place.stop →
    ¬ OccursAt (closeTag place.region.name) text start

/-- The `list` of the complete regions of a text: each of them `fits`, so that it is as short as it
can be, they are `ordered` from left to right without an overlap, and the list is `complete`, as an
open tag that no place `Covers` has no close tag behind it. -/
structure LeftmostLazy (pattern : Pattern) (text : Text) (list : List Place) : Prop where
  fits : ∀ place ∈ list, place.Fits pattern text
  ordered : list.Pairwise fun p q => p.stop ≤ q.start
  complete : ∀ name start, pattern.admits name → OccursAt (openTag name) text start →
    (∀ place ∈ list, ¬ place.Covers start) →
    ∀ close, start + byteLength (openTag name) ≤ close → ¬ OccursAt (closeTag name) text close

/-! ## Places that fit -/

/-- The bytes of a region's `raw` text are those of its two tags and its `body`. -/
theorem Region.byteLength_raw (region : Region) :
    byteLength region.raw = byteLength (openTag region.name) + byteLength region.body
      + byteLength (closeTag region.name) := by
  simp only [Region.raw, byteLength_append]

/-- A place `Fits` exactly if a `Closed` region with an admitted name stands there. -/
theorem fits_iff {pattern : Pattern} {text : Text} {place : Place} :
    place.Fits pattern text ↔
      pattern.admits place.region.name ∧ place.region.Closed ∧
        place.stop = place.start + byteLength place.region.raw ∧
        OccursAt place.region.raw text place.start := by
  obtain ⟨region, start, stop⟩ := place
  have hbytes := region.byteLength_raw
  constructor
  · intro h
    obtain ⟨hname, ⟨before, after, htext, hbefore⟩, hstop, hlazy⟩ := h
    dsimp only at hname htext hbefore hstop hlazy
    refine ⟨hname, ?_, hstop, before, after, htext, hbefore⟩
    refine (endsFirst_iff (before ++ openTag region.name) after).mpr fun pos hlow hhigh => ?_
    simp only [byteLength_append] at hlow hhigh
    have hnone := hlazy pos (by omega) (by omega)
    rw [htext] at hnone
    simpa [Region.raw] using hnone
  · intro h
    obtain ⟨hname, hclosed, hstop, before, after, htext, hbefore⟩ := h
    dsimp only at hname htext hbefore hstop hclosed
    refine ⟨hname, ⟨before, after, htext, hbefore⟩, hstop, fun pos hlow hhigh => ?_⟩
    dsimp only at hlow hhigh
    have hnone := (endsFirst_iff (before ++ openTag region.name) after).mp hclosed pos
      (by simp only [byteLength_append]; omega) (by simp only [byteLength_append]; omega)
    rw [htext]
    simpa [Region.raw] using hnone

/-- A place that `Fits` takes at least one byte. -/
theorem Place.Fits.start_lt_stop {pattern : Pattern} {text : Text} {place : Place}
    (h : place.Fits pattern text) : place.start < place.stop := by
  have hpos := place.region.byteLength_raw_pos
  have hstop := h.stop_eq
  omega

/-- At one offset `start` at most one place `Fits`. -/
theorem fits_unique {pattern : Pattern} {text : Text} {p q : Place}
    (hp : p.Fits pattern text) (hq : q.Fits pattern text) (hstart : p.start = q.start) :
    p = q := by
  obtain ⟨hpname, hpclosed, hpstop, before, after, htext, hbefore⟩ := fits_iff.mp hp
  obtain ⟨hqname, hqclosed, hqstop, before', after', htext', hbefore'⟩ := fits_iff.mp hq
  -- Both regions are read from the same rest of the text.
  have hfront : before ++ (p.region.raw ++ after) = before' ++ (q.region.raw ++ after') := by
    rw [← List.append_assoc, ← htext, htext', List.append_assoc]
  obtain ⟨-, hrest⟩ := eq_of_byteLength_eq hfront (by omega)
  have hread : region? pattern (p.region.raw ++ after) = some (p.region, after) :=
    region?_eq_some_iff.mpr ⟨hpname, hpclosed, rfl⟩
  rw [hrest, region?_eq_some_iff.mpr ⟨hqname, hqclosed, rfl⟩] at hread
  obtain ⟨hregion, -⟩ := Prod.mk.inj (Option.some.inj hread)
  obtain ⟨region, start, stop⟩ := p
  obtain ⟨region', start', stop'⟩ := q
  dsimp only at hregion hstart hpstop hqstop
  subst hregion hstart
  rw [hpstop, hqstop]

/-- The `openTag` of a place that `Fits` stands at its start, and a `closeTag` of its name behind
it. -/
theorem Place.Fits.tags {pattern : Pattern} {text : Text} {place : Place}
    (h : place.Fits pattern text) :
    OccursAt (openTag place.region.name) text place.start ∧
      ∃ close, place.start + byteLength (openTag place.region.name) ≤ close ∧
        OccursAt (closeTag place.region.name) text close := by
  obtain ⟨before, after, htext, hbefore⟩ := h.occurs
  refine ⟨⟨before, place.region.body ++ closeTag place.region.name ++ after, ?_, hbefore⟩,
    byteLength (before ++ openTag place.region.name ++ place.region.body), ?_,
    before ++ openTag place.region.name ++ place.region.body, after, ?_, rfl⟩
  · simp [htext, Region.raw]
  · simp only [byteLength_append]
    omega
  · simp [htext, Region.raw]

/-! ## Uniqueness -/

/-- Of two places in a `LeftmostLazy` list one comes before the other. -/
theorem LeftmostLazy.eq_or_before {pattern : Pattern} {text : Text} {list : List Place}
    (h : LeftmostLazy pattern text list) {p q : Place} (hp : p ∈ list) (hq : q ∈ list) :
    p = q ∨ p.stop ≤ q.start ∨ q.stop ≤ p.start := by
  let apart (p q : Place) : Prop := p = q ∨ p.stop ≤ q.start ∨ q.stop ≤ p.start
  have hself : ∀ p ∈ list, apart p p := fun p _ => Or.inl rfl
  have hforth : list.Pairwise apart := h.ordered.imp fun hle => Or.inr (Or.inl hle)
  have hback : list.Pairwise (flip apart) := h.ordered.imp fun hle => Or.inr (Or.inr hle)
  exact List.Pairwise.forall_of_forall_of_flip hself hforth hback hp hq

/-- A place in `xs` is in `ys` as well, if every place of `ys` that begins before it is in `xs`. -/
theorem LeftmostLazy.mem_of_mem {pattern : Pattern} {text : Text} {xs ys : List Place}
    (hx : LeftmostLazy pattern text xs) (hy : LeftmostLazy pattern text ys) {p : Place}
    (hp : p ∈ xs) (hbefore : ∀ q ∈ ys, q.start < p.start → q ∈ xs) : p ∈ ys := by
  have hfits := hx.fits p hp
  by_cases hcovered : ∃ q ∈ ys, q.Covers p.start
  · obtain ⟨q, hq, hlow, hhigh⟩ := hcovered
    rcases Nat.lt_or_ge q.start p.start with hlt | hge
    · -- Then `q` and `p` overlap in `xs`.
      have hsize := hfits.start_lt_stop
      rcases hx.eq_or_before hp (hbefore q hq hlt) with rfl | hle | hle
      · exact hq
      · omega
      · omega
    · -- Then they begin at the same byte.
      exact fits_unique hfits (hy.fits q hq) (by omega) ▸ hq
  · -- Then `ys` leaves out an open tag that has a close tag behind it.
    obtain ⟨hopen, close, hbehind, hclose⟩ := hfits.tags
    have hnone : ∀ q ∈ ys, ¬ q.Covers p.start := fun q hq hcovers => hcovered ⟨q, hq, hcovers⟩
    exact absurd hclose (hy.complete _ _ hfits.admitted hopen hnone close hbehind)

/-- Two `LeftmostLazy` lists have the same places before any `bound`. -/
theorem LeftmostLazy.mem_iff_of_start_lt {pattern : Pattern} {text : Text} {xs ys : List Place}
    (hx : LeftmostLazy pattern text xs) (hy : LeftmostLazy pattern text ys) :
    ∀ (bound : Nat) (p : Place), p.start < bound → (p ∈ xs ↔ p ∈ ys)
  | 0, _, hlt => absurd hlt (Nat.not_lt_zero _)
  | bound + 1, p, hlt => by
    have hearlier : ∀ q : Place, q.start < p.start → (q ∈ xs ↔ q ∈ ys) :=
      fun q hq => hx.mem_iff_of_start_lt hy bound q (by omega)
    constructor
    · exact fun hp => hx.mem_of_mem hy hp fun q hq hstart => (hearlier q hstart).mpr hq
    · exact fun hp => hy.mem_of_mem hx hp fun q hq hstart => (hearlier q hstart).mp hq

/-- The places of a `LeftmostLazy` list begin one behind the other. -/
theorem LeftmostLazy.pairwise_start_lt {pattern : Pattern} {text : Text} {list : List Place}
    (h : LeftmostLazy pattern text list) : list.Pairwise fun p q => p.start < q.start := by
  refine h.ordered.imp_of_mem fun {p q} hp _ hle => ?_
  have hsize := (h.fits p hp).start_lt_stop
  omega

/-- There is at most one `LeftmostLazy` list for a pattern and a text. -/
theorem LeftmostLazy.unique {pattern : Pattern} {text : Text} {xs ys : List Place}
    (hx : LeftmostLazy pattern text xs) (hy : LeftmostLazy pattern text ys) : xs = ys := by
  have hnodup : ∀ {list : List Place}, LeftmostLazy pattern text list → list.Nodup := by
    intro list h
    refine h.pairwise_start_lt.imp fun {p q} hlt heq => ?_
    rw [heq] at hlt
    exact Nat.lt_irrefl _ hlt
  have hperm : xs.Perm ys :=
    (List.perm_ext_iff_of_nodup (hnodup hx) (hnodup hy)).mpr fun p =>
      hx.mem_iff_of_start_lt hy (p.start + 1) p (Nat.lt_succ_self _)
  exact List.Perm.eq_of_pairwise (fun p q _ _ hlt hgt => absurd hlt (Nat.lt_asymm hgt))
    hx.pairwise_start_lt hy.pairwise_start_lt hperm

/-! ## What the search finds -/

/-- The `places` of a text whose first byte has the offset `start`. -/
def placesFrom (pattern : Pattern) (start : Nat) (text : Text) : List Place :=
  let width := fun region : Region => byteLength region.raw
  (Split.offsets width start (regions pattern text).pieces).map fun (start, region) =>
    ⟨region, start, start + width region⟩

/-- Where `region?` gives `none`, `placesFrom` goes on behind the character. -/
theorem placesFrom_of_none {pattern : Pattern} {c : Char} {text : Text}
    (h : region? pattern (c :: text) = none) (start : Nat) :
    placesFrom pattern start (c :: text) = placesFrom pattern (start + c.utf8Size) text := by
  rw [placesFrom, regions_of_none h, Split.offsets_pushGap]
  rfl

/-- Nothing is found in the empty text. -/
theorem placesFrom_nil (pattern : Pattern) (start : Nat) : placesFrom pattern start [] = [] := by
  rw [placesFrom, regions, split_nil]
  rfl

/-- Where `region?` `Refuses` a whole stretch, `placesFrom` goes on behind it. -/
theorem placesFrom_of_refuses {pattern : Pattern} {front rest : Text}
    (h : Refuses (region? pattern) front rest) (start : Nat) :
    placesFrom pattern start (front ++ rest)
      = placesFrom pattern (start + byteLength front) rest := by
  rw [placesFrom, regions, split_append_of_refuses h, Split.offsets_pushText]
  rfl

/-- Where `region?` gives a region, its place comes first in `placesFrom`, before those behind
it. -/
theorem placesFrom_of_some {pattern : Pattern} {text rest : Text} {region : Region}
    (h : region? pattern text = some (region, rest)) (start : Nat) :
    placesFrom pattern start text
      = ⟨region, start, start + byteLength region.raw⟩
        :: placesFrom pattern (start + byteLength region.raw) rest := by
  rw [placesFrom, regions_of_some h, Split.offsets_pushPiece]
  rfl

/-- No place of `placesFrom` is found before the text begins. -/
theorem le_start_of_mem_placesFrom {pattern : Pattern} {text : Text} {place : Place} :
    ∀ {start : Nat}, place ∈ placesFrom pattern start text → start ≤ place.start := by
  induction text using regions_induction pattern with
  | nil =>
    intro start h
    rw [placesFrom_nil] at h
    cases h
  | skip c text hnone ih =>
    intro start h
    rw [placesFrom_of_none hnone] at h
    have hle := ih h
    omega
  | take text rest region hsome ih =>
    intro start h
    rw [placesFrom_of_some hsome] at h
    rcases List.mem_cons.mp h with rfl | h
    · exact Nat.le_refl _
    · have hle := ih h
      omega

/-- What `placesFrom` finds behind a `front` of the text `Fits` where it is found. -/
theorem fits_of_mem_placesFrom {pattern : Pattern} {text : Text} {place : Place} :
    ∀ front : Text, place ∈ placesFrom pattern (byteLength front) text →
      place.Fits pattern (front ++ text) := by
  induction text using regions_induction pattern with
  | nil =>
    intro front h
    rw [placesFrom_nil] at h
    cases h
  | skip c text hnone ih =>
    intro front h
    rw [placesFrom_of_none hnone, ← byteLength_append_singleton] at h
    simpa using ih (front ++ [c]) h
  | take text rest region hsome ih =>
    intro front h
    obtain ⟨hname, hclosed, rfl⟩ := region?_eq_some_iff.mp hsome
    rw [placesFrom_of_some hsome, ← byteLength_append] at h
    rcases List.mem_cons.mp h with rfl | h
    · refine fits_iff.mpr ⟨hname, hclosed, byteLength_append front region.raw, ?_⟩
      exact ⟨front, rest, by simp, rfl⟩
    · simpa using ih (front ++ region.raw) h

/-- What `placesFrom` finds lies one behind the other. -/
theorem pairwise_placesFrom (pattern : Pattern) (text : Text) :
    ∀ start, (placesFrom pattern start text).Pairwise fun p q => p.stop ≤ q.start := by
  induction text using regions_induction pattern with
  | nil =>
    intro start
    rw [placesFrom_nil]
    exact List.Pairwise.nil
  | skip c text hnone ih =>
    intro start
    rw [placesFrom_of_none hnone]
    exact ih _
  | take text rest region hsome ih =>
    intro start
    rw [placesFrom_of_some hsome]
    exact List.pairwise_cons.mpr ⟨fun place h => le_start_of_mem_placesFrom h, ih _⟩

/-- An admitted `openTag` that `placesFrom` leaves uncovered has no `closeTag` of its name behind
it. -/
theorem placesFrom_complete {pattern : Pattern} {text name : Text} (hname : pattern.admits name) :
    ∀ (front : Text) {start : Nat}, byteLength front ≤ start →
      OccursAt (openTag name) (front ++ text) start →
      (∀ place ∈ placesFrom pattern (byteLength front) text, ¬ place.Covers start) →
      ∀ close, start + byteLength (openTag name) ≤ close →
        ¬ OccursAt (closeTag name) (front ++ text) close := by
  induction text using regions_induction pattern with
  | nil =>
    intro front start hstart hopen
    have hle := le_byteLength_of_occursAt hopen
    have hpos : 0 < byteLength (openTag name) := byteLength_pos (by simp [openTag, openMark])
    rw [List.append_nil] at hle
    omega
  | skip c text hnone ih =>
    intro front start hstart hopen hcovers close hclose
    obtain ⟨later, rfl⟩ := Nat.exists_eq_add_of_le hstart
    rcases occursAt_cons ((occursAt_append_iff front).mp hopen) with rfl | ⟨next, rfl, -⟩
    · -- The open tag stands right here, and no region was read.
      obtain ⟨after, hafter⟩ := occursAt_zero_iff.mp ((occursAt_append_iff front).mp hopen)
      obtain ⟨behind, rfl⟩ := Nat.exists_eq_add_of_le hclose
      have hfront : byteLength front + 0 + byteLength (openTag name)
          = byteLength (front ++ openTag name) := by rw [byteLength_append, Nat.add_zero]
      rw [hafter, ← List.append_assoc, hfront, occursAt_append_iff]
      exact region?_eq_none_iff.mp hnone name after hname hafter behind
    · -- The open tag stands behind the character.
      have hfront := byteLength_append_singleton front c
      have htext : front ++ c :: text = (front ++ [c]) ++ text := by simp
      rw [placesFrom_of_none hnone, ← hfront] at hcovers
      rw [htext] at hopen ⊢
      exact ih (front ++ [c]) (by omega) hopen hcovers close hclose
  | take text rest region hsome ih =>
    intro front start hstart hopen hcovers close hclose
    obtain ⟨-, -, rfl⟩ := region?_eq_some_iff.mp hsome
    rw [placesFrom_of_some hsome, ← byteLength_append] at hcovers
    obtain ⟨hfirst, hrest⟩ := List.forall_mem_cons.mp hcovers
    rw [← List.append_assoc] at hopen ⊢
    -- The first place does not cover the tag, which therefore stands behind it.
    have hbehind : byteLength (front ++ region.raw) ≤ start :=
      Nat.le_of_not_lt fun hlt => hfirst ⟨hstart, hlt⟩
    exact ih (front ++ region.raw) hbehind hopen hrest close hclose

/-- The search `places` finds a `LeftmostLazy` list. -/
theorem leftmostLazy_places (pattern : Pattern) (text : Text) :
    LeftmostLazy pattern text (places pattern text) where
  fits _ h := fits_of_mem_placesFrom [] h
  ordered := pairwise_placesFrom pattern text 0
  complete _ start hname hopen hcovers :=
    placesFrom_complete hname [] (Nat.zero_le start) hopen hcovers

/-- **The search for regions is leftmost, lazy and complete**, for every `tag` and every `text`. A
`list` of places is `LeftmostLazy`, that is, its places are regions of the tag, end at their first
close tag, do not overlap, and leave out no open tag that has a close tag of its name behind it,
exactly if it is the one that `places` ends with. -/
theorem leftmostLazy_iff (tag text : Text) (list : List Place) :
    LeftmostLazy (Pattern.ofTag tag) text list ↔ list = places (Pattern.ofTag tag) text := by
  constructor
  · intro h
    exact h.unique (leftmostLazy_places _ text)
  · intro h
    rw [h]
    exact leftmostLazy_places _ text

end Stencil.Block
