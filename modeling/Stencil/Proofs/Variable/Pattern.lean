import Stencil.Variable.Pattern
import Stencil.Proofs.Variable.Form

/-!
# What is found by the pattern of a tag

The pattern of a tag is read back as the characters of the tag, whatever there is in the
prefix and in the name (`characters?_tagPattern`). So what is found are texts between
braces that are equal to the prefix and the name but for case, character by character,
however many bytes they take.

A text is cut at its tags from the left (`CutAtTags`): every tag of the text begins in a
piece of the cut. That leaves one way to cut it, and the replacement stands where the
pieces were (`replacePrefixed_eq_assemble`). Two tags that overlap have an opening brace
in the one and a closing brace in the other (`braces_of_overlap`), so without one of the
two braces in the prefix and the name all tags are apart, and the pieces are all of them
(`mem_tagPlaces_iff`). The prefixes of the forms have no brace.

Theorems:
- `replacesTags`: what replacing the tags of a prefix and a name comes to.
- `replacesTags_kelvin`: at a name with a full stop, two characters outside ASCII in a
  tag, and a replacement that has the tag in itself.
-/

namespace Stencil

/-! ## Reading patterns -/

namespace Pattern

/-- For `characters?` a character that is not `special` stands for itself. -/
theorem characters?_cons_of_plain {c : Char} (h : special.contains c = false) (rest : Text) :
    characters? (c :: rest) = (characters? rest).map (c :: ·) := by
  have hslash : c ≠ '\\' := by
    intro heq
    rw [heq] at h
    exact absurd h (by decide)
  rw [characters?]
  · rw [h]
    rfl
  · exact fun _ _ heq => absurd heq hslash

/-- For `characters?` what `escape` makes of a text stands for that text. -/
theorem characters?_escape (text : Text) : characters? (escape text) = some text := by
  induction text with
  | nil => rfl
  | cons c text ih =>
    have hcons : escape (c :: text)
        = (if special.contains c then ['\\', c] else [c]) ++ escape text := rfl
    rw [hcons]
    split
    next hspecial =>
      show characters? ('\\' :: c :: escape text) = _
      rw [characters?, if_pos hspecial, ih]
      rfl
    next hplain =>
      show characters? (c :: escape text) = _
      rw [characters?_cons_of_plain (Bool.eq_false_iff.mpr hplain), ih]
      rfl

end Pattern

namespace Variable

open Text Unicode

/-- The `tagPattern` stands for the tag of the prefix and the name. -/
theorem characters?_tagPattern (mark name : Text) :
    (stripPrefix? Pattern.caseMark (tagPattern mark name)).bind Pattern.characters?
      = some (tag (mark ++ name)) := by
  have hpattern : tagPattern mark name
      = Pattern.caseMark ++ Pattern.escape (tag (mark ++ name)) := by
    simp [tagPattern, tag, Pattern.escape, Pattern.special]
  rw [stripPrefix?_eq_some_iff.mpr hpattern]
  exact Pattern.characters?_escape _

/-! ## Finding tags -/

/-- A tag stands in the text at the byte offset `start`, and what it has `inside` is equal to `w`
but for case. -/
def TagAt (w text inside : Text) (start : Nat) : Prop :=
  inside.map fold = w.map fold ∧ OccursAt (tag inside) text start

/-- The reader of the tags whose inside is equal to `w` but for case. -/
def readFolded? (w text : Text) : Option (Unit × Text) :=
  (stripFolded? (tag w) text).map fun rest => ((), rest)

variable {w text : Text}

/-- By `replacePrefixed` the tags of a prefix and a name are replaced where `readFolded?` reads
them. -/
theorem replacePrefixed_eq (mark name replacement text : Text) :
    replacePrefixed mark name replacement text
      = (split (readFolded? (mark ++ name)) text).assemble fun _ => replacement := by
  rw [replacePrefixed, characters?_tagPattern]
  rfl

/-- What is equal to a `tag` after `fold` is one with braces around an `inside` that is equal so. -/
theorem map_fold_eq_tag_iff {front : Text} :
    front.map fold = (tag w).map fold ↔
      ∃ inside, inside.map fold = w.map fold ∧ front = tag inside := by
  constructor
  · intro h
    have hshape : front.map fold = fold '{' :: (w.map fold ++ [fold '}']) := by
      rw [h]
      simp [tag]
    obtain ⟨c, behind, rfl, hopen, hbehind⟩ := List.map_eq_cons_iff.mp hshape
    obtain ⟨inside, last, rfl, hinside, hlast⟩ := List.map_eq_append_iff.mp hbehind
    obtain ⟨d, rfl, hclose⟩ := List.map_eq_singleton_iff.mp hlast
    rw [(fold_eq_iff uncased_openBrace).mpr rfl, fold_eq_iff uncased_openBrace] at hopen
    rw [(fold_eq_iff uncased_closeBrace).mpr rfl, fold_eq_iff uncased_closeBrace] at hclose
    exact ⟨inside, hinside, by rw [hopen, hclose]; rfl⟩
  · intro h
    obtain ⟨inside, hinside, rfl⟩ := h
    simp [tag, hinside]

/-- By `readFolded?` a tag is read exactly where one stands at the front. -/
theorem readFolded?_eq_some_iff {rest : Text} :
    readFolded? w text = some ((), rest) ↔
      ∃ inside, inside.map fold = w.map fold ∧ text = tag inside ++ rest := by
  have hstrip : readFolded? w text = some ((), rest) ↔ stripFolded? (tag w) text = some rest := by
    simp [readFolded?]
  rw [hstrip, stripFolded?_eq_some_iff]
  constructor
  · intro h
    obtain ⟨front, hfront, htext⟩ := h
    obtain ⟨inside, hinside, rfl⟩ := map_fold_eq_tag_iff.mp hfront
    exact ⟨inside, hinside, htext⟩
  · intro h
    obtain ⟨inside, hinside, htext⟩ := h
    exact ⟨tag inside, map_fold_eq_tag_iff.mpr ⟨inside, hinside, rfl⟩, htext⟩

/-- By `readFolded?` no tag is read exactly where there is no `TagAt` the front. -/
theorem readFolded?_eq_none_iff :
    readFolded? w text = none ↔ ∀ inside, ¬ TagAt w text inside 0 := by
  rw [Option.eq_none_iff_forall_ne_some]
  constructor
  · intro h inside htag
    obtain ⟨rest, hrest⟩ := occursAt_zero_iff.mp htag.2
    exact h ((), rest) (readFolded?_eq_some_iff.mpr ⟨inside, htag.1, hrest⟩)
  · intro h found hread
    obtain ⟨inside, hinside, hrest⟩ := readFolded?_eq_some_iff.mp hread
    exact h inside ⟨hinside, occursAt_zero_iff.mpr ⟨found.2, hrest⟩⟩

/-- What follows the tag that `readFolded?` reads is shorter than what it is read from. -/
theorem shortens_readFolded? (w : Text) : Shortens (readFolded? w) := by
  intro text rest _ h
  obtain ⟨inside, -, rfl⟩ := readFolded?_eq_some_iff.mp h
  simp [tag]
  omega

/-- A `TagAt` a place behind a `front` is one of the `rest`. -/
theorem tagAt_append_iff {inside rest : Text} {start : Nat} (front : Text) :
    TagAt w (front ++ rest) inside (byteLength front + start) ↔ TagAt w rest inside start :=
  and_congr_right fun _ => occursAt_append_iff front

/-! ## Cutting a text at its tags -/

/-- The pieces of a cut at tags, with the byte offsets at which these tags begin. -/
def tagPlaces (s : Split Text) : List (Nat × Text) :=
  Split.offsets (fun inside => byteLength (tag inside)) 0 s.pieces

/-- The text is cut at tags whose insides are equal to `w` but for case (`named`), and every such
tag of the text begins in one of those at which it is cut (`leftmost`). -/
structure CutAtTags (w text : Text) (s : Split Text) : Prop where
  whole : s.assemble tag = text
  named : ∀ inside ∈ s.found, inside.map fold = w.map fold
  leftmost : ∀ inside start, TagAt w text inside start →
    ∃ p a, (p, a) ∈ tagPlaces s ∧ p ≤ start ∧ start < p + byteLength (tag a)

namespace CutAtTags

variable {s : Split Text}

/-- In the empty text there is no tag to cut it at. -/
theorem nil (w : Text) : CutAtTags w [] ⟨[], []⟩ where
  whole := rfl
  named _ h := absurd h List.not_mem_nil
  leftmost inside start h := by
    have hpos : 0 < byteLength (tag inside) := byteLength_pos (by simp [tag])
    have hbytes : start + byteLength (tag inside) ≤ 0 := le_byteLength_of_occursAt h.2
    omega

/-- A character at which `readFolded?` reads no tag goes in front of the first gap. -/
theorem pushGap (h : CutAtTags w text s) {c : Char} (hnone : readFolded? w (c :: text) = none) :
    CutAtTags w (c :: text) (s.pushGap c) where
  whole := by rw [Split.assemble_pushGap, h.whole]
  named := by
    rw [Split.found_pushGap]
    exact h.named
  leftmost inside start htag := by
    rcases occursAt_cons htag.2 with rfl | ⟨later, rfl, hlater⟩
    · exact absurd htag (readFolded?_eq_none_iff.mp hnone inside)
    · obtain ⟨p, a, hplace, hle, hlt⟩ := h.leftmost inside later ⟨htag.1, hlater⟩
      refine ⟨c.utf8Size + p, a, ?_, Nat.add_le_add_left hle _, ?_⟩
      · rw [tagPlaces, Split.offsets_pushGap, Split.mem_offsets_iff]
        exact ⟨p, by rw [Nat.zero_add], hplace⟩
      · rw [Nat.add_assoc]
        exact Nat.add_lt_add_left hlt _

/-- A tag at the front is one at which the text is cut: `pushPiece` puts it there. -/
theorem pushPiece (h : CutAtTags w text s) {inside : Text}
    (hinside : inside.map fold = w.map fold) :
    CutAtTags w (tag inside ++ text) (s.pushPiece inside) where
  whole := by rw [Split.assemble_pushPiece, h.whole]
  named := List.forall_mem_cons.mpr ⟨hinside, h.named⟩
  leftmost other start htag := by
    rw [tagPlaces, Split.offsets_pushPiece, Nat.zero_add]
    by_cases hfirst : start < byteLength (tag inside)
    · exact ⟨0, inside, List.mem_cons_self, Nat.zero_le _, by rwa [Nat.zero_add]⟩
    · obtain ⟨later, rfl⟩ := Nat.exists_eq_add_of_le (Nat.le_of_not_lt hfirst)
      obtain ⟨p, a, hplace, hle, hlt⟩ := h.leftmost other later ((tagAt_append_iff _).mp htag)
      refine ⟨byteLength (tag inside) + p, a, ?_, Nat.add_le_add_left hle _, ?_⟩
      · exact List.mem_cons_of_mem _ (Split.mem_offsets_iff.mpr ⟨p, rfl, hplace⟩)
      · rw [Nat.add_assoc]
        exact Nat.add_lt_add_left hlt _

/-- Before the first of the `tagPlaces` of a cut no tag is read. -/
theorem refuses_front (h : CutAtTags w text s) {front rest : Text} (htext : text = front ++ rest)
    (hplaces : ∀ p a, (p, a) ∈ tagPlaces s → byteLength front ≤ p) :
    Refuses (readFolded? w) front rest := by
  refine refuses_of_forall fun before c part hfront => ?_
  refine readFolded?_eq_none_iff.mpr fun inside htag => ?_
  have hwhole : TagAt w text inside (byteLength before + 0) := by
    rw [htext, hfront, List.append_assoc]
    exact (tagAt_append_iff before).mpr htag
  obtain ⟨p, a, hplace, hle, -⟩ := h.leftmost inside _ hwhole
  have hbytes : byteLength front = byteLength before + (c.utf8Size + byteLength part) := by
    rw [hfront, byteLength_append]
    rfl
  have hpos := Char.utf8Size_pos c
  have hfirst := hplaces p a hplace
  omega

section First

variable {gap inside tail : Text} {pieces : List (Text × Text)}

/-- The first of the `tagPlaces` is where the first tag begins, and the others lie behind that
tag. -/
theorem mem_tagPlaces_cons {p : Nat} {a : Text}
    (h : (p, a) ∈ tagPlaces ⟨(gap, inside) :: pieces, tail⟩) :
    p = byteLength gap ∧ a = inside ∨
      ∃ later, p = byteLength gap + byteLength (tag inside) + later ∧
        (later, a) ∈ tagPlaces ⟨pieces, tail⟩ := by
  rw [tagPlaces, Split.offsets, Nat.zero_add] at h
  rcases List.mem_cons.mp h with hfirst | hlater
  · exact Or.inl (Prod.mk.inj hfirst)
  · exact Or.inr (Split.mem_offsets_iff.mp hlater)

/-- A text that is cut begins with the first `gap` and the first tag. -/
theorem whole_cons (h : CutAtTags w text ⟨(gap, inside) :: pieces, tail⟩) :
    text = gap ++ (tag inside ++ (⟨pieces, tail⟩ : Split Text).assemble tag) := by
  rw [← h.whole]
  simp [Split.assemble]

/-- In the first `gap` of a cut no tag is read. -/
theorem refuses_gap (h : CutAtTags w text ⟨(gap, inside) :: pieces, tail⟩) :
    Refuses (readFolded? w) gap (tag inside ++ (⟨pieces, tail⟩ : Split Text).assemble tag) := by
  refine h.refuses_front h.whole_cons fun p a hplace => ?_
  rcases mem_tagPlaces_cons hplace with ⟨rfl, -⟩ | ⟨later, rfl, -⟩
  · exact Nat.le_refl _
  · omega

/-- Behind its first tag a text is cut at the others. -/
theorem behind (h : CutAtTags w text ⟨(gap, inside) :: pieces, tail⟩) :
    CutAtTags w ((⟨pieces, tail⟩ : Split Text).assemble tag) ⟨pieces, tail⟩ where
  whole := rfl
  named := (List.forall_mem_cons.mp h.named).2
  leftmost other start htag := by
    have hwhole : TagAt w text other (byteLength gap + (byteLength (tag inside) + start)) := by
      rw [h.whole_cons]
      exact (tagAt_append_iff gap).mpr ((tagAt_append_iff (tag inside)).mpr htag)
    obtain ⟨p, a, hplace, hle, hlt⟩ := h.leftmost other _ hwhole
    rcases mem_tagPlaces_cons hplace with ⟨rfl, rfl⟩ | ⟨later, rfl, hlater⟩
    · omega
    · exact ⟨later, a, hlater, by omega, by omega⟩

end First

end CutAtTags

/-- Every text can be cut at its tags, by some `CutAtTags`. -/
theorem exists_cutAtTags (w text : Text) : ∃ s, CutAtTags w text s := by
  induction text using walk_induction (shortens_readFolded? w) with
  | nil => exact ⟨_, .nil w⟩
  | skip c text hnone ih =>
    obtain ⟨s, hs⟩ := ih
    exact ⟨_, hs.pushGap hnone⟩
  | take text rest _ hread ih =>
    obtain ⟨s, hs⟩ := ih
    obtain ⟨inside, hinside, rfl⟩ := readFolded?_eq_some_iff.mp hread
    exact ⟨_, hs.pushPiece hinside⟩

/-- **The replacement stands in the place of the tags at which a text is cut, and all else stays**:
for every cut `CutAtTags`, `replacePrefixed` is `assemble` with the `replacement`. -/
theorem replacePrefixed_eq_assemble {mark name : Text} (replacement : Text) :
    ∀ {text : Text} {s : Split Text}, CutAtTags (mark ++ name) text s →
      replacePrefixed mark name replacement text = s.assemble fun _ => replacement
  | text, ⟨[], tail⟩, h => by
    obtain rfl : tail = text := h.whole
    have hrefuses : Refuses (readFolded? (mark ++ name)) tail [] :=
      h.refuses_front (List.append_nil tail).symm fun _ _ hplace => absurd hplace List.not_mem_nil
    have hsplit := split_append_of_refuses hrefuses
    rw [List.append_nil, split_nil, Split.pushText_tail, List.append_nil] at hsplit
    rw [replacePrefixed_eq, hsplit]
    rfl
  | text, ⟨(gap, inside) :: pieces, tail⟩, h => by
    have hinside : inside.map fold = (mark ++ name).map fold := h.named inside List.mem_cons_self
    have hread : ∀ rest, readFolded? (mark ++ name) (tag inside ++ rest) = some ((), rest) :=
      fun rest => readFolded?_eq_some_iff.mpr ⟨inside, hinside, rfl⟩
    have ih := replacePrefixed_eq_assemble replacement h.behind
    rw [replacePrefixed_eq] at ih
    rw [replacePrefixed_eq, h.whole_cons, split_append_of_refuses h.refuses_gap,
      split_of_some (shortens_readFolded? _) (hread _), Split.assemble_pushText,
      Split.assemble_pushPiece, ih]
    simp [Split.assemble]

/-! ## Tags that overlap -/

/-- One of the two braces is not in the `text`. -/
def LacksBrace (text : Text) : Prop :=
  '{' ∉ text ∨ '}' ∉ text

instance (text : Text) : Decidable (LacksBrace text) :=
  inferInstanceAs (Decidable (_ ∨ _))

/-- Of two tags of one length that overlap, the first, of `a`, has an opening brace inside, and the
second, of `b`, a closing one. -/
theorem braces_of_overlap {a b front after after' : Text} (hlength : a.length = b.length)
    (hfront : front ≠ []) (htext : front ++ (tag b ++ after') = tag a ++ after)
    (hshort : byteLength front < byteLength (tag a)) : '{' ∈ a ∧ '}' ∈ b := by
  -- The first tag is `front` and a stretch `common` with which the second one begins.
  obtain ⟨common, hfirst, hsecond⟩ := prefix_of_byteLength_le htext (Nat.le_of_lt hshort)
  have hbytes := congrArg byteLength hfirst
  rw [byteLength_append] at hbytes
  obtain ⟨c, front, rfl⟩ := List.exists_cons_of_ne_nil hfront
  cases common with
  | nil =>
    rw [byteLength] at hbytes
    omega
  | cons d common =>
    obtain ⟨rfl, hbehind⟩ := List.cons.inj hsecond
    have hinside : a ++ ['}'] = front ++ '{' :: common := (List.cons.inj hfirst).2
    rcases List.eq_nil_or_concat common with rfl | ⟨overlap, last, rfl⟩
    · exact absurd (List.append_inj' hinside rfl).2 (by decide)
    · rw [List.concat_eq_append, ← List.cons_append, ← List.append_assoc] at hinside
      obtain ⟨rfl, hlast⟩ := List.append_inj' hinside rfl
      obtain rfl : '}' = last := List.singleton_inj.mp hlast
      -- The closing brace of the first tag lies inside the second one, which is as long.
      have hclose : b ++ '}' :: after' = overlap ++ '}' :: after := by simpa using hbehind
      have hshorter : overlap.length < b.length := by
        rw [← hlength]
        simp only [List.length_append, List.length_cons]
        omega
      have hbrace : (b ++ '}' :: after')[overlap.length]? = some '}' := by
        rw [hclose]
        simp
      rw [List.getElem?_append_left hshorter] at hbrace
      exact ⟨by simp, List.mem_of_getElem? hbrace⟩

/-- The insides of all tags that are `TagAt` some place for one `w` have one length. -/
theorem TagAt.length_eq {a : Text} {i : Nat} (h : TagAt w text a i) : a.length = w.length := by
  simpa using congrArg List.length h.1

/-- **Without one of the braces inside, no tag begins before another one has ended**: where `w`
`LacksBrace`, tags do not overlap. -/
theorem TagAt.apart (hw : LacksBrace w) {a b : Text} {i j : Nat} (ha : TagAt w text a i)
    (hb : TagAt w text b j) (h : i < j) : i + byteLength (tag a) ≤ j := by
  refine Decidable.byContradiction fun hoverlap => ?_
  have hlength : a.length = b.length := ha.length_eq.trans hb.length_eq.symm
  obtain ⟨before, after, hfirst, rfl⟩ := ha.2
  obtain ⟨before', after', hsecond, rfl⟩ := hb.2
  rw [hfirst, List.append_assoc, List.append_assoc] at hsecond
  obtain ⟨front, rfl, htext⟩ := prefix_of_byteLength_le hsecond (Nat.le_of_lt h)
  rw [byteLength_append] at h hoverlap
  have hfront : front ≠ [] := by
    intro hnil
    rw [hnil, byteLength] at h
    omega
  obtain ⟨hopen, hclose⟩ := braces_of_overlap hlength hfront htext.symm (by omega)
  rcases hw with hw | hw
  · exact hw ((mem_iff_of_fold_eq uncased_openBrace ha.1).mp hopen)
  · exact hw ((mem_iff_of_fold_eq uncased_closeBrace hb.1).mp hclose)

/-- With both braces inside, tags can overlap. -/
example : TagAt ['}', '{'] ['{', '}', '{', '}', '{', '}'] ['}', '{'] 0 ∧
    TagAt ['}', '{'] ['{', '}', '{', '}', '{', '}'] ['}', '{'] 2 ∧
    2 < byteLength (tag ['}', '{']) :=
  ⟨⟨rfl, [], ['{', '}'], rfl, rfl⟩, ⟨rfl, ['{', '}'], [], rfl, rfl⟩, by decide⟩

/-- At one place there is at most one `TagAt`. -/
theorem TagAt.inside_eq {a b : Text} {i : Nat} (ha : TagAt w text a i) (hb : TagAt w text b i) :
    a = b := by
  have hlength : (tag a).length = (tag b).length := by
    simp [tag, ha.length_eq, hb.length_eq]
  obtain ⟨before, after, hfirst, rfl⟩ := ha.2
  obtain ⟨before', after', hsecond, hplace⟩ := hb.2
  rw [hfirst, List.append_assoc, List.append_assoc] at hsecond
  obtain ⟨-, htext⟩ := eq_of_byteLength_eq hsecond hplace.symm
  have htag : ['{'] ++ a ++ ['}'] = ['{'] ++ b ++ ['}'] := (List.append_inj htext hlength).1
  exact List.append_cancel_left (List.append_cancel_right htag)

/-- **Without one of the braces inside, a text is cut at all its tags**: `tagPlaces` are the places
of `TagAt`. -/
theorem mem_tagPlaces_iff (hw : LacksBrace w) {s : Split Text} (h : CutAtTags w text s)
    {start : Nat} {inside : Text} :
    (start, inside) ∈ tagPlaces s ↔ TagAt w text inside start := by
  have hplace : ∀ {p : Nat} {a : Text}, (p, a) ∈ tagPlaces s → TagAt w text a p := by
    intro p a hmem
    obtain ⟨ha, hoccurs⟩ := Split.occursAt_of_mem_offsets s.tail hmem
    rw [show (⟨s.pieces, s.tail⟩ : Split Text) = s from rfl, h.whole] at hoccurs
    exact ⟨h.named a ha, hoccurs⟩
  constructor
  · exact hplace
  · intro htag
    obtain ⟨p, a, hmem, hle, hlt⟩ := h.leftmost inside start htag
    rcases Nat.lt_or_eq_of_le hle with hbefore | rfl
    · have hapart := (hplace hmem).apart hw htag hbefore
      omega
    · rwa [htag.inside_eq (hplace hmem)]

/-! ## Replacing -/

/-- To be `CutAtTags` does not regard case. -/
theorem CutAtTags.congr {w' : Text} {s : Split Text} (hfold : w.map fold = w'.map fold)
    (h : CutAtTags w text s) : CutAtTags w' text s where
  whole := h.whole
  named inside hinside := (h.named inside hinside).trans hfold
  leftmost inside start htag := h.leftmost inside start ⟨htag.1.trans hfold.symm, htag.2⟩

/-- The tags of a form with a prefix are read by `readFolded?` as the tags of that prefix. -/
theorem readTag?_eq_readFolded? {form : Form} (hform : form ∈ Form.prefixed) (name : Text) :
    readTag? form name = readFolded? (form.mark ++ name) := by
  have hnames : ∀ inside, form.Names name inside ↔
      inside.map fold = (form.mark ++ name).map fold := by
    intro inside
    cases form with
    | bare => exact absurd hform (by decide)
    | plaintext | js | jsPlaintext | urlEncoded => exact Iff.rfl
  funext text
  refine Option.ext fun found => ?_
  obtain ⟨⟨⟩, rest⟩ := found
  have hread : readTag? form name text = some ((), rest) ↔
      stripTag? form name text = some rest := by
    simp [readTag?]
  simp only [hread, stripTag?_eq_some_iff, readFolded?_eq_some_iff, hnames]

/-- What `replacePrefixed` makes of the tags of a prefix and a name in a text. -/
structure ReplacesTags (mark name text : Text) : Prop where
  /-- The text can be cut at the tags, by some `CutAtTags`. -/
  cut : ∃ s, CutAtTags (mark ++ name) text s
  /-- However it is cut at them, the `replacement` stands in their place as it is, and what lies
  between them stays. -/
  result : ∀ s, CutAtTags (mark ++ name) text s → ∀ replacement,
    replacePrefixed mark name replacement text = s.assemble fun _ => replacement
  /-- If the prefix `LacksBrace` no two tags overlap. -/
  apart : LacksBrace mark → ∀ a b i j, TagAt (mark ++ name) text a i →
    TagAt (mark ++ name) text b j → i < j → i + byteLength (tag a) ≤ j
  /-- If the prefix `LacksBrace` the text is cut at all the tags. -/
  all : LacksBrace mark → ∀ s, CutAtTags (mark ++ name) text s → ∀ start inside,
    (start, inside) ∈ tagPlaces s ↔ TagAt (mark ++ name) text inside start
  /-- A name that is equal but for case gives the same. -/
  same : ∀ other, other.map fold = name.map fold → ∀ replacement,
    replacePrefixed mark other replacement text = replacePrefixed mark name replacement text
  /-- The prefixes of the forms have no brace, and their tags are filled in in this way. -/
  forms : ∀ form ∈ Form.prefixed, form.mark = mark → LacksBrace mark ∧
    ∀ value, fillForm form name value text = replacePrefixed mark name (form.encode value) text

/-- **The tags of a prefix and a name are replaced where they stand in the text**: `ReplacesTags`
holds whatever there is in the prefix `mark`, in the text and in the replacement, for every `name`
without braces. So the text can be cut at the tags, each of them gives way to the replacement as it
is, and neither letters with a meaning in patterns nor case make a difference. -/
theorem replacesTags (mark text : Text) {name : Text} (hname : BraceFree name) :
    ReplacesTags mark name text := by
  have hlacks : LacksBrace mark → LacksBrace (mark ++ name) := by
    intro hmark
    rcases hmark with hopen | hclose
    · exact Or.inl (List.not_mem_append hopen hname.1)
    · exact Or.inr (List.not_mem_append hclose hname.2)
  refine ⟨exists_cutAtTags _ text, fun s hs replacement => ?_, fun hmark a b i j ha hb => ?_,
    fun hmark s hs start inside => ?_, fun other hother replacement => ?_,
    fun form hform hmark => ⟨?_, fun value => ?_⟩⟩
  · exact replacePrefixed_eq_assemble replacement hs
  · exact ha.apart (hlacks hmark) hb
  · exact mem_tagPlaces_iff (hlacks hmark) hs
  · obtain ⟨s, hs⟩ := exists_cutAtTags (mark ++ name) text
    have hfold : (mark ++ name).map fold = (mark ++ other).map fold := by
      rw [List.map_append, List.map_append, hother]
    rw [replacePrefixed_eq_assemble replacement hs,
      replacePrefixed_eq_assemble replacement (hs.congr hfold)]
  · have hall : ∀ form ∈ Form.prefixed, LacksBrace form.mark := by decide
    exact hmark ▸ hall form hform
  · subst hmark
    rw [fillForm_eq, replacePrefixed_eq, readTag?_eq_readFolded? hform]

/-- A full stop in the name is one in the tag, the long s and the Kelvin sign are found as
the letters that they fold to, and the replacement is not looked into. -/
theorem replacesTags_kelvin :
    BraceFree ['k', '.', 's'] ∧
      ReplacesTags ['J', 'S'] ['k', '.', 's']
        (tag ['j', longS, kelvinSign, '.', 'S'] ++ tag ['J', 'S', 'k', 'x', 's']) ∧
      replacePrefixed ['J', 'S'] ['k', '.', 's'] (['$', '1'] ++ tag ['J', 'S', 'k', '.', 's'])
        (tag ['j', longS, kelvinSign, '.', 'S'] ++ tag ['J', 'S', 'k', 'x', 's'])
          = ['$', '1'] ++ tag ['J', 'S', 'k', '.', 's'] ++ tag ['J', 'S', 'k', 'x', 's'] := by
  have hname : BraceFree ['k', '.', 's'] := by decide
  refine ⟨hname, replacesTags ['J', 'S'] _ hname, ?_⟩
  decide +kernel

end Variable

end Stencil
