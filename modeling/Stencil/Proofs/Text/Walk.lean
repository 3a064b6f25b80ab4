import Stencil.Text.Split
import Stencil.Proofs.Text.Occurrence

/-!
# The walk of `split`

`split` takes a piece where its reader recognises one and passes over a character
where it does not. A reader that takes something off the front whenever it
recognises anything (`Shortens`) is followed step by step: these are the
equations of a step and the induction that goes with them. A stretch of text at
none of whose characters the reader recognises anything (`Refuses`) goes into
the gap as a whole; a stretch without the character that every piece begins with
(`BeginsWith`) is such a stretch.

Theorems:
- `refuses_of_not_mem`: where no piece can begin nothing is recognised.
- `split_of_none`, `split_of_some`: one step of the walk.
- `walk_induction`: what holds of the empty text and is kept by both steps holds
  of every text.
- `mem_found_split_iff`: pieces that begin with a character of their own are all found.
- `split_append_of_refuses`, `breakAt?_append_of_refuses`: a refused stretch is
  passed over.
-/

namespace Stencil

namespace Split

variable {α : Type}

/-- A stretch `front` of text in front of the first gap. -/
def pushText (front : Text) (s : Split α) : Split α :=
  front.foldr pushGap s

/-- A stretch that `pushText` puts in front of the first gap begins the assembled text. -/
theorem assemble_pushText (render : α → Text) (front : Text) (s : Split α) :
    (s.pushText front).assemble render = front ++ s.assemble render := by
  induction front with
  | nil => rfl
  | cons c front ih =>
    show ((s.pushText front).pushGap c).assemble render = _
    rw [assemble_pushGap, ih]
    rfl

/-- Where there is no piece a stretch of `pushText` belongs to the tail. -/
theorem pushText_tail (front tail : Text) :
    (⟨[], tail⟩ : Split α).pushText front = ⟨[], front ++ tail⟩ := by
  induction front with
  | nil => rfl
  | cons c front ih =>
    show ((⟨[], tail⟩ : Split α).pushText front).pushGap c = _
    rw [ih]
    rfl

/-- A stretch of `pushText` in front of a piece is the gap before it. -/
theorem pushText_pushPiece (front : Text) (a : α) (s : Split α) :
    (s.pushPiece a).pushText front = ⟨(front, a) :: s.pieces, s.tail⟩ := by
  induction front with
  | nil => rfl
  | cons c front ih =>
    show ((s.pushPiece a).pushText front).pushGap c = _
    rw [ih]
    rfl

/-- A character that `pushGap` puts in front is no piece. -/
theorem found_pushGap (c : Char) (s : Split α) : (s.pushGap c).found = s.found := by
  obtain ⟨pieces, tail⟩ := s
  cases pieces with
  | nil => rfl
  | cons piece rest => rfl

/-- A stretch that `pushText` puts in front is no piece. -/
theorem found_pushText (front : Text) (s : Split α) : (s.pushText front).found = s.found := by
  induction front with
  | nil => rfl
  | cons c front ih =>
    show ((s.pushText front).pushGap c).found = _
    rw [found_pushGap, ih]

/-- A piece that `pushPiece` puts in front is the first that is `found`. -/
theorem found_pushPiece (a : α) (s : Split α) : (s.pushPiece a).found = a :: s.found :=
  rfl

/-- A character in front moves all `offsets` by the bytes that it takes. -/
theorem offsets_pushGap (width : α → Nat) (start : Nat) (c : Char) (s : Split α) :
    offsets width start (s.pushGap c).pieces = offsets width (start + c.utf8Size) s.pieces := by
  obtain ⟨pieces, tail⟩ := s
  cases pieces with
  | nil => rfl
  | cons piece rest =>
    obtain ⟨gap, a⟩ := piece
    simp only [pushGap, offsets, Text.byteLength, Nat.add_assoc]

/-- A stretch of text in front moves all `offsets` by the bytes that it takes. -/
theorem offsets_pushText (width : α → Nat) (front : Text) (s : Split α) :
    ∀ start, offsets width start (s.pushText front).pieces
      = offsets width (start + Text.byteLength front) s.pieces := by
  induction front with
  | nil => exact fun start => rfl
  | cons c front ih =>
    intro start
    show offsets width start ((s.pushText front).pushGap c).pieces = _
    rw [offsets_pushGap, ih, Text.byteLength, Nat.add_assoc]

/-- A piece in front stands at the `start` and moves the other `offsets` by its width. -/
theorem offsets_pushPiece (width : α → Nat) (start : Nat) (a : α) (s : Split α) :
    offsets width start (s.pushPiece a).pieces
      = (start, a) :: offsets width (start + width a) s.pieces :=
  rfl

/-- Where the walk begins, `start`, moves all `offsets` by as much. -/
theorem offsets_eq_map (width : α → Nat) (pieces : List (Text × α)) :
    ∀ start, offsets width start pieces
      = (offsets width 0 pieces).map fun place => (start + place.1, place.2) := by
  induction pieces with
  | nil => exact fun start => rfl
  | cons piece rest ih =>
    obtain ⟨gap, a⟩ := piece
    intro start
    simp only [offsets, List.map_cons, Nat.zero_add]
    rw [ih (start + Text.byteLength gap + width a), ih (Text.byteLength gap + width a),
      List.map_map]
    simp only [Function.comp_def, Nat.add_assoc]

/-- By `offsets` a piece stands as far behind where the walk begins as it stands behind the front of
the text. -/
theorem mem_offsets_iff {width : α → Nat} {start : Nat} {pieces : List (Text × α)} {p : Nat}
    {a : α} : (p, a) ∈ offsets width start pieces ↔
      ∃ later, p = start + later ∧ (later, a) ∈ offsets width 0 pieces := by
  rw [offsets_eq_map, List.mem_map]
  constructor
  · intro h
    obtain ⟨⟨later, b⟩, hmem, hpair⟩ := h
    obtain ⟨rfl, rfl⟩ := Prod.mk.inj hpair
    exact ⟨later, rfl, hmem⟩
  · intro h
    obtain ⟨later, rfl, hmem⟩ := h
    exact ⟨(later, a), hmem, rfl⟩

/-- Where all pieces are written back by `assemble`, each `OccursAt` its place in `offsets`. -/
theorem occursAt_of_mem_offsets {render : α → Text} (tail : Text) :
    ∀ {pieces : List (Text × α)} {p : Nat} {a : α},
      (p, a) ∈ offsets (fun b => Text.byteLength (render b)) 0 pieces →
      a ∈ pieces.map (·.2) ∧
        Text.OccursAt (render a) ((⟨pieces, tail⟩ : Split α).assemble render) p
  | [], _, _, h => absurd h List.not_mem_nil
  | (gap, b) :: rest, p, a, h => by
    have htext : (⟨(gap, b) :: rest, tail⟩ : Split α).assemble render
        = gap ++ render b ++ (⟨rest, tail⟩ : Split α).assemble render := by
      simp [assemble]
    rw [htext]
    rw [offsets, Nat.zero_add] at h
    rcases List.mem_cons.mp h with hfirst | hlater
    · obtain ⟨rfl, rfl⟩ := Prod.mk.inj hfirst
      exact ⟨List.mem_cons_self, gap, _, rfl, rfl⟩
    · obtain ⟨later, rfl, hmem⟩ := mem_offsets_iff.mp hlater
      obtain ⟨ha, hoccurs⟩ := occursAt_of_mem_offsets tail hmem
      refine ⟨List.mem_cons_of_mem _ ha, ?_⟩
      rw [← Text.byteLength_append]
      exact (Text.occursAt_append_iff _).mpr hoccurs

end Split

namespace Text

variable {α : Type} {read? : Text → Option (α × Text)}

/-- Whatever the reader `read?` recognises is at least one character long. -/
def Shortens (read? : Text → Option (α × Text)) : Prop :=
  ∀ {text rest : Text} {a : α}, read? text = some (a, rest) → rest.length < text.length

/-- The reader recognises nothing at any character of `front` when `rest` follows it. -/
def Refuses (read? : Text → Option (α × Text)) : Text → Text → Prop
  | [], _ => True
  | c :: front, rest => read? (c :: (front ++ rest)) = none ∧ Refuses read? front rest

/-- The reader recognises nothing that does not begin with `first`. -/
def BeginsWith (first : Char) (read? : Text → Option (α × Text)) : Prop :=
  ∀ {c : Char} {text : Text}, c ≠ first → read? (c :: text) = none

/-- A stretch without the character with which every piece begins, by `BeginsWith`, is refused. -/
theorem refuses_of_not_mem {first : Char} (hread : BeginsWith first read?) {rest : Text} :
    ∀ {front : Text}, first ∉ front → Refuses read? front rest
  | [], _ => trivial
  | c :: front, h => by
    obtain ⟨hc, hfront⟩ := not_or.mp (mt List.mem_cons.mpr h)
    exact ⟨hread fun heq => hc heq.symm, refuses_of_not_mem hread hfront⟩

/-- Of two stretches in a row each is refused in front of what follows it: `Refuses` goes over to
`front ++ middle`. -/
theorem refuses_append {rest : Text} :
    ∀ {front middle : Text}, Refuses read? front (middle ++ rest) → Refuses read? middle rest →
      Refuses read? (front ++ middle) rest
  | [], _, _, hmiddle => hmiddle
  | c :: front, middle, hfront, hmiddle => by
    refine ⟨?_, refuses_append hfront.2 hmiddle⟩
    have hhere : read? (c :: (front ++ (middle ++ rest))) = none := hfront.1
    rwa [← List.append_assoc] at hhere

/-- The reader of a literal `mark`. -/
def readMark? (mark text : Text) : Option (Unit × Text) :=
  (stripPrefix? mark text).map fun rest => ((), rest)

/-- By `readMark?` a mark is not read exactly where the text does not begin with it. -/
theorem readMark?_eq_none_iff {mark text : Text} :
    readMark? mark text = none ↔ ∀ rest, text ≠ mark ++ rest := by
  rw [readMark?, Option.map_eq_none_iff, stripPrefix?_eq_none_iff]

/-- What one reader `Refuses` another one refuses as well, if it recognises no more than the
first. -/
theorem Refuses.mono {β : Type} {other? : Text → Option (β × Text)}
    (h : ∀ {text : Text}, read? text = none → other? text = none) {rest : Text} :
    ∀ {front : Text}, Refuses read? front rest → Refuses other? front rest
  | [], _ => trivial
  | _ :: _, hfront => ⟨h hfront.1, Refuses.mono h hfront.2⟩

/-- A mark that does not stand in a stretch does not begin in it either, if its `first` character
comes only once in it and what follows the stretch, if anything, begins with that character
(`hseam`): a mark across the seam would hold the character twice. -/
theorem refuses_readMark? {first : Char} {mark rest : Text} (hmark : first ∉ mark)
    (hseam : ∀ c after, rest = c :: after → c = first) :
    ∀ {front : Text}, ¬ (first :: mark) <:+: front →
      Refuses (readMark? (first :: mark)) front rest
  | [], _ => trivial
  | c :: front, hfree => by
    refine ⟨readMark?_eq_none_iff.mpr fun after htext => ?_,
      refuses_readMark? hmark hseam fun hin => hfree (hin.trans (List.suffix_cons c front).isInfix)⟩
    obtain ⟨rfl, hbehind⟩ := List.cons.inj htext
    rcases List.append_eq_append_iff.mp hbehind with ⟨e, rfl, hrest⟩ | ⟨e, rfl, -⟩
    · cases e with
      | nil => exact hfree (by simp)
      | cons d e => exact hmark (by simp [hseam d _ hrest])
    · exact hfree ⟨[], e, by simp⟩

/-- A mark does not stand in a text at none of whose characters `readMark?` reads it. -/
theorem not_infix_of_refuses {mark : Text} (hmark : mark ≠ []) :
    ∀ {text : Text}, Refuses (readMark? mark) text [] → ¬ mark <:+: text
  | [], _ => fun hinfix => hmark (List.infix_nil.mp hinfix)
  | c :: text, h => by
    intro hinfix
    rcases List.infix_cons_iff.mp hinfix with ⟨rest, hrest⟩ | hbehind
    · have hread := readMark?_eq_none_iff.mp h.1 rest
      rw [List.append_nil] at hread
      exact hread hrest.symm
    · exact not_infix_of_refuses hmark h.2 hbehind

/-- By `split` there is nothing to find in the empty text. -/
theorem split_nil : split read? [] = ⟨[], []⟩ := by
  rw [split]

/-- Where `read?` recognises nothing, `split` passes over one character. -/
theorem split_of_none {c : Char} {text : Text} (h : read? (c :: text) = none) :
    split read? (c :: text) = (split read? text).pushGap c := by
  rw [split, h]

/-- Where `read?` recognises a piece, `split` goes on behind it. -/
theorem split_of_some (hread : Shortens read?) {text rest : Text} {a : α}
    (h : read? text = some (a, rest)) : split read? text = (split read? rest).pushPiece a := by
  cases text with
  | nil => exact absurd (hread h) (Nat.not_lt_zero _)
  | cons c text =>
    have hshort : rest.length ≤ text.length := Nat.le_of_lt_succ (hread h)
    rw [split, h]
    exact dif_pos hshort

/-- What holds of the empty text (`nil`) and is kept by both steps of the walk (`skip` and `take`)
holds of every text. -/
@[elab_as_elim]
theorem walk_induction (hread : Shortens read?) {motive : Text → Prop} (nil : motive [])
    (skip : ∀ c text, read? (c :: text) = none → motive text → motive (c :: text))
    (take : ∀ text rest a, read? text = some (a, rest) → motive rest → motive text)
    (text : Text) : motive text := by
  match hfirst : read? text with
  | some (a, rest) =>
    have hshort := hread hfirst
    exact take text rest a hfirst (walk_induction hread nil skip take rest)
  | none =>
    cases text with
    | nil => exact nil
    | cons c text => exact skip c text hfirst (walk_induction hread nil skip take text)
termination_by text.length
decreasing_by
  · exact hshort
  · exact Nat.lt_succ_self _

/-- Whatever the reader recognises begins with `first` and has it nowhere else. -/
def MarkedBy (first : Char) (read? : Text → Option (α × Text)) : Prop :=
  ∀ {text rest : Text} {a : α}, read? text = some (a, rest) →
    ∃ inside, first ∉ inside ∧ text = first :: (inside ++ rest)

/-- A reader of pieces `MarkedBy` a character takes something off the front. -/
theorem MarkedBy.shortens {first : Char} (hread : MarkedBy first read?) : Shortens read? := by
  intro text rest a h
  obtain ⟨inside, -, rfl⟩ := hread h
  simp only [List.length_cons, List.length_append]
  omega

/-- Where pieces `MarkedBy` a character are looked for they are all `found`: no piece can begin
inside another one, so none is hidden by the one before it. -/
theorem mem_found_split_iff {first : Char} (hread : MarkedBy first read?) {a : α} {text : Text} :
    a ∈ (split read? text).found ↔
      ∃ before part after, text = before ++ part ∧ read? part = some (a, after) := by
  induction text using walk_induction hread.shortens with
  | nil =>
    rw [split_nil]
    constructor
    · intro h
      cases h
    · intro h
      obtain ⟨before, part, after, htext, hpart⟩ := h
      obtain ⟨inside, -, rfl⟩ := hread hpart
      simp at htext
  | skip c text hnone ih =>
    rw [split_of_none hnone, Split.found_pushGap, ih]
    constructor
    · intro h
      obtain ⟨before, part, after, rfl, hpart⟩ := h
      exact ⟨c :: before, part, after, rfl, hpart⟩
    · intro h
      obtain ⟨before, part, after, htext, hpart⟩ := h
      cases before with
      | nil =>
        obtain rfl : c :: text = part := htext
        rw [hnone] at hpart
        cases hpart
      | cons d before =>
        obtain ⟨-, rfl⟩ := List.cons.inj htext
        exact ⟨before, part, after, rfl, hpart⟩
  | take text rest b hsome ih =>
    obtain ⟨inside, hinside, htext⟩ := hread hsome
    rw [split_of_some hread.shortens hsome, Split.found_pushPiece, List.mem_cons, ih]
    constructor
    · intro h
      rcases h with rfl | ⟨before, part, after, rfl, hpart⟩
      · exact ⟨[], text, rest, rfl, hsome⟩
      · exact ⟨first :: (inside ++ before), part, after, by simp [htext], hpart⟩
    · intro h
      obtain ⟨before, part, after, hsplit, hpart⟩ := h
      cases before with
      | nil =>
        obtain rfl : text = part := hsplit
        rw [hsome] at hpart
        exact Or.inl (Prod.mk.inj (Option.some.inj hpart)).1.symm
      | cons d before =>
        rw [htext] at hsplit
        obtain ⟨-, hbehind⟩ := List.cons.inj hsplit
        rcases List.append_eq_append_iff.mp hbehind with ⟨e, rfl, hrest⟩ | ⟨e, rfl, hin⟩
        · exact Or.inr ⟨e, part, after, hrest, hpart⟩
        · -- The other piece begins with `first`, which is not inside this one.
          obtain ⟨inner, -, rfl⟩ := hread hpart
          cases e with
          | nil => exact Or.inr ⟨[], _, after, hin.symm, hpart⟩
          | cons d e =>
            obtain ⟨rfl, -⟩ := List.cons.inj hin
            simp at hinside

/-- Where a reader takes off exactly the `written` forms of the things that are `admitted`, and
these begin with a character that they have nowhere else, what is `found` is what stands in the
text. -/
theorem mem_found_iff_infix (first : Char) {admitted : α → Prop} {written : α → Text}
    (hread : ∀ {text rest : Text} {a : α},
      read? text = some (a, rest) ↔ admitted a ∧ text = written a ++ rest)
    (hwritten : ∀ a, admitted a → ∃ inside, first ∉ inside ∧ written a = first :: inside)
    {a : α} {text : Text} :
    a ∈ (split read? text).found ↔ admitted a ∧ written a <:+: text := by
  have hmarked : MarkedBy first read? := by
    intro text rest a h
    obtain ⟨ha, rfl⟩ := hread.mp h
    obtain ⟨inside, hinside, heq⟩ := hwritten a ha
    exact ⟨inside, hinside, by rw [heq, List.cons_append]⟩
  rw [mem_found_split_iff hmarked]
  constructor
  · intro h
    obtain ⟨before, part, after, rfl, hpart⟩ := h
    obtain ⟨ha, rfl⟩ := hread.mp hpart
    exact ⟨ha, before, after, List.append_assoc ..⟩
  · intro h
    obtain ⟨ha, before, after, rfl⟩ := h
    exact ⟨before, written a ++ after, after, List.append_assoc .., hread.mpr ⟨ha, rfl⟩⟩

/-- A stretch is refused, `Refuses`, if nothing is recognised at any of its characters. -/
theorem refuses_of_forall {rest : Text} :
    ∀ {front : Text}, (∀ before c part, front = before ++ c :: part →
      read? (c :: (part ++ rest)) = none) → Refuses read? front rest
  | [], _ => trivial
  | c :: front, h =>
    ⟨h [] c front rfl, refuses_of_forall fun before d part hfront =>
      h (c :: before) d part (by rw [hfront]; rfl)⟩

/-- A stretch that `read?` `Refuses` goes into the gap of `split` as a whole. -/
theorem split_append_of_refuses {rest : Text} :
    ∀ {front : Text}, Refuses read? front rest →
      split read? (front ++ rest) = (split read? rest).pushText front
  | [], _ => rfl
  | c :: front, h => by
    rw [List.cons_append, split_of_none h.1, split_append_of_refuses h.2]
    rfl

/-- A stretch at none of whose characters the mark begins is passed over by `breakAt?`. -/
theorem breakAt?_append_of_refuses {mark rest : Text} :
    ∀ {front : Text}, Refuses (readMark? mark) front rest →
      breakAt? mark (front ++ rest)
        = (breakAt? mark rest).map fun cut => (front ++ cut.1, cut.2)
  | [], _ => by simp
  | c :: front, h => by
    have hnone : stripPrefix? mark (c :: (front ++ rest)) = none :=
      Option.map_eq_none_iff.mp h.1
    rw [List.cons_append, breakAt?, hnone]
    show (breakAt? mark (front ++ rest)).map _ = _
    rw [breakAt?_append_of_refuses h.2, Option.map_map]
    rfl

/-- A mark behind a body at none of whose characters it begins is the first one, `EndsFirst`. -/
theorem endsFirst_of_refuses {mark body : Text} (h : Refuses (readMark? mark) body mark) :
    EndsFirst mark body := by
  have hfirst : breakAt? mark mark = some ([], []) :=
    breakAt?_eq_some_iff.mpr ⟨by simp, endsFirst_nil mark⟩
  have hbreak : breakAt? mark (body ++ mark) = some (body, []) := by
    rw [breakAt?_append_of_refuses h, hfirst]
    simp
  exact (breakAt?_eq_some_iff.mp hbreak).2

end Text

end Stencil
