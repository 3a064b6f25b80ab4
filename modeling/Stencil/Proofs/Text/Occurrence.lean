import Stencil.Text.Basic

/-!
# Where a mark stands in a text

A place in a text is a byte offset at which a character begins. `OccursAt` says
what stands at such a place; `EndsFirst` says that a mark behind a body is the
first one that begins in it or behind it, which is how the end of a region is
chosen.

Theorems:
- `prefix_of_byteLength_le`: of two fronts of one text, the one with fewer bytes
  begins the other.
- `occursAt_append_iff`: places behind a front are places in the rest.
- `breakAt?_eq_some_iff`, `breakAt?_eq_none_iff`: a cut is made at the first
  occurrence of the mark, and not made exactly when there is none.
- `endsFirst_iff`: the first occurrence, by byte offsets in the whole text.
-/

namespace Stencil.Text

/-- The text `part` stands in `text` at the byte offset `start`. -/
def OccursAt (part text : Text) (start : Nat) : Prop :=
  ∃ before after, text = before ++ part ++ after ∧ byteLength before = start

/-- In `body ++ mark` the mark stands nowhere but at the end. -/
def EndsFirst (mark body : Text) : Prop :=
  ∀ before after, body ++ mark = before ++ mark ++ after → after = []

/-- Only the empty text has the `byteLength` zero. -/
theorem byteLength_eq_zero : ∀ {text : Text}, byteLength text = 0 → text = []
  | [], _ => rfl
  | c :: text, h => by
    have hpos : 0 < c.utf8Size := Char.utf8Size_pos c
    simp only [byteLength] at h
    omega

/-- A text with a character in it has a positive `byteLength`. -/
theorem byteLength_pos {text : Text} (h : text ≠ []) : 0 < byteLength text :=
  Nat.pos_of_ne_zero fun hzero => h (byteLength_eq_zero hzero)

/-- One more character `c` adds `c.utf8Size` to the `byteLength`. -/
theorem byteLength_append_singleton (front : Text) (c : Char) :
    byteLength (front ++ [c]) = byteLength front + c.utf8Size :=
  byteLength_append front [c]

/-- Of two fronts `a` and `c` of one text, the one with fewer bytes begins the other. -/
theorem prefix_of_byteLength_le {a b c d : Text} (h : a ++ b = c ++ d)
    (hle : byteLength a ≤ byteLength c) : ∃ e, c = a ++ e ∧ b = e ++ d := by
  rcases List.append_eq_append_iff.mp h with ⟨e, hc, hb⟩ | ⟨e, ha, hd⟩
  · exact ⟨e, hc, hb⟩
  · have hbytes : byteLength a = byteLength c + byteLength e := by
      rw [ha, byteLength_append]
    obtain rfl : e = [] := byteLength_eq_zero (by omega)
    exact ⟨[], by simpa using ha.symm, by simpa using hd.symm⟩

/-- Fronts of one text with equal `byteLength` are equal. -/
theorem eq_of_byteLength_eq {a b c d : Text} (h : a ++ b = c ++ d)
    (heq : byteLength a = byteLength c) : a = c ∧ b = d := by
  obtain ⟨e, hc, hb⟩ := prefix_of_byteLength_le h (Nat.le_of_eq heq)
  have hbytes : byteLength c = byteLength a + byteLength e := by
    rw [hc, byteLength_append]
  obtain rfl : e = [] := byteLength_eq_zero (by omega)
  exact ⟨by simpa using hc.symm, by simpa using hb⟩

/-! ## Places -/

/-- What `OccursAt` the offset zero of a text begins it. -/
theorem occursAt_zero_iff {part text : Text} :
    OccursAt part text 0 ↔ ∃ rest, text = part ++ rest := by
  constructor
  · intro h
    obtain ⟨before, after, rfl, hbefore⟩ := h
    obtain rfl := byteLength_eq_zero hbefore
    exact ⟨after, rfl⟩
  · intro h
    obtain ⟨rest, rfl⟩ := h
    exact ⟨[], rest, rfl, rfl⟩

/-- What `OccursAt` a place behind the `front` occurs in the `rest`. -/
theorem occursAt_append_iff {part rest : Text} {start : Nat} (front : Text) :
    OccursAt part (front ++ rest) (byteLength front + start) ↔ OccursAt part rest start := by
  constructor
  · intro h
    obtain ⟨before, after, htext, hbefore⟩ := h
    rw [List.append_assoc] at htext
    -- What stands before the place takes at least the bytes of the front.
    obtain ⟨e, rfl, hrest⟩ := prefix_of_byteLength_le htext (by omega)
    rw [byteLength_append] at hbefore
    exact ⟨e, after, by simpa using hrest, by omega⟩
  · intro h
    obtain ⟨before, after, rfl, rfl⟩ := h
    exact ⟨front ++ before, after, by simp, byteLength_append front before⟩

/-- A place at which something `OccursAt` a text is the front or a place behind the first
character. -/
theorem occursAt_cons {part text : Text} {c : Char} {start : Nat}
    (h : OccursAt part (c :: text) start) :
    start = 0 ∨ ∃ later, start = c.utf8Size + later ∧ OccursAt part text later := by
  obtain ⟨before, after, htext, rfl⟩ := h
  cases before with
  | nil => exact Or.inl rfl
  | cons d before =>
    obtain ⟨rfl, htail⟩ := List.cons.inj htext
    exact Or.inr ⟨byteLength before, rfl, before, after, htail, rfl⟩

/-- What `OccursAt` a place ends within the text. -/
theorem le_byteLength_of_occursAt {part text : Text} {start : Nat}
    (h : OccursAt part text start) : start + byteLength part ≤ byteLength text := by
  obtain ⟨before, after, rfl, rfl⟩ := h
  simp only [byteLength_append]
  omega

/-! ## First occurrences -/

/-- A `mark` behind the empty body is the first one there. -/
theorem endsFirst_nil (mark : Text) : EndsFirst mark [] := by
  intro before after h
  have hlength := congrArg List.length h
  simp only [List.length_append, List.length_nil] at hlength
  exact List.eq_nil_of_length_eq_zero (by omega)

/-- One more character before a body keeps the mark behind it the first one, `EndsFirst`, exactly if
no mark begins at that character. -/
theorem endsFirst_cons_iff {mark body : Text} {c : Char} :
    EndsFirst mark (c :: body) ↔
      EndsFirst mark body ∧ ∀ after, c :: (body ++ mark) = mark ++ after → after = [] := by
  constructor
  · intro h
    refine ⟨fun before after hbody => ?_, fun after hmark => ?_⟩
    · exact h (c :: before) after (by simpa using hbody)
    · exact h [] after (by simpa using hmark)
  · intro h before after htext
    obtain ⟨hbody, hmark⟩ := h
    cases before with
    | nil => exact hmark after (by simpa using htext)
    | cons d before =>
      simp only [List.cons_append, List.cons.injEq] at htext
      exact hbody before after htext.2

/-- By `stripPrefix?` a mark cannot be taken off exactly when the text does not begin with it. -/
theorem stripPrefix?_eq_none_iff {mark text : Text} :
    stripPrefix? mark text = none ↔ ∀ rest, text ≠ mark ++ rest := by
  simp [Option.eq_none_iff_forall_ne_some, stripPrefix?_eq_some_iff]

/-- By `breakAt?` a cut is made at the first occurrence of the mark. -/
theorem breakAt?_eq_some_iff {mark : Text} :
    ∀ {text body rest : Text}, breakAt? mark text = some (body, rest) ↔
      text = body ++ mark ++ rest ∧ EndsFirst mark body
  | [], body, rest => by
    constructor
    · intro h
      have htext := breakAt?_eq_append h
      obtain rfl : body = [] := by simp_all
      exact ⟨htext, endsFirst_nil mark⟩
    · intro h
      obtain ⟨htext, -⟩ := h
      obtain ⟨rfl, rfl, rfl⟩ : body = [] ∧ mark = [] ∧ rest = [] := by simpa using htext
      rfl
  | c :: text, body, rest => by
    constructor
    · intro h
      refine ⟨breakAt?_eq_append h, ?_⟩
      unfold breakAt? at h
      split at h
      next after _ =>
        obtain ⟨rfl, rfl⟩ := Prod.mk.inj (Option.some.inj h)
        exact endsFirst_nil mark
      next hnone =>
        obtain ⟨cut, hcut, hpair⟩ := Option.map_eq_some_iff.mp h
        obtain ⟨rfl, rfl⟩ := Prod.mk.inj hpair
        obtain ⟨htext, hfirst⟩ := breakAt?_eq_some_iff.mp hcut
        refine endsFirst_cons_iff.mpr ⟨hfirst, fun after hafter => ?_⟩
        -- The cut was not made here although the mark begins here.
        have hfront : c :: text = mark ++ (after ++ cut.2) := by
          rw [htext, ← List.append_assoc, ← hafter]
          simp
        exact absurd hfront (stripPrefix?_eq_none_iff.mp hnone _)
    · intro h
      obtain ⟨htext, hfirst⟩ := h
      unfold breakAt?
      cases body with
      | nil =>
        have hsome : stripPrefix? mark (c :: text) = some rest :=
          stripPrefix?_eq_some_iff.mpr htext
        rw [hsome]
      | cons d body =>
        simp only [List.cons_append, List.cons.injEq] at htext
        obtain ⟨rfl, htext⟩ := htext
        obtain ⟨hbody, hfront⟩ := endsFirst_cons_iff.mp hfirst
        -- A mark at `c` would end before the one behind the body does.
        have hnone : stripPrefix? mark (c :: text) = none := by
          refine stripPrefix?_eq_none_iff.mpr fun after hafter => ?_
          have hsplit : (c :: (body ++ mark)) ++ rest = mark ++ after := by
            rw [← hafter, htext]
            rfl
          rcases List.append_eq_append_iff.mp hsplit with ⟨e, hmark, -⟩ | ⟨e, hmark, -⟩
          · have hlength := congrArg List.length hmark
            simp only [List.length_append, List.length_cons] at hlength
            omega
          · have hlength := congrArg List.length hmark
            rw [hfront e hmark] at hlength
            simp only [List.length_append, List.length_cons, List.length_nil] at hlength
            omega
        rw [hnone, breakAt?_eq_some_iff.mpr ⟨htext, hbody⟩]
        rfl

/-- By `breakAt?` no cut is made exactly when the mark does not occur. -/
theorem breakAt?_eq_none_iff {mark : Text} :
    ∀ {text : Text}, breakAt? mark text = none ↔ ∀ start, ¬ OccursAt mark text start
  | [] => by
    rw [breakAt?, Option.map_eq_none_iff, stripPrefix?_eq_none_iff]
    constructor
    · intro h start hstart
      obtain ⟨before, after, htext, -⟩ := hstart
      obtain ⟨rfl, rfl, rfl⟩ : before = [] ∧ mark = [] ∧ after = [] := by simpa using htext
      exact h [] rfl
    · intro h rest hrest
      exact h 0 (occursAt_zero_iff.mpr ⟨rest, hrest⟩)
  | c :: text => by
    unfold breakAt?
    constructor
    · intro h start hstart
      split at h
      next => cases h
      next hnone =>
        rcases occursAt_cons hstart with rfl | ⟨later, rfl, hlater⟩
        · obtain ⟨rest, hrest⟩ := occursAt_zero_iff.mp hstart
          exact stripPrefix?_eq_none_iff.mp hnone rest hrest
        · exact breakAt?_eq_none_iff.mp (Option.map_eq_none_iff.mp h) later hlater
    · intro h
      have hnone : stripPrefix? mark (c :: text) = none :=
        stripPrefix?_eq_none_iff.mpr fun rest hrest =>
          h 0 (occursAt_zero_iff.mpr ⟨rest, hrest⟩)
      rw [hnone]
      refine Option.map_eq_none_iff.mpr (breakAt?_eq_none_iff.mpr fun start hstart => ?_)
      exact h _ ((occursAt_append_iff [c]).mpr hstart)

/-- A mark is the first one behind a body, `EndsFirst`, exactly if, in a text in which the two stand
behind a `front`, no mark begins between the front and that mark. -/
theorem endsFirst_iff {mark body : Text} (front rest : Text) :
    EndsFirst mark body ↔
      ∀ start, byteLength front ≤ start → start < byteLength (front ++ body) →
        ¬ OccursAt mark (front ++ body ++ mark ++ rest) start := by
  constructor
  · intro hfirst start hlow hhigh hoccurs
    obtain ⟨before, after, htext, rfl⟩ := hoccurs
    rw [byteLength_append] at hhigh
    simp only [List.append_assoc] at htext
    -- The mark begins behind the front, and what lies between is `e`.
    obtain ⟨e, rfl, hbehind⟩ := prefix_of_byteLength_le htext hlow
    rw [byteLength_append] at hhigh
    have hsplit : body ++ mark ++ rest = e ++ mark ++ after := by simpa using hbehind
    have hshort : byteLength (e ++ mark) ≤ byteLength (body ++ mark) := by
      simp only [byteLength_append]
      omega
    -- So it ends with the mark behind the body, or before: it cannot begin earlier.
    obtain ⟨last, hlast, -⟩ := prefix_of_byteLength_le hsplit.symm hshort
    have hbytes := congrArg byteLength hlast
    rw [hfirst e last hlast] at hbytes
    simp only [byteLength_append, byteLength] at hbytes
    omega
  · intro hnone before after htext
    refine Decidable.byContradiction fun hafter => ?_
    refine hnone (byteLength (front ++ before)) ?_ ?_
      ⟨front ++ before, after ++ rest, ?_, rfl⟩
    · simp [byteLength_append]
    · have hbytes := congrArg byteLength htext
      have hpos := byteLength_pos hafter
      simp only [byteLength_append] at hbytes ⊢
      omega
    · have hfront := congrArg (fun t => front ++ t ++ rest) htext
      simpa using hfront

end Stencil.Text
