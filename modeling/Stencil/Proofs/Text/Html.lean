import Stencil.Text.Html
import Stencil.Proofs.Text.Walk

/-!
# HTML text read back

The four characters that markup gives a meaning are written as entities, so an escaped text
has three of them nowhere, and the ampersand only where one of the four entities begins
(`safe_escape`). An ampersand that stood in the text before it was escaped is one of those
written as an entity, be it the beginning of an entity or not. That is why putting the
characters back in the place of the entities restores every text (`unescape_escape`).
-/

namespace Stencil.Html

open Text

/-- The entities of the characters that markup gives a meaning, with these characters. -/
def entities : List (Text × Char) :=
  [("&amp;".toList, '&'), ("&quot;".toList, '"'), ("&lt;".toList, '<'), ("&gt;".toList, '>')]

/-- The character whose entity, one of the `entities`, stands at the front of a text, and what
follows the entity. -/
def entity? (text : Text) : Option (Char × Text) :=
  entities.findSome? fun (entity, c) => (stripPrefix? entity text).map fun rest => (c, rest)

/-- The text with the characters in the place of their `entities`. -/
def unescape : Text → Text :=
  replaceEach entity? fun c => [c]

/-- The text can stand in markup and in an attribute between double quotes: it has none of the
characters with a meaning, but for ampersands that begin one of the `entities`. -/
structure Safe (text : Text) : Prop where
  quote : '"' ∉ text
  less : '<' ∉ text
  greater : '>' ∉ text
  ampersand : ∀ before after, text = before ++ '&' :: after →
    ∃ entity ∈ entities.map (·.1), entity <+: '&' :: after

/-! ## Entities -/

/-- By `escapeChar` a character is written as one of the `entities`, or it has none and stays. -/
theorem escapeChar_cases (c : Char) :
    (escapeChar c, c) ∈ entities ∨
      escapeChar c = [c] ∧ c ≠ '&' ∧ c ≠ '"' ∧ c ≠ '<' ∧ c ≠ '>' := by
  unfold escapeChar
  split
  next => exact Or.inl (by decide)
  next => exact Or.inl (by decide)
  next => exact Or.inl (by decide)
  next => exact Or.inl (by decide)
  next hamp hquot hlt hgt => exact Or.inr ⟨rfl, hamp, hquot, hlt, hgt⟩

/-- Each of the `entities` begins with an ampersand, and has no other of the characters with a
meaning and no other ampersand. -/
theorem shape_of_mem_entities {entity : Text} {c : Char} (h : (entity, c) ∈ entities) :
    ∃ inside, entity = '&' :: inside ∧ '&' ∉ inside ∧ '"' ∉ inside ∧ '<' ∉ inside ∧
      '>' ∉ inside := by
  have hall : ∀ pair ∈ entities, pair.1.head? = some '&' ∧ '&' ∉ pair.1.tail ∧
      '"' ∉ pair.1.tail ∧ '<' ∉ pair.1.tail ∧ '>' ∉ pair.1.tail := by decide
  obtain ⟨hhead, htail⟩ := hall _ h
  obtain ⟨inside, rfl⟩ := List.head?_eq_some_iff.mp hhead
  exact ⟨inside, rfl, htail⟩

/-- By `entity?` an entity is read as its character. -/
theorem entity?_append {entity : Text} {c : Char} (h : (entity, c) ∈ entities) (rest : Text) :
    entity? (entity ++ rest) = some (c, rest) := by
  simp only [entities, List.mem_cons, List.not_mem_nil, or_false, Prod.mk.injEq] at h
  rcases h with ⟨rfl, rfl⟩ | ⟨rfl, rfl⟩ | ⟨rfl, rfl⟩ | ⟨rfl, rfl⟩
  all_goals rfl

/-- What `entity?` reads is one of the `entities`. -/
theorem eq_append_of_entity? {text rest : Text} {c : Char} (h : entity? text = some (c, rest)) :
    ∃ entity, (entity, c) ∈ entities ∧ text = entity ++ rest := by
  obtain ⟨⟨entity, d⟩, hmem, hread⟩ := List.exists_of_findSome?_eq_some h
  obtain ⟨after, hafter, hpair⟩ := Option.map_eq_some_iff.mp hread
  obtain ⟨rfl, rfl⟩ := Prod.mk.inj hpair
  exact ⟨entity, hmem, stripPrefix?_eq_some_iff.mp hafter⟩

/-- What `entity?` reads is at least one character long. -/
theorem shortens_entity? : Shortens entity? := by
  intro text rest c h
  obtain ⟨entity, hmem, rfl⟩ := eq_append_of_entity? h
  obtain ⟨inside, rfl, -⟩ := shape_of_mem_entities hmem
  simp only [List.cons_append, List.length_cons, List.length_append]
  omega

/-- What `entity?` reads begins with an ampersand. -/
theorem beginsWith_entity? : BeginsWith '&' entity? := by
  intro c text hc
  refine Option.eq_none_iff_forall_ne_some.mpr fun pair hread => ?_
  obtain ⟨entity, hmem, htext⟩ := eq_append_of_entity? hread
  obtain ⟨inside, rfl, -⟩ := shape_of_mem_entities hmem
  exact hc (List.cons.inj htext).1

/-! ## Reading back -/

/-- By `unescape` the text is `split` at the entities and put together of their characters. -/
theorem unescape_eq (text : Text) :
    unescape text = (split entity? text).assemble fun c => [c] :=
  rfl

/-- By `unescape` an entity at the front is replaced by its character. -/
theorem unescape_entity_append {entity : Text} {c : Char} (h : (entity, c) ∈ entities)
    (rest : Text) : unescape (entity ++ rest) = c :: unescape rest := by
  rw [unescape_eq, split_of_some shortens_entity? (entity?_append h rest),
    Split.assemble_pushPiece, ← unescape_eq, List.singleton_append]

/-- By `unescape` any character but an ampersand stays. -/
theorem unescape_cons {c : Char} (h : c ≠ '&') (rest : Text) :
    unescape (c :: rest) = c :: unescape rest := by
  rw [unescape_eq, split_of_none (beginsWith_entity? h), Split.assemble_pushGap, ← unescape_eq]

/-- **Every text is restored from its escaped form**: `unescape` undoes `escape`. -/
theorem unescape_escape (text : Text) : unescape (escape text) = text := by
  induction text with
  | nil => exact (unescape_eq []).trans (by rw [split_nil]; rfl)
  | cons c text ih =>
    have hcons : escape (c :: text) = escapeChar c ++ escape text := List.flatMap_cons
    rw [hcons]
    rcases escapeChar_cases c with hentity | ⟨hstays, hamp, -⟩
    · rw [unescape_entity_append hentity, ih]
    · rw [hstays, List.singleton_append, unescape_cons hamp, ih]

/-! ## What is written -/

theorem safe_nil : Safe [] where
  quote := List.not_mem_nil
  less := List.not_mem_nil
  greater := List.not_mem_nil
  ampersand before after h := by simp at h

/-- Two texts in a row that are `Safe` are `Safe`. -/
theorem Safe.append {front rest : Text} (hfront : Safe front) (hrest : Safe rest) :
    Safe (front ++ rest) where
  quote h := (List.mem_append.mp h).elim hfront.quote hrest.quote
  less h := (List.mem_append.mp h).elim hfront.less hrest.less
  greater h := (List.mem_append.mp h).elim hfront.greater hrest.greater
  ampersand before after h := by
    rcases List.append_eq_append_iff.mp h with ⟨e, -, hbehind⟩ | ⟨e, hin, hbehind⟩
    · exact hrest.ampersand e after hbehind
    · cases e with
      | nil => exact hrest.ampersand [] after hbehind.symm
      | cons c e =>
        obtain ⟨rfl, rfl⟩ := List.cons.inj hbehind
        obtain ⟨entity, hentity, hprefix⟩ := hfront.ampersand before e hin
        exact ⟨entity, hentity, hprefix.trans (List.prefix_append ('&' :: e) rest)⟩

/-- Each of the `entities` is `Safe`. -/
theorem safe_of_mem_entities {entity : Text} {c : Char} (h : (entity, c) ∈ entities) :
    Safe entity := by
  obtain ⟨inside, rfl, hamp, hquot, hlt, hgt⟩ := shape_of_mem_entities h
  refine ⟨by simp [hquot], by simp [hlt], by simp [hgt], fun before after htext => ?_⟩
  cases before with
  | nil =>
    obtain rfl : inside = after := (List.cons.inj htext).2
    exact ⟨_, List.mem_map_of_mem h, List.prefix_refl _⟩
  | cons d before =>
    -- The only ampersand of an entity is its first character.
    have hbehind : inside = before ++ '&' :: after := (List.cons.inj htext).2
    exact absurd (by simp [hbehind]) hamp

/-- A character without an entity is `Safe`. -/
theorem safe_singleton {c : Char} (h : c ≠ '&' ∧ c ≠ '"' ∧ c ≠ '<' ∧ c ≠ '>') : Safe [c] := by
  obtain ⟨hamp, hquot, hlt, hgt⟩ := h
  refine ⟨by simpa using hquot.symm, by simpa using hlt.symm, by simpa using hgt.symm, ?_⟩
  intro before after htext
  have hmem : '&' ∈ [c] := by simp [htext]
  exact absurd (List.mem_singleton.mp hmem).symm hamp

/-- **An escaped text is safe**: `escape` gives a `Safe` one. -/
theorem safe_escape (text : Text) : Safe (escape text) := by
  induction text with
  | nil => exact safe_nil
  | cons c text ih =>
    have hcons : escape (c :: text) = escapeChar c ++ escape text := List.flatMap_cons
    rw [hcons]
    rcases escapeChar_cases c with hentity | ⟨hstays, hplain⟩
    · exact (safe_of_mem_entities hentity).append ih
    · rw [hstays]
      exact (safe_singleton hplain).append ih

end Stencil.Html
