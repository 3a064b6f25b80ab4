import Stencil.Proofs.Block.Region
import Stencil.Proofs.Value.Texts
import Stencil.Proofs.Variable.Fill

/-!
# Texts stay tagged

Whatever is taken out of a tagged text from a brace on leaves a tagged text on either side,
so that blocks and variables with any names at all, brackets and braces included, can be
replaced in it one after the other. All that is needed is that what is put in is tagged,
which a value without an opening brace always is (`tagged_fillFields`, `tagged_replace`).

After a pass that prints no brace the tags of a text are those that it left
(`insides_substitute`).
-/

namespace Stencil

namespace Variable

open Text

variable {text : Text}

/-! ## Pieces taken out of a tagged text -/

/-- What stands before a brace in a text that is `Tagged` is `Tagged`. -/
theorem Tagged.of_append_brace {front rest : Text} (h : Tagged (front ++ '{' :: rest)) :
    Tagged front := by
  intro before after hfront
  obtain ⟨inside, tail, hinside, hafter⟩ := h before (after ++ '{' :: rest) (by simp [hfront])
  rcases List.append_eq_append_iff.mp hafter with ⟨e, rfl, he⟩ | ⟨e, rfl, he⟩
  · -- The other brace would stand inside the tag.
    cases e with
    | nil => cases he
    | cons c e =>
      obtain ⟨rfl, -⟩ := List.cons.inj he
      exact absurd (by simp) hinside.1
  · cases e with
    | nil => cases he
    | cons c e =>
      obtain ⟨rfl, -⟩ := List.cons.inj he
      exact ⟨inside, e, hinside, rfl⟩

/-- A text that is `Tagged` stays so where `replaceEach` replaces pieces that begin with a brace, if
what is put in their places is `Tagged`. -/
theorem tagged_replaceEach {α : Type} {read? : Text → Option (α × Text)} {render : α → Text}
    (hbegins : BeginsWith '{' read?) (hshortens : Shortens read?)
    (hpiece : ∀ {text rest : Text} {a : α}, Tagged text → read? text = some (a, rest) →
      Tagged (render a) ∧ Tagged rest) (htext : Tagged text) :
    Tagged (replaceEach read? render text) := by
  unfold replaceEach
  induction text using walk_induction hshortens with
  | nil =>
    rw [split_nil]
    exact htext
  | skip c text hnone ih =>
    rw [split_of_none hnone, Split.assemble_pushGap]
    have hsplit : Tagged ([c] ++ text) := htext
    have hrest := ih hsplit.of_append
    by_cases hc : c = '{'
    · -- Nothing begins inside the tag, which goes into the gap as a whole.
      subst hc
      obtain ⟨inside, rest, hinside, rfl⟩ := htext [] text rfl
      have hmem : '{' ∉ inside ++ ['}'] := by simp [hinside.1]
      rw [List.append_cons inside] at hrest ⊢
      rw [split_append_of_refuses (refuses_of_not_mem hbegins hmem),
        Split.assemble_pushText] at hrest ⊢
      have htag := (tagged_tag hinside).append hrest.of_append
      simpa [tag] using htag
    · have hfirst : Tagged [c] := tagged_of_not_mem (by simpa using Ne.symm hc)
      exact hfirst.append hrest
  | take text rest a hsome ih =>
    obtain ⟨ha, hrest⟩ := hpiece htext hsome
    rw [split_of_some hshortens hsome, Split.assemble_pushPiece]
    exact ha.append (ih hrest)

/-- A text that is `Tagged` stays so where `fillForm` fills in a form of a variable. -/
theorem tagged_fillForm {value : Text} (hvalue : '{' ∉ value) (form : Form) (name : Text)
    (htext : Tagged text) : Tagged (fillForm form name value text) := by
  refine tagged_replaceEach (beginsWith_readTag? form name) (shortens_readTag? form name) ?_ htext
  intro text rest _ htagged hread
  obtain ⟨after, hafter, hpair⟩ := Option.map_eq_some_iff.mp hread
  obtain ⟨-, rfl⟩ := Prod.mk.inj hpair
  obtain ⟨inside, -, rfl⟩ := stripTag?_eq_some_iff.mp hafter
  exact ⟨tagged_of_not_mem (openBrace_not_mem_encode hvalue form), htagged.of_append⟩

/-- A text that is `Tagged` stays so where `fillSlots` fills in slots. -/
theorem tagged_fillSlots {slots : List Slot} (hvalues : ∀ slot ∈ slots, '{' ∉ slot.value)
    (htext : Tagged text) : Tagged (fillSlots slots text) := by
  induction slots generalizing text with
  | nil => exact htext
  | cons slot rest ih =>
    obtain ⟨hfirst, hothers⟩ := List.forall_mem_cons.mp hvalues
    exact ih hothers (tagged_fillForm hfirst slot.form slot.name htext)

/-- A text that is `Tagged` stays so where `fillFields` fills in the variables of a map. -/
theorem tagged_fillFields {fields : Fields}
    (hvalues : ∀ content ∈ Fields.texts fields, '{' ∉ content) (transform : Bool)
    (htext : Tagged text) : Tagged (fillFields transform fields text) := by
  rw [fillFields_eq_fillSlots]
  refine tagged_fillSlots (fun slot hslot => ?_) htext
  obtain ⟨entry, hentry, hmem⟩ := List.mem_flatMap.mp hslot
  obtain ⟨form, -, rfl⟩ := List.mem_map.mp hmem
  exact hvalues entry.2 (Fields.mem_of_mem_entries fields hentry).2

/-! ## The tags that a pass leaves -/

/-- The `insides` of a text are those of the tags that stand in it. -/
theorem mem_insides_iff {inside : Text} :
    inside ∈ insides text ↔ BraceFree inside ∧ tag inside <:+: text := by
  refine mem_found_iff_infix '{' tag?_eq_some_iff fun inside hinside => ?_
  exact ⟨inside ++ ['}'], by simp [hinside.1], rfl⟩

theorem insides_append_of_not_mem {front : Text} (h : '{' ∉ front) (rest : Text) :
    insides (front ++ rest) = insides rest := by
  rw [insides, split_append_of_refuses (refuses_of_not_mem beginsWith_tag? h),
    Split.found_pushText, ← insides]

theorem insides_tag_append {inside : Text} (h : BraceFree inside) (rest : Text) :
    insides (tag inside ++ rest) = inside :: insides rest := by
  have hread : tag? (tag inside ++ rest) = some (inside, rest) := tag?_eq_some_iff.mpr ⟨h, rfl⟩
  rw [insides, split_of_some shortens_tag? hread, Split.found_pushPiece, ← insides]

/-- The `insides` that there are after a pass are those for which there was nothing. -/
theorem insides_substitute {lookup : Text → Option Text}
    (hlookup : ∀ {inside printed : Text}, lookup inside = some printed → '{' ∉ printed)
    (htext : Tagged text) :
    insides (substitute lookup text)
      = (insides text).filter fun inside => (lookup inside).isNone := by
  induction htext using Tagged.induction with
  | nil => rw [substitute_nil, insides, split_nil]; rfl
  | char c text hc _ _ ih =>
    have hmem : '{' ∉ [c] := by simpa using hc.symm
    rw [substitute_cons lookup hc]
    show insides ([c] ++ substitute lookup text) = (insides ([c] ++ text)).filter _
    rw [insides_append_of_not_mem hmem, insides_append_of_not_mem hmem, ih]
  | tag inside text hinside _ _ ih =>
    rw [substitute_tag lookup hinside, insides_tag_append hinside]
    cases hfound : lookup inside with
    | none =>
      rw [Option.getD_none, insides_tag_append hinside, ih,
        List.filter_cons_of_pos (by simp [hfound])]
    | some printed =>
      rw [Option.getD_some, insides_append_of_not_mem (hlookup hfound), ih,
        List.filter_cons_of_neg (by simp [hfound])]

end Variable

namespace Block

open Variable

/-- A text that is `Tagged` stays so where `replace` replaces blocks, if what is made of a body that
is `Tagged` is. -/
theorem tagged_replace {pattern : Pattern} {render : Region → Text}
    (hrender : ∀ region : Region, Tagged region.body → Tagged (render region)) {text : Text}
    (htext : Tagged text) : Tagged (replace pattern render text) := by
  refine tagged_replaceEach (beginsWith_region? pattern) (shortens_region? pattern) ?_ htext
  intro text rest region htagged hread
  obtain ⟨-, -, rfl⟩ := region?_eq_some_iff.mp hread
  have htext : region.raw ++ rest
      = openTag region.name ++ (region.body ++ '{' :: ((closeTag region.name).tail ++ rest)) := by
    simp [Region.raw, closeTag, closeMark]
  have hbody : Tagged (region.body ++ '{' :: ((closeTag region.name).tail ++ rest)) :=
    (htext ▸ htagged).of_append
  exact ⟨hrender region hbody.of_append_brace, htagged.of_append⟩

end Block

end Stencil
