import Mathlib.Data.List.Basic
import Stencil.Proofs.Variable.Form

/-!
# One pass over the tags of a text

`substitute` walks a text once and puts something in the place of each tag for which
there is something; all other tags, and all that is no tag, stay. It is what filling
in variables means as long as nothing that is printed begins a tag of its own.

Variables are filled in slot by slot, a slot being one form of one variable with its
value, and each slot sees what those before it have printed. If each brace of the text
opens a tag (`Tagged`), and no tag that a later slot fills begins in what an earlier
one prints (`Slot.Shuns`), then the slots together make one pass, in which the first
slot that a tag names counts (`fillSlots_eq_substitute`).

Theorems:
- `Tagged.induction`: a tagged text is made of characters that open no tag, and tags.
- `fillForm_substitute`: one more slot extends a pass.
- `fillSlots_substitute`, `fillSlots_eq_substitute`: so do all of them.
- `substitute_congr`: only what stands for the tags of the text counts.
-/

namespace Stencil

/-- What is rendered for the pieces that are `found` is all that counts for `assemble`. -/
theorem Split.assemble_congr {α : Type} {render render' : α → Text} {s : Split α}
    (h : ∀ a ∈ s.found, render a = render' a) : s.assemble render = s.assemble render' := by
  have hpieces : s.pieces.flatMap (fun piece => piece.1 ++ render piece.2)
      = s.pieces.flatMap fun piece => piece.1 ++ render' piece.2 :=
    List.flatMap_congr fun piece hpiece => by rw [h piece.2 (List.mem_map_of_mem hpiece)]
  rw [Split.assemble, Split.assemble, hpieces]

namespace Variable

open Text

/-! ## Tagged texts -/

/-- Each brace that opens in the text opens a tag whose inside is `BraceFree`. -/
def Tagged (text : Text) : Prop :=
  ∀ before after, text = before ++ '{' :: after →
    ∃ inside rest, BraceFree inside ∧ after = inside ++ '}' :: rest

/-- A text without an opening brace is `Tagged`. -/
theorem tagged_of_not_mem {text : Text} (h : '{' ∉ text) : Tagged text := by
  intro before after htext
  exact absurd (by simp [htext]) h

/-- Two texts in a row that are `Tagged` are `Tagged`. -/
theorem Tagged.append {front rest : Text} (hfront : Tagged front) (hrest : Tagged rest) :
    Tagged (front ++ rest) := by
  intro before after htext
  rcases List.append_eq_append_iff.mp htext with ⟨e, -, hbehind⟩ | ⟨e, hin, hbehind⟩
  · exact hrest e after hbehind
  · cases e with
    | nil => exact hrest [] after hbehind.symm
    | cons c e =>
      obtain ⟨rfl, rfl⟩ := List.cons.inj hbehind
      obtain ⟨inside, tail, hinside, rfl⟩ := hfront before e hin
      exact ⟨inside, tail ++ rest, hinside, by simp⟩

/-- A tag without a brace inside is `Tagged`. -/
theorem tagged_tag {inside : Text} (h : BraceFree inside) : Tagged (tag inside) := by
  intro before after htext
  cases before with
  | nil => exact ⟨inside, [], h, (List.cons.inj htext).2.symm⟩
  | cons c before =>
    -- The only brace that opens is the first character.
    have hbehind : inside ++ ['}'] = before ++ '{' :: after := (List.cons.inj htext).2
    have hmem : '{' ∈ inside ++ ['}'] := by simp [hbehind]
    simp [h.1] at hmem

/-- What follows a `front` of a text that is `Tagged` is `Tagged`. -/
theorem Tagged.of_append {front rest : Text} (h : Tagged (front ++ rest)) : Tagged rest := by
  intro before after htext
  exact h (front ++ before) after (by simp [htext])

/-- What holds of the empty text (`nil`), and is kept by a character that opens no tag (`char`) and
by a tag in front (`tag`), holds of every text that is `Tagged`. -/
@[elab_as_elim]
theorem Tagged.induction {motive : (text : Text) → Tagged text → Prop}
    (nil : ∀ h, motive [] h)
    (char : ∀ c text, c ≠ '{' → ∀ h h', motive text h → motive (c :: text) h')
    (tag : ∀ inside text, BraceFree inside →
      ∀ h h', motive text h → motive (tag inside ++ text) h') :
    ∀ {text : Text} (h : Tagged text), motive text h
  | [], h => nil h
  | c :: text, h => by
    by_cases hc : c = '{'
    · obtain ⟨inside, rest, hinside, htext⟩ := h [] text (by rw [hc, List.nil_append])
      have hfront : c :: text = Variable.tag inside ++ rest := by
        rw [hc, htext]
        simp [Variable.tag]
      have hshort : rest.length < (c :: text).length := by
        rw [htext]
        simp
        omega
      have hrest : Tagged rest := Tagged.of_append (hfront ▸ h)
      have hmotive := tag inside rest hinside hrest (hfront ▸ h)
        (Tagged.induction nil char tag hrest)
      simpa only [hfront] using hmotive
    · have hsplit : Tagged ([c] ++ text) := h
      have hrest : Tagged text := hsplit.of_append
      exact char c text hc hrest h (Tagged.induction nil char tag hrest)
termination_by text => text.length
decreasing_by
  · exact hshort
  · exact Nat.lt_succ_self _

/-! ## A pass over the tags -/

/-- The text with `lookup inside` in the place of each tag for which there is something. -/
def substitute (lookup : Text → Option Text) : Text → Text :=
  replaceEach tag? fun inside => (lookup inside).getD (tag inside)

/-- What stands between the braces of the tags of a text, from left to right. -/
def insides (text : Text) : List Text :=
  (split tag? text).found

/-- What `tag?` reads begins with a brace. -/
theorem beginsWith_tag? : BeginsWith '{' tag? := by
  intro c text hc
  refine Option.eq_none_iff_forall_ne_some.mpr fun pair hread => ?_
  obtain ⟨-, htext⟩ := tag?_eq_some_iff.mp hread
  exact hc (List.cons.inj htext).1

/-- What follows the tag that `tag?` reads is shorter than what it is read from. -/
theorem shortens_tag? : Shortens tag? := by
  intro text rest inside h
  obtain ⟨-, rfl⟩ := tag?_eq_some_iff.mp h
  simp [tag]
  omega

section Pass

variable (lookup : Text → Option Text)

/-- By `substitute` a pass is a walk over the tags, a `split` by `tag?`. -/
theorem substitute_eq (text : Text) :
    substitute lookup text
      = (split tag? text).assemble fun inside => (lookup inside).getD (tag inside) :=
  rfl

/-- Nothing is put into the empty text. -/
theorem substitute_nil : substitute lookup [] = [] := by
  rw [substitute_eq, split_nil]
  rfl

/-- A stretch without an opening brace stays in `substitute`. -/
theorem substitute_append_of_not_mem {front : Text} (h : '{' ∉ front) (rest : Text) :
    substitute lookup (front ++ rest) = front ++ substitute lookup rest := by
  rw [substitute_eq, split_append_of_refuses (refuses_of_not_mem beginsWith_tag? h),
    Split.assemble_pushText, ← substitute_eq]

/-- A character that opens no tag stays in `substitute`. -/
theorem substitute_cons {c : Char} (h : c ≠ '{') (text : Text) :
    substitute lookup (c :: text) = c :: substitute lookup text := by
  have hmem : '{' ∉ [c] := by simpa using h.symm
  exact substitute_append_of_not_mem lookup hmem text

/-- By `substitute` a tag is looked up, and stays if there is nothing for it. -/
theorem substitute_tag {inside : Text} (h : BraceFree inside) (rest : Text) :
    substitute lookup (tag inside ++ rest)
      = (lookup inside).getD (tag inside) ++ substitute lookup rest := by
  have hread : tag? (tag inside ++ rest) = some (inside, rest) := tag?_eq_some_iff.mpr ⟨h, rfl⟩
  rw [substitute_eq, split_of_some shortens_tag? hread, Split.assemble_pushPiece, ← substitute_eq]

end Pass

/-- Only what `lookup` has for the `insides` of the text counts. -/
theorem substitute_congr {lookup lookup' : Text → Option Text} {text : Text}
    (h : ∀ inside ∈ insides text, lookup inside = lookup' inside) :
    substitute lookup text = substitute lookup' text :=
  Split.assemble_congr fun inside hinside =>
    congrArg (fun printed => Option.getD printed (tag inside)) (h inside hinside)

/-- When there is something for no tag `substitute` leaves the text as it is. -/
theorem substitute_none (text : Text) : substitute (fun _ => none) text = text :=
  assemble_split (fun h => (tag?_eq_some_iff.mp h).2) text

/-! ## Slots -/

/-- One form of one variable, with the `value` to be printed. -/
structure Slot where
  form : Form
  name : Text
  value : Text

namespace Slot

/-- What the slot prints in the place of a tag, if the tag `Names` its variable in its form. -/
def print? (slot : Slot) (inside : Text) : Option Text :=
  if slot.form.Names slot.name inside then some (slot.form.encode slot.value) else none

/-- No tag that the slot fills begins in the text, whatever follows it: `readTag?` refuses it. -/
def Shuns (slot : Slot) (text : Text) : Prop :=
  ∀ rest, Refuses (readTag? slot.form slot.name) text rest

/-- In a text without an opening brace no tag begins: every slot `Shuns` it. -/
theorem shuns_of_not_mem (slot : Slot) {text : Text} (h : '{' ∉ text) : slot.Shuns text :=
  fun _ => refuses_of_not_mem (beginsWith_readTag? slot.form slot.name) h

end Slot

/-- The text with the `slots` filled in, one after the other, by `fillForm`. -/
def fillSlots (slots : List Slot) (text : Text) : Text :=
  slots.foldl (fun filled slot => fillForm slot.form slot.name slot.value filled) text

/-- What the first of the `slots` that a tag names prints in its place. -/
def firstPrint? (slots : List Slot) (inside : Text) : Option Text :=
  slots.findSome? fun slot => slot.print? inside

/-- By `fillSlots` slots in a row are filled in in a row. -/
theorem fillSlots_append (front rest : List Slot) (text : Text) :
    fillSlots (front ++ rest) text = fillSlots rest (fillSlots front text) :=
  List.foldl_append

/-- To fill in one more slot extends a pass, if it `Shuns` what the pass prints. -/
theorem fillForm_substitute {slot : Slot} (hname : BraceFree slot.name)
    {lookup : Text → Option Text}
    (hshuns : ∀ inside printed, lookup inside = some printed → slot.Shuns printed)
    {text : Text} (htext : Tagged text) :
    fillForm slot.form slot.name slot.value (substitute lookup text)
      = substitute (fun inside => (lookup inside).or (slot.print? inside)) text := by
  induction htext using Tagged.induction with
  | nil => rw [substitute_nil, substitute_nil, fillForm_nil]
  | char c text hc _ _ ih =>
    have hrefuses : Refuses (readTag? slot.form slot.name) [c] (substitute lookup text) :=
      refuses_of_not_mem (beginsWith_readTag? slot.form slot.name) (by simpa using hc.symm)
    rw [substitute_cons lookup hc, substitute_cons _ hc, ← ih]
    exact fillForm_append_of_refuses hrefuses slot.value
  | tag inside text hinside _ _ ih =>
    rw [substitute_tag lookup hinside, substitute_tag _ hinside, ← ih]
    cases hlookup : lookup inside with
    | some printed =>
      exact fillForm_append_of_refuses (hshuns inside printed hlookup _) slot.value
    | none =>
      -- The tag is still there for the slot.
      rw [Option.getD_none, Option.none_or, Slot.print?]
      by_cases hnames : slot.form.Names slot.name inside
      · rw [if_pos hnames, Option.getD_some]
        exact fillForm_tag_of_names hnames slot.value _
      · rw [if_neg hnames, Option.getD_none]
        exact fillForm_append_of_refuses (refuses_tag hname hinside hnames _) slot.value

/-- To fill in slots extends a pass, if each of them `Shuns` what the pass or an earlier slot
prints. -/
theorem fillSlots_substitute {slots : List Slot} (hnames : ∀ slot ∈ slots, BraceFree slot.name)
    (hsettled : slots.Pairwise fun earlier later => later.Shuns (earlier.form.encode earlier.value))
    {text : Text} (htext : Tagged text) :
    ∀ {lookup : Text → Option Text},
      (∀ slot ∈ slots, ∀ inside printed, lookup inside = some printed → slot.Shuns printed) →
      fillSlots slots (substitute lookup text)
        = substitute (fun inside => (lookup inside).or (firstPrint? slots inside)) text := by
  induction slots with
  | nil =>
    intro lookup _
    simp only [fillSlots, List.foldl_nil, firstPrint?, List.findSome?_nil, Option.or_none]
  | cons slot rest ih =>
    intro lookup hshuns
    obtain ⟨hfirst, hrest⟩ := List.forall_mem_cons.mp hshuns
    obtain ⟨hname, hothers⟩ := List.forall_mem_cons.mp hnames
    obtain ⟨hbefore, hamong⟩ := List.pairwise_cons.mp hsettled
    have hstep : ∀ later ∈ rest, ∀ inside printed,
        (lookup inside).or (slot.print? inside) = some printed → later.Shuns printed := by
      intro later hlater inside printed hprinted
      rcases Option.or_eq_some_iff.mp hprinted with hold | ⟨-, hnew⟩
      · exact hrest later hlater inside printed hold
      · rw [Slot.print?, Option.ite_none_right_eq_some, Option.some_inj] at hnew
        exact hnew.2 ▸ hbefore later hlater
    show fillSlots rest (fillForm slot.form slot.name slot.value (substitute lookup text)) = _
    rw [fillForm_substitute hname hfirst htext, ih hothers hamong hstep]
    simp only [firstPrint?, List.findSome?_cons, Option.or_assoc]
    congr 1
    funext inside
    cases slot.print? inside <;> rfl

/-- Slots are filled in by one pass in which the first slot that a tag names counts, `firstPrint?`,
if each slot `Shuns` what an earlier one prints. -/
theorem fillSlots_eq_substitute {slots : List Slot} (hnames : ∀ slot ∈ slots, BraceFree slot.name)
    (hsettled : slots.Pairwise fun earlier later => later.Shuns (earlier.form.encode earlier.value))
    {text : Text} (htext : Tagged text) :
    fillSlots slots text = substitute (firstPrint? slots) text := by
  have hpass : fillSlots slots (substitute (fun _ => none) text)
      = substitute (fun inside => none.or (firstPrint? slots inside)) text :=
    fillSlots_substitute hnames hsettled htext (by simp)
  rwa [substitute_none] at hpass

end Variable

end Stencil
