import Stencil.Proofs.FileTree.Entry
import Stencil.Proofs.Theme.Language
import Stencil.Proofs.Variable.Fill

/-!
# The strings of a language in one pass

The strings in use are filled in one after the other, and each is looked for in what those
before it have printed. A string may have tags of its own, for passes that come later. As
long as it has no tag of any of the strings (`Settled`) nothing that is printed is printed
over, and all of them together are one pass over the tags of the text: a tag prints the
string whose name it is, and every other tag stays. That a key is the beginning of another
one does no harm, since a tag ends where its name does.

A string is asked for by its name as it is written and in no other form, so that no tag
with a mark in front of the name has anything to do with it (`string?_of_names`). Which
string is under a key does not depend on where it stands among the others, and neither does
what is rendered (`renderOn_pass_eq_substitute`).
-/

namespace Stencil

namespace Variable

open Text

/-- No tag that a slot fills begins in a `Tagged` text in which none stands: the slot `Shuns` it. -/
theorem Slot.shuns_of_tagged {slot : Slot} (hname : BraceFree slot.name) {text : Text}
    (htext : Tagged text)
    (h : ∀ inside, slot.form.Names slot.name inside → ¬ tag inside <:+: text) :
    slot.Shuns text := by
  intro rest
  induction htext using Tagged.induction with
  | nil => trivial
  | char c text hc _ _ ih =>
    have hfirst : Refuses (readTag? slot.form slot.name) [c] (text ++ rest) :=
      refuses_of_not_mem (beginsWith_readTag? slot.form slot.name) (by simpa using hc.symm)
    refine refuses_append hfirst (ih fun inside hnames hin => ?_)
    exact h inside hnames (hin.trans (List.suffix_cons c text).isInfix)
  | tag inside text hinside _ _ ih =>
    have hother : ¬ slot.form.Names slot.name inside := fun hnames =>
      h inside hnames (List.prefix_append _ _).isInfix
    refine refuses_append (refuses_tag hname hinside hother _) (ih fun other hnames hin => ?_)
    exact h other hnames (hin.trans (List.suffix_append _ _).isInfix)

end Variable

namespace Language

open Variable

variable {strings : Fields}

/-! ## Which string a tag asks for -/

/-- The string that a tag asks for: the text under the key that its name `inside` says. -/
def string? (strings : Fields) (inside : Text) : Option Text := do
  let key ← Text.stripPrefix? "lang:".toList inside
  (← strings.get? key).text?

/-- There is no brace in the `variableName` of a string whose key has none. -/
theorem braceFree_variableName {key : Text} (h : BraceFree key) :
    BraceFree (variableName key) := by
  have hfront : '{' ∉ "lang:".toList ∧ '}' ∉ "lang:".toList := by decide
  exact ⟨List.not_mem_append hfront.1 h.1, List.not_mem_append hfront.2 h.2⟩

/-- By `string?` a tag asks for a string exactly if it is the `variableName` of a key that has a
text. -/
theorem string?_eq_some_iff {inside content : Text} :
    string? strings inside = some content ↔
      ∃ key, inside = variableName key ∧ strings.get? key = some (.text content) := by
  simp only [string?, Option.bind_eq_bind, Option.bind_eq_some_iff, Text.stripPrefix?_eq_some_iff]
  refine exists_congr fun key => and_congr_right fun _ => ?_
  constructor
  · rintro ⟨value, hvalue, htext⟩
    cases value with
    | text other =>
      obtain rfl : other = content := Option.some.inj htext
      exact hvalue
    | map | list => cases htext
  · exact fun hvalue => ⟨_, hvalue, rfl⟩

/-- A tag with a `mark` in front of the name asks for no string. -/
theorem string?_of_names {form : Form} (hform : form ≠ .bare) {key inside : Text}
    (h : form.Names (variableName key) inside) : string? strings inside = none := by
  refine Option.eq_none_iff_forall_ne_some.mpr fun content hcontent => ?_
  obtain ⟨other, rfl, -⟩ := string?_eq_some_iff.mp hcontent
  -- The name begins with an `l`, but the mark does not.
  have hfirst : ∀ mark : Form, mark ≠ .bare →
      (mark.mark.map Unicode.fold).head? ≠ some (Unicode.fold 'l') := by
    decide +kernel
  have hmark : form.mark ≠ [] := by
    cases form with
    | bare => exact absurd rfl hform
    | plaintext | js | jsPlaintext | urlEncoded => exact List.cons_ne_nil _ _
  have hfold := congrArg List.head? h.fold_eq
  rw [List.map_append, List.head?_append_of_ne_nil _ (by simpa using hmark)] at hfold
  exact hfirst form hform hfold.symm

/-! ## Strings that leave each other alone -/

/-- The keys are `distinct` and those of texts have no brace; in the texts each brace opens a tag,
and none of these is the tag of a text. -/
structure Settled (strings : Fields) : Prop where
  distinct : strings.keys.Nodup
  braceFree : ∀ key content, (key, .text content) ∈ strings → BraceFree key
  tagged : ∀ key content, (key, .text content) ∈ strings → Tagged content
  apart : ∀ key content, (key, .text content) ∈ strings →
    ∀ other text, (other, .text text) ∈ strings → ¬ tag (variableName other) <:+: content

/-- In another order strings that are `Settled` leave each other alone as well. -/
theorem Settled.perm (h : Settled strings) {others : Fields} (hperm : others.Perm strings) :
    Settled others where
  distinct := (hperm.map _).nodup_iff.mpr h.distinct
  braceFree key content hmem := h.braceFree key content (hperm.mem_iff.mp hmem)
  tagged key content hmem := h.tagged key content (hperm.mem_iff.mp hmem)
  apart key content hmem other text hother :=
    h.apart key content (hperm.mem_iff.mp hmem) other text (hperm.mem_iff.mp hother)

/-- Where strings stand does not matter to what a tag asks for by `string?`. -/
theorem Settled.string?_eq (h : Settled strings) {others : Fields} (hperm : others.Perm strings) :
    string? others = string? strings := by
  funext inside
  refine Option.ext fun content => ?_
  simp only [string?_eq_some_iff, Keyed.get?_eq_some_iff h.distinct,
    Keyed.get?_eq_some_iff (h.perm hperm).distinct, hperm.mem_iff]

/-! ## The slots of strings -/

/-- The slots of the `strings` that are texts, in their order. -/
def slots (strings : Fields) : List Slot :=
  strings.filterMap fun (key, value) => value.text?.map (Slot.mk .bare (variableName key))

theorem mem_slots_iff {slot : Slot} :
    slot ∈ slots strings ↔
      ∃ key content, (key, .text content) ∈ strings ∧
        slot = ⟨.bare, variableName key, content⟩ := by
  simp only [slots, List.mem_filterMap, Option.map_eq_some_iff]
  constructor
  · rintro ⟨⟨key, value⟩, hmem, content, htext, rfl⟩
    cases value with
    | text other =>
      obtain rfl : other = content := Option.some.inj htext
      exact ⟨key, other, hmem, rfl⟩
    | map | list => cases htext
  · rintro ⟨key, content, hmem, rfl⟩
    exact ⟨_, hmem, content, rfl, rfl⟩

/-- By `fillStrings` strings are filled in slot by slot. -/
theorem fillStrings_eq_fillSlots (strings : Fields) (cursor : Cursor) :
    fillStrings strings cursor = cursor.setCurrent (fillSlots (slots strings) cursor.current) := by
  induction strings generalizing cursor with
  | nil => rfl
  | cons entry rest ih =>
    obtain ⟨key, value⟩ := entry
    cases value with
    | text content => exact ih _
    | map | list => exact ih cursor

/-- No string is looked for where another one is printed: each of the `slots` `Shuns` what those
before it print. -/
theorem Settled.pairwise (h : Settled strings) :
    (slots strings).Pairwise fun earlier later =>
      later.Shuns (earlier.form.encode earlier.value) := by
  refine List.pairwise_of_forall_mem_list fun earlier hearlier later hlater => ?_
  obtain ⟨key, content, hmem, rfl⟩ := mem_slots_iff.mp hearlier
  obtain ⟨other, text, hother, rfl⟩ := mem_slots_iff.mp hlater
  refine Slot.shuns_of_tagged (braceFree_variableName (h.braceFree other text hother))
    (h.tagged key content hmem) ?_
  rintro inside rfl
  exact h.apart key content hmem other text hother

/-- The first string that a tag names, by `firstPrint?`, is the `string?` that it asks for. -/
theorem Settled.firstPrint?_eq (h : Settled strings) :
    firstPrint? (slots strings) = string? strings := by
  have hprints : ∀ {slot : Slot} {inside printed : Text}, slot ∈ slots strings →
      slot.print? inside = some printed → string? strings inside = some printed := by
    intro slot inside printed hslot hprint
    obtain ⟨key, content, hmem, rfl⟩ := mem_slots_iff.mp hslot
    rw [Slot.print?, Option.ite_none_right_eq_some] at hprint
    obtain ⟨rfl, hprinted⟩ := hprint
    obtain rfl : content = printed := Option.some.inj hprinted
    exact string?_eq_some_iff.mpr ⟨key, rfl, (Keyed.get?_eq_some_iff h.distinct).mpr hmem⟩
  funext inside
  cases hfirst : firstPrint? (slots strings) inside with
  | some printed =>
    obtain ⟨slot, hslot, hprint⟩ := List.exists_of_findSome?_eq_some hfirst
    exact (hprints hslot hprint).symm
  | none =>
    refine (Option.eq_none_iff_forall_ne_some.mpr fun content hcontent => ?_).symm
    obtain ⟨key, rfl, hget⟩ := string?_eq_some_iff.mp hcontent
    have hslot := mem_slots_iff.mpr ⟨key, content, (Keyed.get?_eq_some_iff h.distinct).mp hget, rfl⟩
    have hprint := List.findSome?_eq_none_iff.mp hfirst _ hslot
    have hnames : Form.bare.Names (variableName key) (variableName key) := rfl
    rw [Slot.print?, if_pos hnames] at hprint
    cases hprint

/-- Strings that are `Settled` are filled in by one pass `substitute`. -/
theorem Settled.fillStrings_eq (h : Settled strings) {cursor : Cursor}
    (htext : Tagged cursor.current) :
    fillStrings strings cursor
      = cursor.setCurrent (substitute (string? strings) cursor.current) := by
  rw [fillStrings_eq_fillSlots, ← h.firstPrint?_eq]
  congr 1
  refine fillSlots_eq_substitute (fun slot hslot => ?_) h.pairwise htext
  obtain ⟨key, content, hmem, rfl⟩ := mem_slots_iff.mp hslot
  exact braceFree_variableName (h.braceFree key content hmem)

/-! ## What the pass renders -/

/-- **The strings of a language are filled in by one pass** `substitute` over the tags of a text, if
they are `Settled`, that is, leave each other alone. The second part says what a tag prints: the
text under the key that its name says (`string?`), with whatever tags that text has; every other tag
stays, by the third part with a mark in front of the name as well (`form ≠ .bare`). By the last part
strings in another order (`others.Perm strings`) do the same. -/
theorem renderOn_pass_eq_substitute {context : Context}
    (hstrings : context.get? Context.languageKey = some (.map strings))
    (hsettled : Settled strings) {cursor : Cursor} (htext : Tagged cursor.current) :
    (∀ {σ : Type} (tree : FileTree) (language : Language) (shared : σ),
      Pass.renderOn context (language.pass tree) (cursor, shared)
        = (.ok (), cursor.setCurrent (substitute (string? strings) cursor.current), shared)) ∧
      (∀ inside content, string? strings inside = some content ↔
        ∃ key, inside = variableName key ∧ strings.get? key = some (.text content)) ∧
      (∀ (form : Form) (key inside : Text), form ≠ .bare →
        form.Names (variableName key) inside → string? strings inside = none) ∧
      ∀ (other : Context) (others : Fields),
        other.get? Context.languageKey = some (.map others) → others.Perm strings →
        ∀ {σ : Type} (tree : FileTree) (language : Language) (shared : σ),
          Pass.renderOn other (language.pass tree) (cursor, shared)
            = Pass.renderOn context (language.pass tree) (cursor, shared) := by
  have hpass : ∀ {other : Context} {others : Fields},
      other.get? Context.languageKey = some (.map others) → others.Perm strings →
      ∀ {σ : Type} (tree : FileTree) (language : Language) (shared : σ),
        Pass.renderOn other (language.pass tree) (cursor, shared)
          = (.ok (), cursor.setCurrent (substitute (string? strings) cursor.current), shared) := by
    intro other others hothers hperm σ tree language shared
    rw [Pass.renderOn, render_pass hothers]
    show (Except.ok (), fillStrings others cursor, shared) = _
    rw [(hsettled.perm hperm).fillStrings_eq htext, hsettled.string?_eq hperm]
  refine ⟨hpass hstrings (List.Perm.refl _), fun inside content => string?_eq_some_iff,
    fun form key inside hform hnames => string?_of_names hform hnames, ?_⟩
  intro other others hothers hperm σ tree language shared
  rw [hpass hothers hperm, hpass hstrings (List.Perm.refl _)]

/-- Strings of which one key begins another, with the tag of a variable and the tag of a key
without a text in what they print. -/
theorem renderOn_pass_eq_substitute_prefix :
    let strings : Fields :=
      [(['A'], .text ("a".toList ++ tag ['T'] ++ tag "lang:L".toList)),
        (['A', 'B'], .text ['b']), (['L'], .list [.text ['l']])]
    let context : Context := { values := [("lang".toList, .map strings)] }
    let text := tag "lang:AB".toList ++ tag "lang:A".toList ++ tag "JSlang:A".toList
      ++ tag "lang:C".toList
    context.get? Context.languageKey = some (.map strings) ∧ Settled strings ∧ Tagged text ∧
      Pass.renderOn context (Language.pass { root := .directory [] } {}) (.ofText text, ()) =
        (.ok (), ⟨"ba".toList ++ tag ['T'] ++ tag "lang:L".toList ++ tag "JSlang:A".toList
          ++ tag "lang:C".toList, text⟩, ()) := by
  intro strings context text
  have hstrings : context.get? Context.languageKey = some (.map strings) := rfl
  have htexts : ∀ {p : Text → Text → Prop},
      (∀ key content, (key, .text content) ∈ strings → p key content) ↔
        p ['A'] ("a".toList ++ tag ['T'] ++ tag "lang:L".toList) ∧ p ['A', 'B'] ['b'] := by
    intro p
    simp only [strings, List.mem_cons, Prod.mk.injEq, Value.text.injEq, reduceCtorEq, and_false,
      List.not_mem_nil, or_false]
    constructor
    · exact fun h => ⟨h _ _ (Or.inl ⟨rfl, rfl⟩), h _ _ (Or.inr ⟨rfl, rfl⟩)⟩
    · rintro ⟨hfirst, hsecond⟩ key content (⟨rfl, rfl⟩ | ⟨rfl, rfl⟩)
      · exact hfirst
      · exact hsecond
  have hsettled : Settled strings :=
    { distinct := by decide
      braceFree := htexts.mpr (by decide)
      tagged := htexts.mpr ⟨((tagged_of_not_mem (by decide)).append (tagged_tag (by decide))).append
        (tagged_tag (by decide)), tagged_of_not_mem (by decide)⟩
      apart := htexts.mpr ⟨htexts.mpr (by decide +kernel), htexts.mpr (by decide +kernel)⟩ }
  have htext : Tagged text := (((tagged_tag (by decide)).append (tagged_tag (by decide))).append
    (tagged_tag (by decide))).append (tagged_tag (by decide))
  have hcursor : Tagged (Cursor.ofText text).current := htext
  obtain ⟨hpass, -, -, -⟩ := renderOn_pass_eq_substitute hstrings hsettled hcursor
  refine ⟨hstrings, hsettled, htext, (hpass _ _ ()).trans ?_⟩
  decide +kernel

end Language

end Stencil
