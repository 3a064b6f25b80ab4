import Stencil.Variable.Fill
import Stencil.Proofs.Variable.Substitute

/-!
# Filling in variables as one pass

The variables of a map are filled in one after the other, each in up to five forms,
and every step sees the text as the steps before it left it. On a text in which each
brace opens a tag all of this is one pass over the tags, as long as no step prints
something in which a later one finds a tag.

For a whole map that is so when the values have no opening brace
(`fillFields_eq_substitute`): `entries` lists the texts of the map with those of the
maps inside it in their places, and each tag is printed by the first entry whose name
it is a form of. For one variable it is so for every value that is `Settled`
(`fill_eq_substitute`). It is not so for every value: a value that is itself a tag of
the variable in another form is filled in again (`fill_ne_substitute`).
-/

namespace Stencil

/-! ## The entries of a map -/

mutual

/-- The texts that a value under `key` stands for, each with its own key; a `.list` stands for
none. -/
def Value.entries (key : Text) : Value → List (Text × Text)
  | .text content => [(key, content)]
  | .map fields => Fields.entries fields
  | .list _ => []

/-- The texts of a map with their keys, those of the maps inside it in their places. -/
def Fields.entries : List (Text × Value) → List (Text × Text)
  | [] => []
  | (key, value) :: rest => Value.entries key value ++ Fields.entries rest

end

namespace Variable

open Text

/-! ## The slots of an entry -/

/-- The slots of a name and its value, in the order in which they are filled in: the `bare` one, and
with `transform` those of `Form.prefixed`. -/
def slotsOf (transform : Bool) (entry : Text × Text) : List Slot :=
  (.bare :: if transform then Form.prefixed else []).map fun form => ⟨form, entry.1, entry.2⟩

/-- By `fill` a variable is filled in slot by slot, as its `slotsOf` say. -/
theorem fill_eq_fillSlots (name value : Text) (transform : Bool) (text : Text) :
    fill name value transform text = fillSlots (slotsOf transform (name, value)) text := by
  cases transform <;> rfl

mutual

/-- By `fillValue` a value under a key is filled in slot by slot. -/
theorem fillValue_eq_fillSlots (transform : Bool) (key : Text) :
    ∀ (value : Value) (text : Text), fillValue transform key value text
      = fillSlots ((value.entries key).flatMap (slotsOf transform)) text
  | .text content, text => by
    rw [fillValue, fill_eq_fillSlots, Value.entries, List.flatMap_singleton]
  | .map fields, text => by
    rw [fillValue, Value.entries]
    exact fillFields_eq_fillSlots transform fields text
  | .list items, text => by
    rw [fillValue, Value.entries]
    rfl

/-- By `fillFields` the variables of a map are filled in slot by slot. -/
theorem fillFields_eq_fillSlots (transform : Bool) :
    ∀ (fields : List (Text × Value)) (text : Text), fillFields transform fields text
      = fillSlots ((Fields.entries fields).flatMap (slotsOf transform)) text
  | [], text => by
    rw [fillFields, Fields.entries]
    rfl
  | (key, value) :: rest, text => by
    rw [fillFields, fillFields_eq_fillSlots transform rest,
      fillValue_eq_fillSlots transform key value, Fields.entries, List.flatMap_append,
      fillSlots_append]

end

/-- What a name and its value print in the place of the tag `inside`, if this is a form of the
name. -/
def entryPrint? (transform : Bool) (entry : Text × Text) (inside : Text) : Option Text :=
  firstPrint? (slotsOf transform entry) inside

/-- What `entryPrint?` prints for a tag is the value in a form in which the tag names it. -/
theorem exists_names_of_entryPrint? {transform : Bool} {entry : Text × Text}
    {inside printed : Text} (h : entryPrint? transform entry inside = some printed) :
    ∃ form : Form, form.Names entry.1 inside ∧ printed = form.encode entry.2 := by
  obtain ⟨slot, hslot, hprint⟩ := List.exists_of_findSome?_eq_some h
  obtain ⟨form, -, rfl⟩ := List.mem_map.mp hslot
  rw [Slot.print?, Option.ite_none_right_eq_some, Option.some_inj] at hprint
  exact ⟨form, hprint.1, hprint.2.symm⟩

/-- By `entryPrint?` nothing is printed for a tag that is no form of the name. -/
theorem entryPrint?_eq_none_iff {entry : Text × Text} {inside : Text} :
    entryPrint? true entry inside = none ↔ ∀ form : Form, ¬ form.Names entry.1 inside := by
  constructor
  · intro h form hnames
    have hslot : Slot.mk form entry.1 entry.2 ∈ slotsOf true entry :=
      List.mem_map.mpr ⟨form, mem_forms form, rfl⟩
    have hprint := List.findSome?_eq_none_iff.mp h _ hslot
    rw [Slot.print?, if_pos hnames] at hprint
    cases hprint
  · intro h
    refine Option.eq_none_iff_forall_ne_some.mpr fun printed hprint => ?_
    obtain ⟨form, hnames, -⟩ := exists_names_of_entryPrint? hprint
    exact h form hnames

/-- By `entryPrint?` a tag that is a form of the name prints the value in that form. -/
theorem entryPrint?_eq_some_iff {entry : Text × Text} {inside printed : Text} :
    entryPrint? true entry inside = some printed ↔
      ∃ form : Form, form.Names entry.1 inside ∧ printed = form.encode entry.2 := by
  constructor
  · exact exists_names_of_entryPrint?
  · intro h
    obtain ⟨form, hnames, rfl⟩ := h
    cases hprint : entryPrint? true entry inside with
    | none => exact absurd hnames (entryPrint?_eq_none_iff.mp hprint form)
    | some printed =>
      -- The tag names the variable in one form only.
      obtain ⟨other, hother, rfl⟩ := exists_names_of_entryPrint? hprint
      rw [hother.unique hnames]

/-- What the first of the `entries` prints that the tag `inside` is a form of. -/
def entriesPrint? (transform : Bool) (entries : List (Text × Text)) (inside : Text) :
    Option Text :=
  entries.findSome? fun entry => entryPrint? transform entry inside

/-- What `entriesPrint?` prints for a tag is the value of an entry in a form in which the tag names
it. -/
theorem exists_names_of_entriesPrint? {transform : Bool} {entries : List (Text × Text)}
    {inside printed : Text} (h : entriesPrint? transform entries inside = some printed) :
    ∃ entry ∈ entries, ∃ form : Form,
      form.Names entry.1 inside ∧ printed = form.encode entry.2 := by
  obtain ⟨entry, hentry, hprint⟩ := List.exists_of_findSome?_eq_some h
  exact ⟨entry, hentry, exists_names_of_entryPrint? hprint⟩

/-- The `slotsOf` entries in a row print what `entriesPrint?` prints. -/
theorem firstPrint?_flatMap_slotsOf (transform : Bool) (entries : List (Text × Text)) :
    firstPrint? (entries.flatMap (slotsOf transform)) = entriesPrint? transform entries := by
  funext inside
  induction entries with
  | nil => rfl
  | cons entry rest ih =>
    rw [firstPrint?, List.flatMap_cons, List.findSome?_append, entriesPrint?, List.findSome?_cons]
    show (entryPrint? transform entry inside).or
        (firstPrint? (rest.flatMap (slotsOf transform)) inside) = _
    rw [ih]
    cases entryPrint? transform entry inside <;> rfl

/-- Slots with values without an opening brace print nothing in which another one finds a tag: each
`Shuns` what those before it print. -/
theorem pairwise_shuns {slots : List Slot} (h : ∀ slot ∈ slots, '{' ∉ slot.value) :
    slots.Pairwise fun earlier later => later.Shuns (earlier.form.encode earlier.value) := by
  refine List.pairwise_of_forall_mem_list fun earlier hearlier later _ => ?_
  exact later.shuns_of_not_mem (openBrace_not_mem_encode (h earlier hearlier) earlier.form)

/-- Entries whose names are `BraceFree`, and without opening braces in their values, are filled in
by one pass. -/
theorem fillSlots_flatMap_slotsOf (transform : Bool) {entries : List (Text × Text)}
    (hentries : ∀ entry ∈ entries, BraceFree entry.1 ∧ '{' ∉ entry.2)
    {text : Text} (htext : Tagged text) :
    fillSlots (entries.flatMap (slotsOf transform)) text
      = substitute (entriesPrint? transform entries) text := by
  have hslots : ∀ slot ∈ entries.flatMap (slotsOf transform),
      BraceFree slot.name ∧ '{' ∉ slot.value := by
    intro slot hslot
    obtain ⟨entry, hentry, hmem⟩ := List.mem_flatMap.mp hslot
    obtain ⟨form, -, rfl⟩ := List.mem_map.mp hmem
    exact hentries entry hentry
  rw [← firstPrint?_flatMap_slotsOf]
  exact fillSlots_eq_substitute (fun slot hslot => (hslots slot hslot).1)
    (pairwise_shuns fun slot hslot => (hslots slot hslot).2) htext

/-! ## One variable -/

/-- In what a form of the variable prints no tag of a form begins that is filled in after it,
whatever stands behind it: each of the `slotsOf` it `Shuns` what those before it print. -/
def Settled (name value : Text) : Prop :=
  (slotsOf true (name, value)).Pairwise fun earlier later =>
    later.Shuns (earlier.form.encode earlier.value)

/-- **A variable is filled in by one pass**, if its value is `Settled`: each tag that is a form of
the name is replaced by what `entryPrint?` has for it, the value in that form as the second part
says, and nothing that is printed is looked at again. -/
theorem fill_eq_substitute {name value : Text} (hname : BraceFree name)
    (hsettled : Settled name value) {text : Text} (htext : Tagged text) :
    fill name value true text = substitute (entryPrint? true (name, value)) text ∧
      ∀ inside printed, entryPrint? true (name, value) inside = some printed ↔
        ∃ form : Form, form.Names name inside ∧ printed = form.encode value := by
  refine ⟨?_, fun inside printed => entryPrint?_eq_some_iff⟩
  rw [fill_eq_fillSlots]
  refine fillSlots_eq_substitute (fun slot hslot => ?_) hsettled htext
  obtain ⟨form, -, rfl⟩ := List.mem_map.mp hslot
  exact hname

/-- The tag of another variable is a value that is `Settled`. -/
theorem settled_otherTag : Settled ['x'] (tag ['y']) := by
  have hother : ∀ form : Form, Slot.Shuns ⟨form, ['x'], tag ['y']⟩ (tag ['y']) := by
    intro form rest
    have hname : BraceFree ['x'] := by decide
    refine refuses_tag hname (by decide) (fun hnames => ?_) rest
    cases form <;> revert hnames <;> decide +kernel
  refine List.pairwise_of_forall_mem_list fun earlier hearlier later hlater rest => ?_
  obtain ⟨form, -, rfl⟩ := List.mem_map.mp hearlier
  obtain ⟨form', -, rfl⟩ := List.mem_map.mp hlater
  have hbrace : BeginsWith '{' (readTag? form' ['x']) := beginsWith_readTag? form' ['x']
  cases form with
  | bare | plaintext => exact hother form' rest
  | js | jsPlaintext =>
    have hquoted : Refuses (readTag? form' ['x']) (['"'] ++ tag ['y'] ++ ['"']) rest :=
      refuses_append (refuses_append (refuses_of_not_mem hbrace (by decide)) (hother form' _))
        (refuses_of_not_mem hbrace (by decide))
    exact hquoted
  | urlEncoded => exact refuses_of_not_mem hbrace (by decide)

/-- A value that is the tag of another variable is printed and then left alone. -/
theorem fill_eq_substitute_otherTag :
    BraceFree ['x'] ∧ Settled ['x'] (tag ['y']) ∧ Tagged (tag ['x'] ++ tag ['j', 's', 'X']) ∧
      fill ['x'] (tag ['y']) true (tag ['x'] ++ tag ['j', 's', 'X'])
        = tag ['y'] ++ ['"'] ++ tag ['y'] ++ ['"'] := by
  have hname : BraceFree ['x'] := by decide
  have htext : Tagged (tag ['x'] ++ tag ['j', 's', 'X']) :=
    (tagged_tag hname).append (tagged_tag (by decide))
  refine ⟨hname, settled_otherTag, htext,
    (fill_eq_substitute hname settled_otherTag htext).1.trans ?_⟩
  decide +kernel

/-- **Not every value is printed as it is.** When the value is itself a tag of the variable in a
form that is filled in later, and so is not `Settled`, what is printed is filled in again. -/
theorem fill_ne_substitute :
    ¬ ∀ name value text : Text, BraceFree name → Tagged text →
      fill name value true text = substitute (entryPrint? true (name, value)) text := by
  intro h
  have htext : Tagged (tag ['x']) := tagged_tag (by decide)
  have hfill := h ['x'] (tag ['J', 'S', 'x']) (tag ['x']) (by decide) htext
  revert hfill
  decide +kernel

/-! ## The variables of a map -/

/-- The tag `inside` is a form of the name of at most one of the `entries`. -/
def NamedOnce (entries : List (Text × Text)) (inside : Text) : Prop :=
  ∀ a ∈ entries, ∀ b ∈ entries, ∀ form other : Form,
    form.Names a.1 inside → other.Names b.1 inside → a = b

instance (entries : List (Text × Text)) (inside : Text) : Decidable (NamedOnce entries inside) :=
  inferInstanceAs (Decidable (∀ a ∈ entries, ∀ b ∈ entries, _))

/-- What `entriesPrint?` prints for a tag is what the first entry prints that the tag is a form
of. -/
theorem entriesPrint?_eq_some_iff {entries : List (Text × Text)} {inside printed : Text} :
    entriesPrint? true entries inside = some printed ↔
      ∃ before name value after, ∃ form : Form, entries = before ++ (name, value) :: after ∧
        form.Names name inside ∧ printed = form.encode value ∧
        ∀ earlier ∈ before, ∀ other : Form, ¬ other.Names earlier.1 inside := by
  rw [entriesPrint?, List.findSome?_eq_some_iff]
  constructor
  · intro h
    obtain ⟨before, entry, after, hentries, hprint, hbefore⟩ := h
    obtain ⟨form, hnames, hprinted⟩ := entryPrint?_eq_some_iff.mp hprint
    exact ⟨before, entry.1, entry.2, after, form, hentries, hnames, hprinted,
      fun earlier hearlier => entryPrint?_eq_none_iff.mp (hbefore earlier hearlier)⟩
  · intro h
    obtain ⟨before, name, value, after, form, hentries, hnames, hprinted, hbefore⟩ := h
    exact ⟨before, (name, value), after, hentries,
      entryPrint?_eq_some_iff.mpr ⟨form, hnames, hprinted⟩,
      fun earlier hearlier => entryPrint?_eq_none_iff.mpr (hbefore earlier hearlier)⟩

/-- When the tag is `NamedOnce`, it does not matter where in the list its entry is. -/
theorem entriesPrint?_eq_some_iff_exists_mem {entries : List (Text × Text)} {inside : Text}
    (honce : NamedOnce entries inside) {printed : Text} :
    entriesPrint? true entries inside = some printed ↔
      ∃ entry ∈ entries, entryPrint? true entry inside = some printed := by
  constructor
  · exact List.exists_of_findSome?_eq_some
  · intro h
    obtain ⟨entry, hentry, hprint⟩ := h
    cases hfirst : entriesPrint? true entries inside with
    | none =>
      have hnone := List.findSome?_eq_none_iff.mp hfirst entry hentry
      rw [hprint] at hnone
      cases hnone
    | some other =>
      obtain ⟨first, hmem, hother⟩ := List.exists_of_findSome?_eq_some hfirst
      obtain ⟨form, hnames, -⟩ := exists_names_of_entryPrint? hprint
      obtain ⟨form', hnames', -⟩ := exists_names_of_entryPrint? hother
      rw [honce first hmem entry hentry form' form hnames' hnames, hprint] at hother
      exact hother.symm

/-- **The variables of a map are filled in by one pass** `substitute`, if no name has a brace and no
value an opening one (`hentries`). The second part says what `entriesPrint?` has for each tag: the
value of the first entry whose name it is a form of, in that form; the other tags stay. The third
part: if each tag of the text is `NamedOnce`, another map `fields'` with the same entries in another
order does the same. -/
theorem fillFields_eq_substitute {fields : List (Text × Value)}
    (hentries : ∀ entry ∈ Fields.entries fields, BraceFree entry.1 ∧ '{' ∉ entry.2)
    {text : Text} (htext : Tagged text) :
    fillFields true fields text = substitute (entriesPrint? true (Fields.entries fields)) text ∧
      (∀ inside printed,
        entriesPrint? true (Fields.entries fields) inside = some printed ↔
          ∃ before name value after, ∃ form : Form,
            Fields.entries fields = before ++ (name, value) :: after ∧
            form.Names name inside ∧ printed = form.encode value ∧
            ∀ earlier ∈ before, ∀ other : Form, ¬ other.Names earlier.1 inside) ∧
      ∀ fields', (Fields.entries fields').Perm (Fields.entries fields) →
        (∀ inside ∈ insides text, NamedOnce (Fields.entries fields) inside) →
        fillFields true fields' text = fillFields true fields text := by
  have hpass : ∀ fields', (Fields.entries fields').Perm (Fields.entries fields) →
      fillFields true fields' text
        = substitute (entriesPrint? true (Fields.entries fields')) text := by
    intro fields' hperm
    rw [fillFields_eq_fillSlots]
    exact fillSlots_flatMap_slotsOf true
      (fun entry hentry => hentries entry (hperm.mem_iff.mp hentry)) htext
  refine ⟨hpass fields (List.Perm.refl _), fun inside printed => entriesPrint?_eq_some_iff, ?_⟩
  intro fields' hperm honce
  rw [hpass fields' hperm, hpass fields (List.Perm.refl _)]
  refine substitute_congr fun inside hinside => Option.ext fun printed => ?_
  have honce' : NamedOnce (Fields.entries fields') inside := fun a ha b hb =>
    honce inside hinside a (hperm.mem_iff.mp ha) b (hperm.mem_iff.mp hb)
  rw [entriesPrint?_eq_some_iff_exists_mem honce',
    entriesPrint?_eq_some_iff_exists_mem (honce inside hinside)]
  simp only [hperm.mem_iff]

/-- A map with another map inside it and a list, with names that are forms of each
other, read from the front and from the back. -/
theorem fillFields_eq_substitute_nested :
    let fields : List (Text × Value) :=
      [(['g'], .map [(['J', 'S', 'x'], .text ['a'])]), (['l'], .list [.text ['{']]),
        (['x'], .text ['<', '"'])]
    let text := tag ['j', 's', 'X'] ++ tag ['x'] ++ tag ['l'] ++ tag ['J', 'S', 'J', 'S', 'x']
    (∀ entry ∈ Fields.entries fields, BraceFree entry.1 ∧ '{' ∉ entry.2) ∧ Tagged text ∧
      fillFields true fields text
        = ['"', '<', '\\', '"', '"', '<', '"'] ++ tag ['l'] ++ ['"', 'a', '"'] ∧
      fillFields true fields.reverse text = fillFields true fields text := by
  intro fields text
  have hentries : ∀ entry ∈ Fields.entries fields, BraceFree entry.1 ∧ '{' ∉ entry.2 := by
    decide +kernel
  have htext : Tagged text :=
    (((tagged_tag (by decide)).append (tagged_tag (by decide))).append
      (tagged_tag (by decide))).append (tagged_tag (by decide))
  have hperm : (Fields.entries fields.reverse).Perm (Fields.entries fields) := by
    decide +kernel
  have honce : ∀ inside ∈ insides text, NamedOnce (Fields.entries fields) inside := by
    decide +kernel
  obtain ⟨hpass, -, horder⟩ := fillFields_eq_substitute hentries htext
  refine ⟨hentries, htext, hpass.trans ?_, horder fields.reverse hperm honce⟩
  decide +kernel

end Variable

end Stencil
