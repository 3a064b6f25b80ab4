import Stencil.Proofs.Variable.Fill

/-!
# The variables that a text names

`tagNames` lists the names of the variable tags in a text: each name that the grammar of
variables admits and whose tag stands in the text (`mem_tagNames_iff`). Filling in does
not go by that grammar. It goes by the name of the variable, and changes nothing where
no tag names the variable in any form (`fill_of_unnamed`).

What names a variable in a prefixed form is equal to the form's mark and the name but
for case, and so has the same shape, unless it is written with one of the two characters
outside ASCII that fold into it (`isName_of_names_prefixed`).

Theorems:
- `mem_tagNames_iff`: the listed names.
- `fill_of_unnamed`: without a tag of the variable nothing is filled in.
- `isName_iff_of_names`: which tags of a variable are listed under a name of their own.
-/

namespace Stencil.Variable

open Text Unicode

/-! ## The listed names -/

/-- By `openTag?` a variable tag is read exactly where one stands with a name of a variable
inside. -/
theorem openTag?_eq_some_iff {text name rest : Text} :
    openTag? text = some (name, rest) ↔ isName name ∧ text = tag name ++ rest := by
  constructor
  · intro h
    unfold openTag? at h
    split at h
    next c text =>
      split at h
      next halpha =>
        obtain ⟨after, hafter, hpair⟩ := Option.map_eq_some_iff.mp h
        obtain ⟨rfl, rfl⟩ := Prod.mk.inj hpair
        refine ⟨by simp [isName, halpha, List.all_takeWhile], ?_⟩
        have hbrace : text.dropWhile isNameChar = '}' :: after :=
          stripPrefix?_eq_some_iff.mp hafter
        have hspan := List.takeWhile_append_dropWhile (p := isNameChar) (l := text)
        rw [hbrace] at hspan
        simp [tag, hspan]
      next => cases h
    next => cases h
  · intro h
    obtain ⟨hname, rfl⟩ := h
    cases name with
    | nil => cases hname
    | cons c name =>
      simp only [isName, Bool.and_eq_true, List.all_eq_true] at hname
      -- The brace is what ends the reading of the name.
      have hbrace : isNameChar '}' = false := by decide
      simp [tag, openTag?, hname.1, List.takeWhile_append_of_pos hname.2,
        List.dropWhile_append_of_pos hname.2, hbrace, stripPrefix?]

/-- The `tagNames` are the names of variables whose tags stand in the text. -/
theorem mem_tagNames_iff {name text : Text} :
    name ∈ tagNames text ↔ isName name ∧ tag name <:+: text := by
  refine mem_found_iff_infix '{' openTag?_eq_some_iff fun name hname => ?_
  exact ⟨name ++ ['}'], by simp [(braceFree_of_isName hname).1], rfl⟩

/-! ## Where nothing is filled in -/

/-- Where no tag `Names` the variable in a form `fillForm` fills in nothing. -/
theorem fillForm_of_unnamed {form : Form} {name text : Text}
    (h : ∀ inside, form.Names name inside → ¬ tag inside <:+: text) (value : Text) :
    fillForm form name value text = text := by
  have hrefuses : Refuses (readTag? form name) text [] := by
    refine refuses_of_forall fun before c part htext => readTag?_eq_none_iff.mpr ?_
    intro inside rest hnames hpart
    rw [List.append_nil] at hpart
    exact h inside hnames ⟨before, rest, by rw [htext, hpart, List.append_assoc]⟩
  have hfill := fillForm_append_of_refuses hrefuses value
  rwa [fillForm_nil, List.append_nil] at hfill

/-- Where no tag `Names` one of the slots in its form `fillSlots` fills in nothing. -/
theorem fillSlots_of_unnamed {text : Text} :
    ∀ {slots : List Slot},
      (∀ slot ∈ slots, ∀ inside, slot.form.Names slot.name inside → ¬ tag inside <:+: text) →
      fillSlots slots text = text
  | [], _ => rfl
  | slot :: slots, h => by
    obtain ⟨hfirst, hrest⟩ := List.forall_mem_cons.mp h
    show fillSlots slots (fillForm slot.form slot.name slot.value text) = text
    rw [fillForm_of_unnamed hfirst, fillSlots_of_unnamed hrest]

/-- Where no tag `Names` a variable in any form that is filled in `fill` fills in nothing. -/
theorem fill_of_unnamed {name text : Text} {transform : Bool}
    (h : ∀ (form : Form) (inside : Text), (transform = true ∨ form = .bare) →
      form.Names name inside → ¬ tag inside <:+: text) (value : Text) :
    fill name value transform text = text := by
  rw [fill_eq_fillSlots]
  refine fillSlots_of_unnamed fun slot hslot inside hnames => ?_
  obtain ⟨form, hform, rfl⟩ := List.mem_map.mp hslot
  refine h form inside ?_ hnames
  cases transform with
  | true => exact Or.inl rfl
  | false => exact Or.inr (List.mem_singleton.mp hform)

/-! ## Tags of a variable and names of their own -/

/-- Within ASCII `fold` keeps the characters of names. -/
theorem isNameChar_fold {c : Char} (h : c.toNat < 128) : isNameChar (fold c) = isNameChar c := by
  obtain ⟨-, halpha, hdigit, hsame⟩ := fold_ascii h
  cases hc : c.isAlpha with
  | true => simp [isNameChar, Char.isAlphanum, halpha, hc]
  | false => rw [hsame hc]

/-- The letters are those of ASCII. -/
theorem isAlpha_iff {c : Char} :
    c.isAlpha ↔ (65 ≤ c.val ∧ c.val ≤ 90) ∨ (97 ≤ c.val ∧ c.val ≤ 122) := by
  have hletter : c.isAlpha = (decide (65 ≤ c.val ∧ c.val ≤ 90)
      || (decide (97 ≤ c.val) && decide (c.val ≤ 122))) := rfl
  simp only [hletter, Bool.or_eq_true, Bool.and_eq_true, decide_eq_true_eq]

/-- The characters that are `isNameChar` are in ASCII. -/
theorem toNat_lt_of_isNameChar {c : Char} (h : isNameChar c) : c.toNat < 128 := by
  simp only [isNameChar, Char.isAlphanum, Char.isDigit, Bool.or_eq_true, Bool.and_eq_true,
    decide_eq_true_eq, beq_iff_eq, isAlpha_iff] at h
  rcases h with ((⟨-, h⟩ | ⟨-, h⟩) | ⟨-, h⟩) | rfl
  · exact Nat.lt_of_le_of_lt h (by decide)
  · exact Nat.lt_of_le_of_lt h (by decide)
  · exact Nat.lt_of_le_of_lt h (by decide)
  · decide

/-- A character that is equal after `fold` to a character of a name is one itself, unless it is
`longS` or `kelvinSign`. -/
theorem isNameChar_of_fold_eq {c d : Char} (hd : isNameChar d) (hfold : fold c = fold d)
    (hc : c ≠ longS ∧ c ≠ kelvinSign) : isNameChar c ∧ c.isAlpha = d.isAlpha := by
  have hascii := toNat_lt_of_isNameChar hd
  obtain ⟨hbound, halpha, -, -⟩ := fold_ascii hascii
  rcases toNat_lt_of_fold_lt (c := c) (by rwa [hfold]) with hbelow | hlong | hkelvin
  · refine ⟨?_, ?_⟩
    · rw [← isNameChar_fold hbelow, hfold, isNameChar_fold hascii]
      exact hd
    · rw [← (fold_ascii hbelow).2.1, hfold, halpha]
  · exact absurd hlong hc.1
  · exact absurd hkelvin hc.2

/-- No letter is a digit. -/
theorem isDigit_eq_false_of_isAlpha {c : Char} (h : c.isAlpha) : c.isDigit = false := by
  rw [isAlpha_iff] at h
  refine Bool.eq_false_iff.mpr fun hdigit => ?_
  simp only [Char.isDigit, Bool.and_eq_true, decide_eq_true_eq, UInt32.le_iff_toNat_le] at hdigit
  have hhigh : c.val.toNat ≤ 57 := hdigit.2
  rcases h with ⟨hlow, -⟩ | ⟨hlow, -⟩
  · have hletter : 65 ≤ c.val.toNat := UInt32.le_iff_toNat_le.mp hlow
    omega
  · have hletter : 97 ≤ c.val.toNat := UInt32.le_iff_toNat_le.mp hlow
    omega

/-- A name made like those of variables, which may begin with a digit as well. -/
def isWideName : Text → Bool
  | [] => false
  | c :: rest => c.isAlphanum && rest.all isNameChar

/-- A name for which `isName` holds satisfies `isWideName`. -/
theorem isWideName_of_isName {name : Text} (h : isName name) : isWideName name := by
  cases name with
  | nil => cases h
  | cons c rest =>
    simp only [isName, Bool.and_eq_true] at h
    simp [isWideName, Char.isAlphanum, h.1, h.2]

/-- The text begins with a digit, or has one of the characters that fold into ASCII from outside,
`longS` and `kelvinSign`. -/
def OutsideGrammar (inside : Text) : Prop :=
  inside.head?.any Char.isDigit ∨ longS ∈ inside ∨ kelvinSign ∈ inside

instance (inside : Text) : Decidable (OutsideGrammar inside) :=
  inferInstanceAs (Decidable (_ ∨ _))

/-- What `Names` a variable in a prefixed form has the shape of a name, unless it is written with a
character that folds into ASCII from outside. -/
theorem isName_of_names_prefixed {form : Form} {name inside : Text}
    (hname : ∀ c ∈ name, isNameChar c) (hform : form ≠ .bare) (h : form.Names name inside)
    (hlong : longS ∉ inside) (hkelvin : kelvinSign ∉ inside) : isName inside := by
  have hmark : ∃ first rest, form.mark = first :: rest ∧ first.isAlpha ∧
      (first :: rest).all isNameChar := by
    cases form with
    | bare => exact absurd rfl hform
    | plaintext | js | jsPlaintext | urlEncoded => exact ⟨_, _, rfl, by decide, by decide⟩
  obtain ⟨first, rest, heq, hfirst, hrest⟩ := hmark
  have hfold := h.fold_eq
  rw [heq] at hfold
  have hchars : ∀ d ∈ first :: rest ++ name, isNameChar d := by
    intro d hd
    rcases List.mem_append.mp hd with hd | hd
    · exact List.all_eq_true.mp hrest d hd
    · exact hname d hd
  cases inside with
  | nil => simp at hfold
  | cons c inside =>
    have hplain : ∀ e ∈ c :: inside, e ≠ longS ∧ e ≠ kelvinSign := fun e he =>
      ⟨fun heq => hlong (heq ▸ he), fun heq => hkelvin (heq ▸ he)⟩
    obtain ⟨hhead, htail⟩ := List.cons.inj hfold
    have hc := isNameChar_of_fold_eq (hchars first List.mem_cons_self) hhead
      (hplain c List.mem_cons_self)
    simp only [isName, Bool.and_eq_true, List.all_eq_true]
    refine ⟨hc.2.trans hfirst, fun e he => ?_⟩
    -- Each of the other characters folds as one of the mark and the name.
    have hmem : fold e ∈ (rest ++ name).map fold := htail ▸ List.mem_map_of_mem he
    obtain ⟨d, hd, hde⟩ := List.mem_map.mp hmem
    exact (isNameChar_of_fold_eq (hchars d (List.mem_cons_of_mem _ hd)) hde.symm
      (hplain e (List.mem_cons_of_mem _ he))).1

/-- What `Names` a variable has the shape of a name exactly if it is not `OutsideGrammar`: it begins
with no digit and has neither the long s nor the Kelvin sign. -/
theorem isName_iff_of_names {form : Form} {name inside : Text} (hname : isWideName name)
    (h : form.Names name inside) : isName inside ↔ ¬ OutsideGrammar inside := by
  constructor
  · intro hinside hout
    rcases hout with hdigit | hlong | hkelvin
    · cases inside with
      | nil => cases hinside
      | cons c rest =>
        simp only [isName, Bool.and_eq_true] at hinside
        have hother := isDigit_eq_false_of_isAlpha hinside.1
        simp [hother] at hdigit
    · exact not_mem_name hinside (by decide) hlong
    · exact not_mem_name hinside (by decide) hkelvin
  · intro hin
    obtain ⟨hdigit, hlong, hkelvin⟩ : ¬ _ ∧ ¬ _ ∧ ¬ _ := by
      simpa only [OutsideGrammar, not_or] using hin
    cases name with
    | nil => cases hname
    | cons first rest =>
      simp only [isWideName, Char.isAlphanum, Bool.and_eq_true, Bool.or_eq_true] at hname
      by_cases hform : form = .bare
      · subst hform
        obtain rfl : inside = first :: rest := h
        have hfirst : first.isAlpha := hname.1.resolve_right (by simpa using hdigit)
        simp [isName, hfirst, hname.2]
      · refine isName_of_names_prefixed (fun c hc => ?_) hform h hlong hkelvin
        rcases List.mem_cons.mp hc with rfl | hc
        · simp [isNameChar, Char.isAlphanum, hname.1]
        · exact List.all_eq_true.mp hname.2 c hc

end Stencil.Variable
