import Stencil.Variable.Form
import Stencil.Variable.Tag
import Stencil.Proofs.Text.Walk
import Stencil.Proofs.Unicode.Fold

/-!
# What the tags of a variable are, and what they print

A tag is read as one of a variable exactly where what stands between its braces
names the variable in the form that is looked for (`stripTag?_eq_some_iff`). It
names it in at most one form, because the marks of the forms differ in length
(`Form.Names.unique`), and it has no brace if the name of the variable has none.
What a form prints has no opening brace unless the value has one
(`openBrace_not_mem_encode`).

`fillForm` then either prints the value in the place of a tag
(`fillForm_tag_of_names`) or passes over it (`refuses_tag`,
`fillForm_append_of_refuses`).
-/

namespace Stencil.Variable

open Text Unicode

/-- There is no brace in the `text`, neither one that opens nor one that closes. -/
def BraceFree (text : Text) : Prop :=
  '{' ∉ text ∧ '}' ∉ text

instance (text : Text) : Decidable (BraceFree text) :=
  inferInstanceAs (Decidable (_ ∧ _))

/-- A name that the tag of a variable can have: an ASCII letter, then any number of characters that
are `isNameChar`, ASCII letters, digits and hyphens. -/
def isName : Text → Bool
  | [] => false
  | c :: rest => c.isAlpha && rest.all isNameChar

/-- The characters of the name of a variable are `isNameChar`. -/
theorem isNameChar_of_mem_name {name : Text} (h : isName name) : ∀ c ∈ name, isNameChar c := by
  cases name with
  | nil => cases h
  | cons first rest =>
    simp only [isName, Bool.and_eq_true, List.all_eq_true] at h
    obtain ⟨hfirst, hrest⟩ := h
    intro c hc
    rcases List.mem_cons.mp hc with rfl | hc
    · simp [isNameChar, Char.isAlphanum, hfirst]
    · exact hrest c hc

/-- A character that is not `isNameChar` is not in the name of a variable. -/
theorem not_mem_name {name : Text} (h : isName name) {c : Char} (hc : isNameChar c = false) :
    c ∉ name := by
  intro hmem
  rw [isNameChar_of_mem_name h c hmem] at hc
  cases hc

/-- The name of a variable is `BraceFree`. -/
theorem braceFree_of_isName {name : Text} (h : isName name) : BraceFree name :=
  ⟨not_mem_name h (by decide), not_mem_name h (by decide)⟩

/-- The inside of a tag names a variable in a form: the `bare` form by the name as it is, the others
by their `mark` and the name, both without regard to case. -/
def Form.Names : Form → Text → Text → Prop
  | .bare, name, inside => inside = name
  | form, name, inside => inside.map fold = (form.mark ++ name).map fold

instance : (form : Form) → (name inside : Text) → Decidable (form.Names name inside)
  | .bare, name, inside => inferInstanceAs (Decidable (inside = name))
  | .plaintext, _, _ | .js, _, _ | .jsPlaintext, _, _ | .urlEncoded, _, _ =>
    inferInstanceAs (Decidable (_ = _))

/-- Every form is the `bare` one or one of the `prefixed` ones. -/
theorem mem_forms (form : Form) : form ∈ Form.bare :: Form.prefixed := by
  cases form <;> decide

section Decidable

variable {p : Form → Prop} [DecidablePred p]

instance decidableForallForm : Decidable (∀ form, p form) :=
  decidable_of_iff (∀ form ∈ Form.bare :: Form.prefixed, p form)
    ⟨fun h form => h form (mem_forms form), fun h form _ => h form⟩

instance : Decidable (∃ form, p form) :=
  decidable_of_iff (∃ form ∈ Form.bare :: Form.prefixed, p form)
    ⟨fun ⟨form, _, h⟩ => ⟨form, h⟩, fun ⟨form, h⟩ => ⟨form, mem_forms form, h⟩⟩

end Decidable

namespace Form.Names

variable {form other : Form} {name inside : Text}

/-- But for case, what `Names` a variable is the `mark` of the form and the name. -/
theorem fold_eq (h : form.Names name inside) :
    inside.map fold = (form.mark ++ name).map fold := by
  cases form with
  | bare => exact congrArg _ h
  | plaintext | js | jsPlaintext | urlEncoded => exact h

/-- What `Names` a variable is as long as the `mark` of the form and the name. -/
theorem length_eq (h : form.Names name inside) :
    inside.length = form.mark.length + name.length := by
  have hlength := congrArg List.length h.fold_eq
  simpa using hlength

/-- A tag `Names` a variable in at most one form. -/
theorem unique (h : form.Names name inside) (h' : other.Names name inside) : form = other := by
  have hmark : form.mark.length = other.mark.length := by
    have hform := h.length_eq
    have hother := h'.length_eq
    omega
  have hinj : ∀ a b : Form, a.mark.length = b.mark.length → a = b := by
    intro a b
    cases a <;> cases b <;> decide
  exact hinj form other hmark

/-- A character that is `Uncased` and in no `mark` is in what names a variable exactly if it is in
the name. -/
theorem mem_iff (h : form.Names name inside) {mark : Char} (huncased : Uncased mark)
    (hmark : mark ∉ form.mark) : mark ∈ inside ↔ mark ∈ name := by
  rw [mem_iff_of_fold_eq huncased h.fold_eq, List.mem_append]
  exact or_iff_right hmark

/-- What `Names` a variable whose name is `BraceFree` is `BraceFree`. -/
theorem braceFree (h : form.Names name inside) (hname : BraceFree name) : BraceFree inside := by
  have hmarks : ∀ a : Form, '{' ∉ a.mark ∧ '}' ∉ a.mark := by
    intro a
    cases a <;> decide
  rw [BraceFree, h.mem_iff uncased_openBrace (hmarks form).1,
    h.mem_iff uncased_closeBrace (hmarks form).2]
  exact hname

end Form.Names

/-! ## Reading tags -/

/-- By `stripFolded?` a mark is taken off the front where the text begins with something equal but
for case. -/
theorem stripFolded?_eq_some_iff :
    ∀ {mark text rest : Text}, stripFolded? mark text = some rest ↔
      ∃ front, front.map fold = mark.map fold ∧ text = front ++ rest
  | [], text, rest => by simp [stripFolded?]
  | m :: mark, [], rest => by
    simp only [stripFolded?, reduceCtorEq, false_iff]
    intro h
    obtain ⟨front, hfold, htext⟩ := h
    obtain ⟨rfl, -⟩ := List.append_eq_nil_iff.mp htext.symm
    simp at hfold
  | m :: mark, c :: text, rest => by
    unfold stripFolded?
    constructor
    · intro h
      split at h
      next hc =>
        obtain ⟨front, hfold, rfl⟩ := stripFolded?_eq_some_iff.mp h
        refine ⟨c :: front, ?_, rfl⟩
        rw [List.map_cons, List.map_cons, hfold, eq_of_beq hc]
      next => cases h
    · intro h
      obtain ⟨front, hfold, htext⟩ := h
      cases front with
      | nil => simp at hfold
      | cons d front =>
        obtain ⟨rfl, rfl⟩ := List.cons.inj htext
        obtain ⟨hc, hmark⟩ := List.cons.inj hfold
        have hsame : sameFolded m c = true := beq_iff_eq.mpr hc.symm
        rw [if_pos hsame]
        exact stripFolded?_eq_some_iff.mpr ⟨front, hmark, rfl⟩

/-- By `stripTag?` a tag of the variable is read exactly where one stands whose inside `Names` it in
the form. -/
theorem stripTag?_eq_some_iff {form : Form} {name text rest : Text} :
    stripTag? form name text = some rest ↔
      ∃ inside, form.Names name inside ∧ text = tag inside ++ rest := by
  have hbare : stripTag? .bare name text = some rest ↔
      ∃ inside, inside = name ∧ text = tag inside ++ rest := by
    simp [stripTag?, stripPrefix?_eq_some_iff]
  have hfolded : ∀ mark : Text,
      (do
        let inside ← stripPrefix? ['{'] text
        let afterName ← stripFolded? (mark ++ name) inside
        stripPrefix? ['}'] afterName) = some rest ↔
      ∃ inside, inside.map fold = (mark ++ name).map fold ∧ text = tag inside ++ rest := by
    intro mark
    simp only [Option.bind_eq_bind, Option.bind_eq_some_iff, stripPrefix?_eq_some_iff,
      stripFolded?_eq_some_iff]
    constructor
    · intro h
      obtain ⟨_, rfl, _, ⟨inside, hfold, rfl⟩, rfl⟩ := h
      exact ⟨inside, hfold, by simp [tag]⟩
    · intro h
      obtain ⟨inside, hfold, rfl⟩ := h
      exact ⟨_, by simp [tag], _, ⟨inside, hfold, rfl⟩, rfl⟩
  cases form with
  | bare => exact hbare
  | plaintext | js | jsPlaintext | urlEncoded => exact hfolded _

/-- The characters that may stand between the braces of a tag. -/
def isInsideChar (c : Char) : Bool :=
  c != '{' && c != '}'

/-- Any tag at the front of a text: what stands between its braces, read as far as `isInsideChar`
holds, and what follows the tag. -/
def tag? : Text → Option (Text × Text)
  | '{' :: text =>
    (stripPrefix? ['}'] (text.dropWhile isInsideChar)).map fun rest =>
      (text.takeWhile isInsideChar, rest)
  | _ => none

/-- A text that is `BraceFree` is made of characters that are `isInsideChar`. -/
theorem braceFree_iff {text : Text} : BraceFree text ↔ ∀ c ∈ text, isInsideChar c := by
  simp only [BraceFree, isInsideChar, Bool.and_eq_true, bne_iff_ne, ne_eq]
  constructor
  · intro h c hc
    exact ⟨fun heq => h.1 (heq ▸ hc), fun heq => h.2 (heq ▸ hc)⟩
  · exact fun h => ⟨fun hmem => (h _ hmem).1 rfl, fun hmem => (h _ hmem).2 rfl⟩

/-- By `tag?` a tag is read exactly where one stands with no brace inside. -/
theorem tag?_eq_some_iff {text inside rest : Text} :
    tag? text = some (inside, rest) ↔ BraceFree inside ∧ text = tag inside ++ rest := by
  rw [braceFree_iff]
  constructor
  · intro h
    unfold tag? at h
    split at h
    next text =>
      obtain ⟨after, hafter, hpair⟩ := Option.map_eq_some_iff.mp h
      obtain ⟨rfl, rfl⟩ := Prod.mk.inj hpair
      refine ⟨List.all_eq_true.mp List.all_takeWhile, ?_⟩
      have hbrace : text.dropWhile isInsideChar = '}' :: after := stripPrefix?_eq_some_iff.mp hafter
      have hspan := List.takeWhile_append_dropWhile (p := isInsideChar) (l := text)
      rw [hbrace] at hspan
      simp [tag, hspan]
    next => cases h
  · intro h
    obtain ⟨hinside, rfl⟩ := h
    -- The closing brace is what ends the inside.
    have hend : isInsideChar '}' = false := by decide
    simp [tag, tag?, List.takeWhile_append_of_pos hinside, List.dropWhile_append_of_pos hinside,
      hend, stripPrefix?]

/-- A text begins with at most one `tag` whose inside is `BraceFree`. -/
theorem tag_append_inj {a b rest rest' : Text} (ha : BraceFree a) (hb : BraceFree b)
    (h : tag a ++ rest = tag b ++ rest') : a = b ∧ rest = rest' := by
  have hread : tag? (tag a ++ rest) = some (a, rest) := tag?_eq_some_iff.mpr ⟨ha, rfl⟩
  rw [h, tag?_eq_some_iff.mpr ⟨hb, rfl⟩] at hread
  obtain ⟨rfl, rfl⟩ := Prod.mk.inj (Option.some.inj hread)
  exact ⟨rfl, rfl⟩

/-! ## Filling in one form -/

/-- The reader `stripTag?` of the tags of one form of a variable, as `split` takes one. -/
def readTag? (form : Form) (name text : Text) : Option (Unit × Text) :=
  (stripTag? form name text).map fun rest => ((), rest)

variable {form : Form} {name : Text}

/-- By `readTag?` a tag of the variable is not read exactly where none stands. -/
theorem readTag?_eq_none_iff {text : Text} :
    readTag? form name text = none ↔
      ∀ inside rest, form.Names name inside → text ≠ tag inside ++ rest := by
  rw [readTag?, Option.map_eq_none_iff, Option.eq_none_iff_forall_ne_some]
  constructor
  · intro h inside rest hnames htext
    exact h rest (stripTag?_eq_some_iff.mpr ⟨inside, hnames, htext⟩)
  · intro h rest hread
    obtain ⟨inside, hnames, htext⟩ := stripTag?_eq_some_iff.mp hread
    exact h inside rest hnames htext

/-- What `readTag?` reads begins with a brace. -/
theorem beginsWith_readTag? (form : Form) (name : Text) : BeginsWith '{' (readTag? form name) := by
  intro c text hc
  refine readTag?_eq_none_iff.mpr fun inside rest _ htext => ?_
  exact hc (List.cons.inj htext).1

/-- What follows the tag that `readTag?` reads is shorter than what it is read from. -/
theorem shortens_readTag? (form : Form) (name : Text) : Shortens (readTag? form name) := by
  intro text rest _ h
  obtain ⟨after, hafter, hpair⟩ := Option.map_eq_some_iff.mp h
  obtain ⟨-, rfl⟩ := Prod.mk.inj hpair
  obtain ⟨inside, -, rfl⟩ := stripTag?_eq_some_iff.mp hafter
  simp [tag]
  omega

/-- By `fillForm` the value is printed in the place of each tag that `readTag?` reads. -/
theorem fillForm_eq (form : Form) (name value text : Text) :
    fillForm form name value text
      = (split (readTag? form name) text).assemble fun _ => form.encode value :=
  rfl

/-- There is no tag in the empty text. -/
theorem fillForm_nil (form : Form) (name value : Text) : fillForm form name value [] = [] := by
  rw [fillForm_eq, split_nil]
  rfl

/-- A stretch in which no tag of the variable begins stays in `fillForm`. -/
theorem fillForm_append_of_refuses {front rest : Text}
    (h : Refuses (readTag? form name) front rest) (value : Text) :
    fillForm form name value (front ++ rest) = front ++ fillForm form name value rest := by
  rw [fillForm_eq, split_append_of_refuses h, Split.assemble_pushText, ← fillForm_eq]

/-- Where a tag `Names` the variable `fillForm` prints its value. -/
theorem fillForm_tag_of_names {inside : Text} (h : form.Names name inside) (value rest : Text) :
    fillForm form name value (tag inside ++ rest)
      = form.encode value ++ fillForm form name value rest := by
  have hstrip : stripTag? form name (tag inside ++ rest) = some rest :=
    stripTag?_eq_some_iff.mpr ⟨inside, h, rfl⟩
  have hread : readTag? form name (tag inside ++ rest) = some ((), rest) := by
    rw [readTag?, hstrip]
    rfl
  rw [fillForm_eq, split_of_some (shortens_readTag? form name) hread, Split.assemble_pushPiece,
    ← fillForm_eq]

/-- The reader `readTag?` passes over a tag that does not name the variable. -/
theorem refuses_tag (hname : BraceFree name) {inside : Text} (hinside : BraceFree inside)
    (h : ¬ form.Names name inside) (rest : Text) :
    Refuses (readTag? form name) (tag inside) rest := by
  refine ⟨readTag?_eq_none_iff.mpr fun other after hother htext => ?_, ?_⟩
  · obtain ⟨rfl, -⟩ := tag_append_inj hinside (hother.braceFree hname) htext
    exact h hother
  · exact refuses_of_not_mem (beginsWith_readTag? form name) (by simp [hinside.1])

/-! ## What is printed -/

/-- A character comes of a text character by character only if it comes of one of them. -/
theorem openBrace_not_mem_flatMap {write : Char → Text}
    (hwrite : ∀ c, c ≠ '{' → '{' ∉ write c) {text : Text} (h : '{' ∉ text) :
    '{' ∉ text.flatMap write := by
  intro hmem
  obtain ⟨c, hc, hbrace⟩ := List.mem_flatMap.mp hmem
  exact hwrite c (fun heq => h (heq ▸ hc)) hbrace

/-- By `Html.escape` no brace is brought in. -/
theorem openBrace_not_mem_escape {text : Text} (h : '{' ∉ text) : '{' ∉ Html.escape text := by
  refine openBrace_not_mem_flatMap (fun c hc => ?_) h
  unfold Html.escapeChar
  split
  next => decide
  next => decide
  next => decide
  next => decide
  next => simpa using hc.symm

/-- No hexadecimal digit is a brace. -/
theorem openBrace_not_hexDigit {n : Nat} (h : n < 16) :
    '{' ≠ hexDigit n ∧ '{' ≠ capitalHexDigit n := by
  have hall : ∀ m ∈ List.range 16, '{' ≠ hexDigit m ∧ '{' ≠ capitalHexDigit m := by decide
  exact hall n (List.mem_range.mpr h)

/-- By `JsonString.quote` no brace is brought in. -/
theorem openBrace_not_mem_quote {text : Text} (h : '{' ∉ text) : '{' ∉ JsonString.quote text := by
  have hletter : ∀ {c letter : Char}, JsonString.letter? c = some letter → '{' ≠ letter := by
    intro c letter hsome
    unfold JsonString.letter? at hsome
    split at hsome
    all_goals first
      | cases hsome; decide
      | cases hsome
  have hchar : ∀ c, c ≠ '{' → '{' ∉ JsonString.escapeChar c := by
    intro c hc
    unfold JsonString.escapeChar
    split
    next letter hsome => simp [hletter hsome]
    next =>
      split
      next hcontrol =>
        have hhigh := openBrace_not_hexDigit (n := c.toNat / 16) (by omega)
        have hlow := openBrace_not_hexDigit (n := c.toNat % 16) (by omega)
        simp [hhigh.1, hlow.1]
      next => simpa using hc.symm
  have hbody := openBrace_not_mem_flatMap hchar h
  simp [JsonString.quote, hbody]

/-- By `FormEncoding.encode` no brace is brought in. -/
theorem openBrace_not_mem_formEncode {text : Text} (h : '{' ∉ text) :
    '{' ∉ FormEncoding.encode text := by
  have hbyte : ∀ byte, '{' ∉ FormEncoding.escapeByte byte := by
    intro byte
    have hbound := byte.toNat_lt
    have hhigh := openBrace_not_hexDigit (n := byte.toNat / 16) (by omega)
    have hlow := openBrace_not_hexDigit (n := byte.toNat % 16) (by omega)
    simp [FormEncoding.escapeByte, hhigh.2, hlow.2]
  refine openBrace_not_mem_flatMap (fun c hc => ?_) h
  unfold FormEncoding.encodeChar
  split
  next => decide
  next =>
    split
    next => simpa using hc.symm
    next =>
      intro hmem
      obtain ⟨byte, -, hbrace⟩ := List.mem_flatMap.mp hmem
      exact hbyte byte hbrace

/-- What a form prints, by `Form.encode`, has no opening brace if the value has none. -/
theorem openBrace_not_mem_encode {value : Text} (h : '{' ∉ value) (form : Form) :
    '{' ∉ form.encode value := by
  cases form with
  | bare => exact h
  | plaintext => exact openBrace_not_mem_escape h
  | js => exact openBrace_not_mem_quote h
  | jsPlaintext => exact openBrace_not_mem_quote (openBrace_not_mem_escape h)
  | urlEncoded => exact openBrace_not_mem_formEncode h

end Stencil.Variable
