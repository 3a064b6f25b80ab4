import Stencil.Embed.ModuleName
import Stencil.Proofs.Unicode.Alphanumeric

/-!
# Names in small letters and underscores

Each character adds its letters to the name so far, which are in lower case if it is a
capital, and none if it is neither a letter nor a number; between the two there may be an
underscore, but not behind another one (`addToName_eq`). The letters have no underscore in
them, so there are never two in a row, neither after one step nor in the end
(`singleUnderscores_addToName`). A word in front of a digit ends with an underscore, but a
digit is none.

Characters that are neither letters nor numbers all add the same, and more than one of them
no more than one (`foldl_addToName_gap`). A name of small letters, digits and single
underscores is built up to itself (`foldl_addToName_eq_append`); the name that is made of an
ASCII text is such a name.

Theorems:
- `snakeCased`: how a name in small letters and underscores is spelled, and what it does
  not depend on.
-/

namespace Stencil.Embed

open Unicode

/-! ## Single underscores -/

/-- No underscore follows another one. -/
def SingleUnderscores (text : Text) : Prop :=
  text.IsChain fun a b => a = '_' → b ≠ '_'

instance : DecidablePred SingleUnderscores := fun text =>
  inferInstanceAs (Decidable (text.IsChain fun a b => a = '_' → b ≠ '_'))

namespace SingleUnderscores

variable {text rest : Text}

/-- With `SingleUnderscores` two underscores in a row are nowhere in the text. -/
theorem not_infix_pair (h : SingleUnderscores text) : ¬ ['_', '_'] <:+: text := by
  intro hinfix
  obtain ⟨before, after, rfl⟩ := hinfix
  have hpair := (List.isChain_append.mp (List.isChain_append.mp h).1).2.1
  exact List.isChain_pair.mp hpair rfl rfl

/-- Behind the text may stand a `rest` without two underscores in a row, if there is not one at the
end of the text and one at the beginning of the rest (`hseam`). -/
theorem append (h : SingleUnderscores text) (hrest : SingleUnderscores rest)
    (hseam : text.getLast? = some '_' → '_' ∉ rest.head?) : SingleUnderscores (text ++ rest) :=
  List.IsChain.append h hrest fun _ hlast _ hfirst ha hb =>
    hseam (ha ▸ hlast) (hb ▸ hfirst)

/-- Behind the text may stand anything without underscores. -/
theorem append_of_not_mem (h : SingleUnderscores text) (hrest : '_' ∉ rest) :
    SingleUnderscores (text ++ rest) := by
  have hpairs : rest.Pairwise fun a b => a = '_' → b ≠ '_' :=
    List.pairwise_of_forall_mem_list fun _ _ b hb _ heq => hrest (heq ▸ hb)
  exact h.append hpairs.isChain fun _ hfirst => hrest (List.mem_of_mem_head? hfirst)

end SingleUnderscores

/-! ## One character -/

/-- What a character adds to the name apart from underscores: its `lower` letters if it is a
capital, itself if it `isAlphanumeric`. -/
def letters (c : Char) : Text :=
  if isUppercase c then lower c else if isAlphanumeric c then [c] else []

/-- There is no underscore in the `letters` of a character. -/
theorem underscore_not_mem_letters (c : Char) : '_' ∉ letters c := by
  unfold letters
  split
  next hupper =>
    intro hmem
    rw [eq_of_underscore_mem_lower hmem] at hupper
    exact absurd (isAlphanumeric_of_isUppercase hupper) (by simp [isAlphanumeric_underscore])
  next =>
    split
    next halnum =>
      intro hmem
      rw [← List.mem_singleton.mp hmem, isAlphanumeric_underscore] at halnum
      cases halnum
    next => exact List.not_mem_nil

/-- **A character adds its `letters` to the name**, and before them at most one underscore, the
`bar`, which does not stand behind another one. -/
theorem addToName_eq (name : Text) (c : Char) :
    ∃ bar, addToName name c = name ++ (bar ++ letters c) ∧
      (bar = [] ∨ bar = ['_'] ∧ name.getLast? ≠ some '_') := by
  unfold addToName letters
  have hends : ¬ endsWithUnderscore name → name.getLast? ≠ some '_' := by
    intro h heq
    exact h (beq_iff_eq.mpr heq)
  split
  next =>
    split
    next => exact ⟨[], rfl, Or.inl rfl⟩
    next hbar =>
      rw [Bool.or_eq_true, not_or] at hbar
      exact ⟨['_'], List.append_assoc .., Or.inr ⟨rfl, hends hbar.2⟩⟩
  next =>
    split
    next => exact ⟨[], rfl, Or.inl rfl⟩
    next =>
      split
      next => exact ⟨[], (List.append_nil name).symm, Or.inl rfl⟩
      next hbar => exact ⟨['_'], rfl, Or.inr ⟨rfl, hends hbar⟩⟩

/-- With `addToName` one more character brings no second underscore in a row. -/
theorem singleUnderscores_addToName {name : Text} (h : SingleUnderscores name) (c : Char) :
    SingleUnderscores (addToName name c) := by
  obtain ⟨bar, heq, hbar⟩ := addToName_eq name c
  rw [heq, ← List.append_assoc]
  refine SingleUnderscores.append_of_not_mem ?_ (underscore_not_mem_letters c)
  rcases hbar with rfl | ⟨rfl, hends⟩
  · rwa [List.append_nil]
  · exact h.append (List.isChain_singleton _) fun hlast => absurd hlast hends

/-- The characters of names in ASCII: small letters, digits and underscores. -/
def IsWordChar (c : Char) : Prop :=
  c.isLower ∨ c.isDigit ∨ c = '_'

instance : DecidablePred IsWordChar := fun _ => inferInstanceAs (Decidable (_ ∨ _))

/-- A character of ASCII adds characters that are `IsWordChar`. -/
theorem isWordChar_of_mem_addToName {name : Text} (hname : ∀ d ∈ name, IsWordChar d) {c : Char}
    (hc : c.toNat < 128) : ∀ d ∈ addToName name c, IsWordChar d := by
  have hletters : ∀ d ∈ letters c, IsWordChar d := by
    obtain ⟨hupper, hother⟩ := lower_ascii hc
    unfold letters
    split
    next h => exact fun d hd => Or.inl (List.all_eq_true.mp (hupper h) d hd)
    next h =>
      split
      next halnum =>
        intro d hd
        rw [List.mem_singleton.mp hd]
        exact (hother.mp ⟨Bool.eq_false_iff.mpr h, halnum⟩).imp id Or.inl
      next => exact fun d hd => absurd hd List.not_mem_nil
  obtain ⟨bar, heq, hbar⟩ := addToName_eq name c
  have hword : ∀ d ∈ bar, IsWordChar d := by
    rcases hbar with rfl | ⟨rfl, -⟩
    · exact fun d hd => absurd hd List.not_mem_nil
    · exact fun d hd => Or.inr (Or.inr (List.mem_singleton.mp hd))
  rw [heq]
  exact List.forall_mem_append.mpr ⟨hname, List.forall_mem_append.mpr ⟨hword, hletters⟩⟩

/-- A character that is not `isAlphanumeric` sees to it that the name `endsWithUnderscore`. -/
theorem addToName_of_not_alphanumeric {c : Char} (h : isAlphanumeric c = false) (name : Text) :
    addToName name c = if endsWithUnderscore name then name else name ++ ['_'] := by
  have hupper : ¬ isUppercase c := by
    intro hupper
    rw [isAlphanumeric_of_isUppercase hupper] at h
    cases h
  rw [addToName, if_neg hupper, if_neg (Bool.eq_false_iff.mp h)]

/-- A character that `IsWordChar` is added as it is, unless it is a second underscore. -/
theorem addToName_of_isWordChar {name : Text} {c : Char} (hc : IsWordChar c)
    (hends : name.getLast? = some '_' → c ≠ '_') : addToName name c = name ++ [c] := by
  rcases or_assoc.mpr hc with hletter | rfl
  · obtain ⟨hupper, halnum⟩ :=
      (lower_ascii (toNat_lt_of_isLower_or_isDigit hletter)).2.mpr hletter
    rw [addToName, if_neg (Bool.eq_false_iff.mp hupper), if_pos halnum]
  · have hnot : ¬ endsWithUnderscore name := fun h => hends (eq_of_beq h) rfl
    rw [addToName_of_not_alphanumeric isAlphanumeric_underscore, if_neg hnot]

/-! ## All characters -/

/-- The words that `addToName` makes of a name have no two underscores in a row. -/
theorem singleUnderscores_foldl (text : Text) :
    ∀ {name : Text}, SingleUnderscores name → SingleUnderscores (text.foldl addToName name) := by
  induction text with
  | nil => exact fun h => h
  | cons c text ih => exact fun h => ih (singleUnderscores_addToName h c)

/-- The words that `addToName` makes of a name in ASCII are spelled with characters that are
`IsWordChar`. -/
theorem isWordChar_foldl {text : Text} (htext : ∀ c ∈ text, c.toNat < 128) :
    ∀ {name : Text}, (∀ d ∈ name, IsWordChar d) →
      ∀ d ∈ text.foldl addToName name, IsWordChar d := by
  induction text with
  | nil => exact fun h => h
  | cons c text ih =>
    obtain ⟨hc, htext⟩ := List.forall_mem_cons.mp htext
    exact fun h => ih htext (isWordChar_of_mem_addToName h hc)

/-- Where the name `endsWithUnderscore`, characters that are not `isAlphanumeric` add nothing. -/
theorem foldl_addToName_of_endsWithUnderscore {gap name : Text} (hname : endsWithUnderscore name)
    (h : ∀ c ∈ gap, isAlphanumeric c = false) : gap.foldl addToName name = name := by
  induction gap with
  | nil => rfl
  | cons c gap ih =>
    obtain ⟨hc, hgap⟩ := List.forall_mem_cons.mp h
    rw [List.foldl_cons, addToName_of_not_alphanumeric hc, if_pos hname, ih hgap]

/-- **A gap of characters that are not `isAlphanumeric` adds what one underscore adds.** -/
theorem foldl_addToName_gap {gap : Text} (hgap : gap ≠ []) (h : ∀ c ∈ gap, isAlphanumeric c = false)
    (name : Text) : gap.foldl addToName name = addToName name '_' := by
  obtain ⟨c, rest, rfl⟩ := List.exists_cons_of_ne_nil hgap
  obtain ⟨hc, hrest⟩ := List.forall_mem_cons.mp h
  have hsame : addToName name c = addToName name '_' := by
    rw [addToName_of_not_alphanumeric hc, addToName_of_not_alphanumeric isAlphanumeric_underscore]
  have hends : endsWithUnderscore (addToName name '_') := by
    rw [addToName_of_not_alphanumeric isAlphanumeric_underscore]
    split
    next hwords => exact hwords
    next => simp [endsWithUnderscore]
  rw [List.foldl_cons, hsame, foldl_addToName_of_endsWithUnderscore hends hrest]

/-- **A text of small letters, digits and single underscores is added as it is** by `addToName`. -/
theorem foldl_addToName_eq_append :
    ∀ {text name : Text}, (∀ c ∈ text, IsWordChar c) → SingleUnderscores (name ++ text) →
      text.foldl addToName name = name ++ text
  | [], name, _, _ => (List.append_nil name).symm
  | c :: text, name, htext, hsingle => by
    obtain ⟨hc, htext⟩ := List.forall_mem_cons.mp htext
    have hends : name.getLast? = some '_' → c ≠ '_' := by
      intro hlast
      exact (List.isChain_append.mp hsingle).2.2 _ hlast c rfl rfl
    have hstep : name ++ c :: text = name ++ [c] ++ text := by simp
    rw [hstep] at hsingle ⊢
    rw [List.foldl_cons, addToName_of_isWordChar hc hends, foldl_addToName_eq_append htext hsingle]

/-! ## Names -/

/-- By `snakeCase` a name is its words, or the words behind `theme_` if they begin with a digit. -/
theorem snakeCase_cases (name : Text) :
    (∀ c ∈ (name.foldl addToName []).head?, c.isDigit = false) ∧
        snakeCase name = name.foldl addToName [] ∨
      (∃ c ∈ (name.foldl addToName []).head?, c.isDigit) ∧
        snakeCase name = "theme_".toList ++ name.foldl addToName [] := by
  have heq : snakeCase name = if (name.foldl addToName []).head?.any Char.isDigit
      then "theme_".toList ++ name.foldl addToName [] else name.foldl addToName [] := rfl
  rw [heq]
  generalize name.foldl addToName [] = words
  cases words with
  | nil => exact Or.inl ⟨fun _ hc => absurd hc (Option.not_mem_none _), rfl⟩
  | cons first rest =>
    cases hdigit : first.isDigit with
    | true => exact Or.inr ⟨⟨first, rfl, hdigit⟩, if_pos hdigit⟩
    | false =>
      refine Or.inl ⟨fun c hc => ?_, if_neg (Bool.eq_false_iff.mp hdigit)⟩
      rwa [← Option.some.inj hc]

/-- How the `snakeCase` of a name is spelled, and what it does not depend on. -/
structure SnakeCased (name : Text) : Prop where
  /-- There are no two underscores in a row in `snakeCase name`. -/
  single : ¬ ['_', '_'] <:+: snakeCase name
  /-- The first character is no digit. -/
  first : ∀ c ∈ (snakeCase name).head?, c.isDigit = false
  /-- It makes no difference whether there is an underscore or a row of any other characters
  that are neither letters nor numbers. -/
  gap : ∀ before gap after, name = before ++ gap ++ after → gap ≠ [] →
    (∀ c ∈ gap, isAlphanumeric c = false) →
    snakeCase (before ++ ['_'] ++ after) = snakeCase name
  /-- Made of a name in ASCII, there are only small letters, digits and underscores. -/
  ascii : (∀ c ∈ name, c.toNat < 128) → ∀ c ∈ snakeCase name, IsWordChar c
  /-- Made of a name in ASCII, it is made into itself. -/
  again : (∀ c ∈ name, c.toNat < 128) → snakeCase (snakeCase name) = snakeCase name

/-- In `snakeCase name` there are no two underscores in a row. -/
theorem singleUnderscores_snakeCase (name : Text) : SingleUnderscores (snakeCase name) := by
  have hwords : SingleUnderscores (name.foldl addToName []) := singleUnderscores_foldl name .nil
  rcases snakeCase_cases name with ⟨-, heq⟩ | ⟨⟨c, hfirst, hdigit⟩, heq⟩
  · rwa [heq]
  · rw [heq]
    refine SingleUnderscores.append (by decide) hwords fun _ hunderscore => ?_
    obtain rfl : c = '_' := Option.mem_unique hfirst hunderscore
    exact absurd hdigit (by decide)

/-- The first character of `snakeCase name` is no digit. -/
theorem isDigit_head?_snakeCase (name : Text) :
    ∀ c ∈ (snakeCase name).head?, c.isDigit = false := by
  rcases snakeCase_cases name with ⟨hfirst, heq⟩ | ⟨-, heq⟩
  · rwa [heq]
  · rw [heq]
    exact fun c hc => Option.mem_unique hc (rfl : 't' ∈ some 't') ▸ rfl

/-- Made of a name in ASCII, `snakeCase name` has only characters that are `IsWordChar`. -/
theorem isWordChar_of_mem_snakeCase {name : Text} (h : ∀ c ∈ name, c.toNat < 128) :
    ∀ c ∈ snakeCase name, IsWordChar c := by
  have hwords : ∀ c ∈ name.foldl addToName [], IsWordChar c :=
    isWordChar_foldl h fun c hc => absurd hc List.not_mem_nil
  rcases snakeCase_cases name with ⟨-, heq⟩ | ⟨-, heq⟩
  · rwa [heq]
  · have hfront : "theme_".toList.all fun c => decide (IsWordChar c) := by decide
    rw [heq]
    refine List.forall_mem_append.mpr ⟨fun c hc => ?_, hwords⟩
    exact of_decide_eq_true (List.all_eq_true.mp hfront c hc)

/-- By `snakeCase` small letters, digits and single underscores are made into themselves, unless
there is a digit first. -/
theorem snakeCase_eq_self {name : Text} (hword : ∀ c ∈ name, IsWordChar c)
    (hsingle : SingleUnderscores name) (hfirst : ∀ c ∈ name.head?, c.isDigit = false) :
    snakeCase name = name := by
  have hwords : name.foldl addToName [] = name := foldl_addToName_eq_append hword hsingle
  rcases snakeCase_cases name with ⟨-, heq⟩ | ⟨⟨c, hc, hdigit⟩, -⟩
  · rw [heq, hwords]
  · rw [hwords] at hc
    rw [hfirst c hc] at hdigit
    cases hdigit

/-- **A name in small letters and underscores**, as `SnakeCased` tells for every `name`: its
`snakeCase` has no two underscores in a row and no digit first, and does not tell which characters
stood between its words. Made of a name in ASCII, it is made into itself. -/
theorem snakeCased (name : Text) : SnakeCased name where
  single := (singleUnderscores_snakeCase name).not_infix_pair
  first := isDigit_head?_snakeCase name
  gap before gap after hname hgap hnot := by
    have hwords : (before ++ ['_'] ++ after).foldl addToName [] = name.foldl addToName [] := by
      rw [hname]
      simp only [List.foldl_append]
      rw [foldl_addToName_gap hgap hnot]
      rfl
    rw [snakeCase, snakeCase, hwords]
  ascii := isWordChar_of_mem_snakeCase
  again h := snakeCase_eq_self (isWordChar_of_mem_snakeCase h) (singleUnderscores_snakeCase name)
    (isDigit_head?_snakeCase name)

example : snakeCase "4Ever -Young".toList = "theme_4_ever_young".toList := by decide

end Stencil.Embed
