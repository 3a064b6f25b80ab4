import Stencil.Block.Tag
import Stencil.Proofs.Text.Walk

/-!
# What the tag readers accept

`openTag?` reads exactly the open tags whose names the pattern admits
(`openTag?_eq_some_iff`). A text begins with at most one of them, so a tag can be
told from what follows it (`openTag_append_inj`).
-/

namespace Stencil.Block

open Text

/-- A well-formed name: an ASCII letter followed by ASCII letters and digits. -/
def isName : Text → Bool
  | [] => false
  | c :: rest => c.isAlpha && rest.all Char.isAlphanum

/-- The pattern asks for blocks of this name: `any` for those for which `isName` holds. -/
def Pattern.admits : Pattern → Text → Bool
  | .any, name => isName name
  | .named wanted, name => name == wanted

/-- The pattern `named wanted` admits the name `wanted` only. -/
@[simp]
theorem admits_named_iff {wanted name : Text} :
    (Pattern.named wanted).admits name ↔ name = wanted :=
  beq_iff_eq

/-- The pattern `any` admits the well-formed names. -/
@[simp]
theorem admits_any_iff {name : Text} : Pattern.any.admits name ↔ isName name :=
  Iff.rfl

/-- By `ofTag` a name that is not empty stands for the blocks of that name. -/
theorem ofTag_of_ne_nil {name : Text} (h : name ≠ []) : Pattern.ofTag name = .named name := by
  cases name with
  | nil => exact absurd rfl h
  | cons c rest => rfl

/-- A well-formed name is not empty. -/
theorem ne_nil_of_isName {name : Text} (h : isName name) : name ≠ [] := by
  rintro rfl
  cases h

/-- By `ofTag` a well-formed name stands for the blocks of that name. -/
theorem ofTag_of_isName {name : Text} (h : isName name) :
    Pattern.ofTag name = .named name :=
  ofTag_of_ne_nil (ne_nil_of_isName h)

/-- The characters of a well-formed name are letters and digits. -/
theorem isAlphanum_of_mem_name {name : Text} (h : isName name) :
    ∀ c ∈ name, c.isAlphanum := by
  cases name with
  | nil => simp
  | cons c rest =>
    simp only [isName, Bool.and_eq_true, List.all_eq_true] at h
    intro d hd
    rcases List.mem_cons.mp hd with rfl | hd
    · simp [Char.isAlphanum, h.1]
    · exact h.2 d hd

/-- A character for which `Char.isAlphanum` fails is not in a well-formed name. -/
theorem not_mem_name {name : Text} (h : isName name) {c : Char} (hc : c.isAlphanum = false) :
    c ∉ name := by
  intro hmem
  rw [isAlphanum_of_mem_name h c hmem] at hc
  cases hc

/-- By `readName?` a well-formed name is read up to the brace behind it, and nothing else is
read. -/
theorem readName?_brace_iff {text name rest : Text} :
    readName? text = some (name, '}' :: rest) ↔ isName name ∧ text = name ++ '}' :: rest := by
  constructor
  · intro h
    have htext := @Pattern.readName?_eq_append .any _ _ _ h
    refine ⟨?_, htext⟩
    cases text with
    | nil => simp [readName?] at h
    | cons c text =>
      simp only [readName?] at h
      split at h
      next halpha =>
        obtain ⟨rfl, -⟩ := Prod.mk.inj (Option.some.inj h)
        simp [isName, halpha, List.all_takeWhile]
      next => cases h
  · intro h
    obtain ⟨hname, rfl⟩ := h
    cases name with
    | nil => simp [isName] at hname
    | cons c name =>
      simp only [isName, Bool.and_eq_true, List.all_eq_true] at hname
      -- The brace is what ends the reading of letters and digits.
      have hbrace : ¬ ('}' : Char).isAlphanum := by decide
      simp [readName?, hname.1, List.takeWhile_append_of_pos hname.2,
        List.dropWhile_append_of_pos hname.2, hbrace]

/-- By `Pattern.readName?` a name that the pattern `admits` is read up to the brace behind it, and
nothing else is read. -/
theorem Pattern.readName?_brace_iff {pattern : Pattern} {text name rest : Text} :
    pattern.readName? text = some (name, '}' :: rest) ↔
      pattern.admits name ∧ text = name ++ '}' :: rest := by
  cases pattern with
  | any => exact Block.readName?_brace_iff
  | named wanted =>
    constructor
    · intro h
      obtain ⟨after, hafter, hpair⟩ := Option.map_eq_some_iff.mp h
      obtain ⟨rfl, rfl⟩ := Prod.mk.inj hpair
      exact ⟨beq_self_eq_true wanted, stripPrefix?_eq_some_iff.mp hafter⟩
    · intro h
      obtain ⟨hname, rfl⟩ := h
      obtain rfl : name = wanted := eq_of_beq hname
      exact Option.map_eq_some_iff.mpr ⟨'}' :: rest, stripPrefix?_eq_some_iff.mpr rfl, rfl⟩

/-- The reader `openTag?` gives a name exactly where an `openTag` stands whose name the pattern
`admits`. -/
theorem openTag?_eq_some_iff {pattern : Pattern} {text name rest : Text} :
    openTag? pattern text = some (name, rest) ↔
      pattern.admits name ∧ text = openTag name ++ rest := by
  constructor
  · intro h
    refine ⟨?_, openTag?_eq_append h⟩
    simp only [openTag?, Option.bind_eq_bind, Option.bind_eq_some_iff, Option.pure_def,
      Option.some.injEq, Prod.mk.injEq] at h
    obtain ⟨afterMark, -, ⟨read, afterName⟩, hname, last, hlast, rfl, rfl⟩ := h
    obtain rfl : afterName = '}' :: last := stripPrefix?_eq_some_iff.mp hlast
    exact (Pattern.readName?_brace_iff.mp hname).1
  · intro h
    obtain ⟨hname, rfl⟩ := h
    have hmark : stripPrefix? openMark (openTag name ++ rest) = some (name ++ '}' :: rest) :=
      stripPrefix?_eq_some_iff.mpr (by simp [openTag])
    have hread : pattern.readName? (name ++ '}' :: rest) = some (name, '}' :: rest) :=
      Pattern.readName?_brace_iff.mpr ⟨hname, rfl⟩
    have hbrace : stripPrefix? ['}'] ('}' :: rest) = some rest :=
      stripPrefix?_eq_some_iff.mpr rfl
    simp [openTag?, hmark, hread, hbrace]

/-- A text begins with at most one `openTag` that a pattern `admits`. -/
theorem openTag_append_inj {pattern : Pattern} {a b rest rest' : Text}
    (ha : pattern.admits a) (hb : pattern.admits b)
    (h : openTag a ++ rest = openTag b ++ rest') : a = b ∧ rest = rest' := by
  have hread : openTag? pattern (openTag a ++ rest) = some (a, rest) :=
    openTag?_eq_some_iff.mpr ⟨ha, rfl⟩
  rw [h, openTag?_eq_some_iff.mpr ⟨hb, rfl⟩] at hread
  obtain ⟨rfl, rfl⟩ := Prod.mk.inj (Option.some.inj hread)
  exact ⟨rfl, rfl⟩

end Stencil.Block
