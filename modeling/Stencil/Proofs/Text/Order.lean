import Stencil.Text.Basic

/-!
# Texts in the order of their bytes

`bytesLE` compares texts character by character. That is the lexicographic order of
their UTF-8 bytes (`bytesLE_iff`), because the bytes of a greater character come later
whatever follows them (`utf8EncodeChar_append_lt`): a longer form has a greater first
byte, and in forms of one length the digits of the character stand in their order.

Sorting in that order and dropping repetitions gives the strictly ascending list of the
same texts.

Theorems:
- `bytesLE_iff`: the order is that of the bytes.
- `utf8_injective`: no two texts have the same bytes.
- `mem_eraseReps_mergeSort_iff`, `ascending_eraseReps_mergeSort`: what sorting and
  dropping repetitions gives.
-/

namespace Stencil.Text

/-- The bytes of a text in UTF-8. -/
def utf8 (text : Text) : List UInt8 :=
  text.flatMap String.utf8EncodeChar

/-- The texts stand in the order of their bytes `utf8`, and each stands there once. -/
def Ascending (texts : List Text) : Prop :=
  texts.Pairwise fun a b => utf8 a < utf8 b

/-! ## The order of the bytes -/

/-- Numbers that fit are compared as bytes. -/
theorem ofNat_lt_iff {x y : Nat} (hx : x < 256) (hy : y < 256) :
    UInt8.ofNat x < UInt8.ofNat y ↔ x < y := by
  rw [UInt8.lt_iff_toNat_lt, UInt8.toNat_ofNat', UInt8.toNat_ofNat', Nat.mod_eq_of_lt hx,
    Nat.mod_eq_of_lt hy]

/-- Numbers that fit are told apart as bytes. -/
theorem ofNat_inj {x y : Nat} (hx : x < 256) (hy : y < 256) :
    UInt8.ofNat x = UInt8.ofNat y ↔ x = y := by
  rw [← UInt8.toNat_inj, UInt8.toNat_ofNat', UInt8.toNat_ofNat', Nat.mod_eq_of_lt hx,
    Nat.mod_eq_of_lt hy]

/-- The bytes `String.utf8EncodeChar` of a greater character come later, whatever follows them. -/
theorem utf8EncodeChar_append_lt {a b : Char} (h : a.toNat < b.toNat) (s t : List UInt8) :
    String.utf8EncodeChar a ++ s < String.utf8EncodeChar b ++ t := by
  have hbound : b.toNat < 0x110000 := by
    rcases b.valid with hlow | hhigh
    · exact Nat.lt_trans hlow (by decide)
    · exact hhigh.2
  have hshift : ∀ n : Nat, n / 4096 = n / 64 / 64 ∧ n / 262144 = n / 64 / 64 / 64 := by omega
  have hdigit : ∀ n m : Nat, n < m → n / 64 < m / 64 ∨ n / 64 = m / 64 ∧ n % 64 < m % 64 := by
    omega
  unfold String.utf8EncodeChar
  unfold Char.toNat at h hbound
  generalize a.val.toNat = x at *
  generalize b.val.toNat = y at *
  simp only [hshift]
  by_cases hlong : x ≤ 0xffff
  · repeat' split
    -- Either `a` cannot be as long as it is, or the first bytes differ, or both are short.
    all_goals
      first
      | omega
      | simp (disch := omega) only [List.cons_append, List.nil_append, List.cons_lt_cons_iff,
          ofNat_lt_iff, ofNat_inj]
        omega
  · -- Both take four bytes, which are compared digit by digit.
    have hx : ¬ x ≤ 0x7f ∧ ¬ x ≤ 0x7ff := by omega
    have hy : ¬ y ≤ 0x7f ∧ ¬ y ≤ 0x7ff ∧ ¬ y ≤ 0xffff := by omega
    rw [if_neg hx.1, if_neg hx.2, if_neg hlong, if_neg hy.1, if_neg hy.2.1, if_neg hy.2.2]
    simp (disch := omega) only [List.cons_append, List.nil_append, List.cons_lt_cons_iff,
      ofNat_lt_iff, ofNat_inj]
    rcases hdigit x y h with hfront | hlast
    · rcases hdigit _ _ hfront with hfront | hthird
      · rcases hdigit _ _ hfront with hfirst | hsecond <;> omega
      · omega
    · omega

/-- Two texts of which `bytesLE` says that the first does not come later are equal, or its bytes
come earlier. -/
theorem eq_or_utf8_lt_of_bytesLE :
    ∀ {a b : Text}, bytesLE a b = true → a = b ∨ utf8 a < utf8 b
  | [], [], _ => Or.inl rfl
  | [], c :: b, _ => by
    refine Or.inr ?_
    cases hbytes : utf8 (c :: b) with
    | nil =>
      have hnil := (List.append_eq_nil_iff.mp hbytes).1
      exact absurd hnil String.utf8EncodeChar_ne_nil
    | cons byte bytes => exact List.nil_lt_cons byte bytes
  | c :: a, [], h => by simp [bytesLE] at h
  | c :: a, d :: b, h => by
    unfold bytesLE at h
    split at h
    next heq =>
      subst heq
      rcases eq_or_utf8_lt_of_bytesLE h with rfl | hlt
      · exact Or.inl rfl
      · exact Or.inr (List.append_left_lt hlt)
    next => exact Or.inr (utf8EncodeChar_append_lt (of_decide_eq_true h) (utf8 a) (utf8 b))

/-- The bytes of a text come earlier than those of one that it comes later than by `bytesLE`. -/
theorem utf8_lt_of_bytesLE_eq_false :
    ∀ {a b : Text}, bytesLE a b = false → utf8 b < utf8 a
  | [], b, h => by simp [bytesLE] at h
  | c :: a, [], _ => by
    rcases eq_or_utf8_lt_of_bytesLE (a := []) (b := c :: a) rfl with heq | hlt
    · cases heq
    · exact hlt
  | c :: a, d :: b, h => by
    unfold bytesLE at h
    split at h
    next heq =>
      subst heq
      exact List.append_left_lt (utf8_lt_of_bytesLE_eq_false h)
    next hne =>
      have hcode : c.toNat ≠ d.toNat := fun heq => hne (Char.toNat_inj.mp heq)
      have hle : ¬ c.toNat < d.toNat := of_decide_eq_false h
      exact utf8EncodeChar_append_lt (by omega) (utf8 b) (utf8 a)

/-- By `bytesLE` texts are compared by their bytes `utf8`. -/
theorem bytesLE_iff {a b : Text} : bytesLE a b ↔ utf8 a ≤ utf8 b := by
  constructor
  · intro h
    rcases eq_or_utf8_lt_of_bytesLE h with rfl | hlt
    · exact List.le_refl _
    · exact List.le_of_lt hlt
  · intro h
    refine Decidable.byContradiction fun hne => ?_
    exact h (utf8_lt_of_bytesLE_eq_false (Bool.eq_false_iff.mpr hne))

/-- A text is told by its bytes `utf8`. -/
theorem utf8_injective : Function.Injective utf8 := by
  intro a b h
  cases hle : bytesLE a b with
  | true =>
    rcases eq_or_utf8_lt_of_bytesLE hle with heq | hlt
    · exact heq
    · rw [h] at hlt
      exact absurd hlt (List.lt_irrefl _)
  | false =>
    have hlt := utf8_lt_of_bytesLE_eq_false hle
    rw [h] at hlt
    exact absurd hlt (List.lt_irrefl _)

/-! ## Sorting and dropping repetitions -/

/-- Texts that `mergeSort bytesLE` has sorted ascend, some of which may be equal. -/
theorem pairwise_mergeSort_bytesLE (texts : List Text) :
    (texts.mergeSort bytesLE).Pairwise fun a b => bytesLE a b := by
  refine List.pairwise_mergeSort (fun a b c hab hbc => ?_) (fun a b => ?_) texts
  · exact bytesLE_iff.mpr (List.le_trans (bytesLE_iff.mp hab) (bytesLE_iff.mp hbc))
  · rw [Bool.or_eq_true, bytesLE_iff, bytesLE_iff]
    exact List.le_total (utf8 a) (utf8 b)

/-- By `eraseReps` repetitions are dropped one text after the other. -/
theorem eraseReps_cons_cons (a b : Text) (texts : List Text) :
    (a :: b :: texts).eraseReps
      = if a = b then (b :: texts).eraseReps else a :: (b :: texts).eraseReps := by
  -- What was kept so far stands before what is kept of the rest.
  have hloop : ∀ (rest : List Text) (last : Text) (kept : List Text),
      List.eraseRepsBy.loop (· == ·) last rest kept
        = kept.reverse ++ List.eraseRepsBy.loop (· == ·) last rest [] := by
    intro rest
    induction rest with
    | nil => simp [List.eraseRepsBy.loop]
    | cons next rest ih =>
      intro last kept
      unfold List.eraseRepsBy.loop
      split
      next => exact ih last kept
      next =>
        rw [ih next (last :: kept), ih next [last]]
        simp
  show List.eraseRepsBy.loop (· == ·) a (b :: texts) [] = _
  unfold List.eraseRepsBy.loop
  by_cases hab : a = b
  · subst hab
    simp [List.eraseReps, List.eraseRepsBy]
  · rw [if_neg hab, beq_false_of_ne hab]
    exact hloop texts b [a]

/-- By `eraseReps` no text is dropped altogether. -/
theorem mem_eraseReps_iff {text : Text} :
    ∀ {texts : List Text}, text ∈ texts.eraseReps ↔ text ∈ texts
  | [] => Iff.rfl
  | [a] => Iff.rfl
  | a :: b :: texts => by
    rw [eraseReps_cons_cons]
    split
    next heq =>
      subst heq
      rw [mem_eraseReps_iff]
      simp
    next => rw [List.mem_cons, List.mem_cons, mem_eraseReps_iff]

/-- By `eraseReps` texts in order become `Ascending`. -/
theorem ascending_eraseReps :
    ∀ {texts : List Text}, texts.Pairwise (fun a b => bytesLE a b) → Ascending texts.eraseReps
  | [], _ => List.Pairwise.nil
  | [a], _ => List.pairwise_singleton _ a
  | a :: b :: texts, h => by
    obtain ⟨hfirst, hrest⟩ := List.pairwise_cons.mp h
    have hascending := ascending_eraseReps hrest
    rw [eraseReps_cons_cons]
    split
    next => exact hascending
    next hne =>
      -- The first text comes before the second, and the second is not after the others.
      have hlt : utf8 a < utf8 b :=
        (eq_or_utf8_lt_of_bytesLE (hfirst b List.mem_cons_self)).resolve_left hne
      refine List.pairwise_cons.mpr ⟨fun c hc => ?_, hascending⟩
      rcases List.mem_cons.mp (mem_eraseReps_iff.mp hc) with rfl | hc
      · exact hlt
      · rcases eq_or_utf8_lt_of_bytesLE ((List.pairwise_cons.mp hrest).1 c hc) with rfl | hlater
        · exact hlt
        · exact List.lt_trans hlt hlater

/-- The list that `mergeSort` and `eraseReps` make has the texts that there were. -/
theorem mem_eraseReps_mergeSort_iff {text : Text} {texts : List Text} :
    text ∈ (texts.mergeSort bytesLE).eraseReps ↔ text ∈ texts := by
  rw [mem_eraseReps_iff, List.mem_mergeSort]

/-- The list that `mergeSort` and `eraseReps` make is `Ascending`. -/
theorem ascending_eraseReps_mergeSort (texts : List Text) :
    Ascending (texts.mergeSort bytesLE).eraseReps :=
  ascending_eraseReps (pairwise_mergeSort_bytesLE texts)

end Stencil.Text
