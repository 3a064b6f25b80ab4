import Stencil.Unicode.Fold

/-!
# Characters without case

A character that no shift of the table moves, and to which none moves another one,
folds to itself, and nothing else folds to it (`fold_eq_iff`). The marks that tags
are made of are such characters, so a text that is compared without regard to case
has them exactly where the other one has (`mem_iff_of_fold_eq`).

Of the characters outside ASCII only two fold into it, the long s and the Kelvin sign
(`toNat_lt_of_fold_lt`). Within ASCII folding keeps letters apart from all else
(`fold_ascii`).
-/

namespace Stencil.Unicode

/-- No shift of `shifts` moves the character `mark`, or another one to it. -/
def Unmoved (shifts : List Shift) (mark : Char) : Prop :=
  0 < mark.toNat ∧ ∀ shift ∈ shifts,
    ¬ (shift.1 ≤ mark.toNat ∧ mark.toNat ≤ shift.2.1) ∧
      ¬ ((shift.1 : Int) + shift.2.2.2 ≤ mark.toNat ∧
        (mark.toNat : Int) ≤ shift.2.1 + shift.2.2.2)

instance (shifts : List Shift) (mark : Char) : Decidable (Unmoved shifts mark) :=
  inferInstanceAs (Decidable (_ ∧ ∀ shift ∈ shifts, _))

/-- No shift of the table `foldShifts` moves the character `mark`, or another one to it. -/
def Uncased (mark : Char) : Prop :=
  0 < mark.toNat ∧ ∀ shift ∈ foldShifts,
    ¬ (shift.1 ≤ mark.toNat ∧ mark.toNat ≤ shift.2.1) ∧
      ¬ ((shift.1 : Int) + shift.2.2.2 ≤ mark.toNat ∧
        (mark.toNat : Int) ≤ shift.2.1 + shift.2.2.2)

instance (mark : Char) : Decidable (Uncased mark) :=
  inferInstanceAs (Decidable (_ ∧ ∀ shift ∈ foldShifts, _))

/-- A number outside all runs is not moved by `shiftOf`, and any other is moved with the run it lies
in. -/
theorem shiftOf_eq_zero_or (n : Nat) :
    ∀ shifts : List Shift, shiftOf shifts n = 0 ∨
      ∃ shift ∈ shifts, shift.1 ≤ n ∧ n ≤ shift.2.1 ∧ shiftOf shifts n = shift.2.2.2
  | [] => Or.inl rfl
  | (first, last, step, distance) :: rest => by
    unfold shiftOf
    split
    next => exact Or.inl rfl
    next hfirst =>
      split
      next hlast =>
        exact Or.inr ⟨_, List.mem_cons_self .., Nat.le_of_not_lt hfirst, hlast.1, rfl⟩
      next =>
        rcases shiftOf_eq_zero_or n rest with hzero | ⟨shift, hmem, hrun⟩
        · exact Or.inl hzero
        · exact Or.inr ⟨shift, List.mem_cons_of_mem _ hmem, hrun⟩

/-- A character that is `Unmoved` stays, and nothing else becomes it. -/
theorem shifted_eq_iff {shifts : List Shift} {mark : Char} (h : Unmoved shifts mark) {c : Char} :
    shifted shifts c = mark ↔ c = mark := by
  obtain ⟨hpos, hruns⟩ := h
  have hmoved := shiftOf_eq_zero_or c.toNat shifts
  constructor
  · intro hshifted
    rw [shifted, Char.ofNat] at hshifted
    by_cases hvalid : ((c.toNat : Int) + shiftOf shifts c.toNat).toNat.isValidChar
    · rw [dif_pos hvalid] at hshifted
      have hcode : ((c.toNat : Int) + shiftOf shifts c.toNat).toNat = mark.toNat :=
        congrArg Char.toNat hshifted
      rcases hmoved with hzero | ⟨shift, hmem, hlow, hhigh, hshift⟩
      · exact Char.toNat_inj.mp (by omega)
      · -- The run would move another character to the mark.
        have hrun := (hruns shift hmem).2
        omega
    · rw [dif_neg hvalid] at hshifted
      have hcode : 0 = mark.toNat := congrArg Char.toNat hshifted
      omega
  · intro hc
    subst hc
    rcases hmoved with hzero | ⟨shift, hmem, hlow, hhigh, -⟩
    · rw [shifted, hzero]
      simp [Char.ofNat_toNat]
    · exact absurd ⟨hlow, hhigh⟩ (hruns shift hmem).1

/-- A character that is `Uncased` folds to itself, and nothing else folds to it. -/
theorem fold_eq_iff {mark : Char} (h : Uncased mark) {c : Char} : fold c = mark ↔ c = mark := by
  have hunmoved : Unmoved foldShifts mark := h
  exact shifted_eq_iff hunmoved

/-- Texts that are equal after `fold` have the characters that are `Uncased` in common. -/
theorem mem_iff_of_fold_eq {mark : Char} (h : Uncased mark) {a b : Text}
    (hfold : a.map fold = b.map fold) : mark ∈ a ↔ mark ∈ b := by
  have hmem : ∀ text : Text, mark ∈ text.map fold ↔ mark ∈ text := by
    intro text
    rw [List.mem_map]
    constructor
    · intro hsome
      obtain ⟨c, hc, heq⟩ := hsome
      rwa [← (fold_eq_iff h).mp heq]
    · exact fun hc => ⟨mark, hc, (fold_eq_iff h).mpr rfl⟩
  rw [← hmem a, ← hmem b, hfold]

/-! ## ASCII -/

/-- The long s, which folds to `s`. -/
def longS : Char := '\u017F'

/-- The Kelvin sign, which folds to `k`. -/
def kelvinSign : Char := '\u212A'

/-- A shift moves no character into ASCII, unless it is one of ASCII itself, the one of `longS` or
the one of `kelvinSign`. -/
def KeepsOutside (shift : Shift) : Prop :=
  shift.2.1 < 128 ∨ shift.1 = shift.2.1 ∧ (shift.1 = 0x17F ∨ shift.1 = 0x212A) ∨
    128 ≤ (shift.1 : Int) + shift.2.2.2 ∧
      ((shift.2.1 : Int) + shift.2.2.2 < 0xD800 ∨
        0xE000 ≤ (shift.1 : Int) + shift.2.2.2 ∧ (shift.2.1 : Int) + shift.2.2.2 < 0x110000)

instance (shift : Shift) : Decidable (KeepsOutside shift) :=
  inferInstanceAs (Decidable (_ ∨ _))

/-- Every shift of `foldShifts` satisfies `KeepsOutside`. -/
theorem keepsOutside_foldShifts : ∀ shift ∈ foldShifts, KeepsOutside shift := by decide +kernel

/-- What `fold` takes into ASCII is in ASCII, or it is `longS` or `kelvinSign`. -/
theorem toNat_lt_of_fold_lt {c : Char} (h : (fold c).toNat < 128) :
    c.toNat < 128 ∨ c = longS ∨ c = kelvinSign := by
  rcases shiftOf_eq_zero_or c.toNat foldShifts with hzero | ⟨shift, hmem, hlow, hhigh, hshift⟩
  · rw [fold, shifted, hzero] at h
    simp only [Int.add_zero, Int.toNat_natCast, Char.ofNat_toNat] at h
    exact Or.inl h
  · rcases keepsOutside_foldShifts shift hmem with hascii | ⟨hone, hwhich⟩ | ⟨hfirst, hlast⟩
    · exact Or.inl (by omega)
    · refine Or.inr (hwhich.imp (fun hlong => ?_) fun hkelvin => ?_)
      · exact Char.toNat_inj.mp (show c.toNat = 0x17F by omega)
      · exact Char.toNat_inj.mp (show c.toNat = 0x212A by omega)
    · -- The shift would move it to a character outside ASCII.
      rw [fold, shifted, hshift] at h
      have hvalid : ((c.toNat : Int) + shift.2.2.2).toNat.isValidChar := by
        rcases hlast with hlast | hlast
        · exact Or.inl (by omega)
        · exact Or.inr (by omega)
      rw [Char.ofNat, dif_pos hvalid] at h
      have hcode : ((c.toNat : Int) + shift.2.2.2).toNat < 128 := h
      omega

/-- Within ASCII `fold` keeps letters letters and digits digits. -/
theorem fold_ascii {c : Char} (h : c.toNat < 128) :
    (fold c).toNat < 128 ∧ (fold c).isAlpha = c.isAlpha ∧ (fold c).isDigit = c.isDigit ∧
      (c.isAlpha = false → fold c = c) := by
  have hall : ∀ n ∈ List.range 128, (fold (Char.ofNat n)).toNat < 128 ∧
      (fold (Char.ofNat n)).isAlpha = (Char.ofNat n).isAlpha ∧
      (fold (Char.ofNat n)).isDigit = (Char.ofNat n).isDigit ∧
      ((Char.ofNat n).isAlpha = false → fold (Char.ofNat n) = Char.ofNat n) := by
    decide +kernel
  have hc := hall c.toNat (List.mem_range.mpr h)
  rwa [Char.ofNat_toNat] at hc

/-- The marks that tags are made of are `Uncased`. -/
theorem uncased_marks : Uncased '{' ∧ Uncased '}' ∧ Uncased ':' := by decide +kernel

/-- The brace that opens a tag has no case. -/
theorem uncased_openBrace : Uncased '{' := uncased_marks.1

/-- The brace that closes a tag has no case. -/
theorem uncased_closeBrace : Uncased '}' := uncased_marks.2.1

/-- The colon of a block tag has no case. -/
theorem uncased_colon : Uncased ':' := uncased_marks.2.2

end Stencil.Unicode
