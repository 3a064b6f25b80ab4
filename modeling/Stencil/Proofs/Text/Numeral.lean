import Mathlib.Algebra.Group.Nat.Defs
import Stencil.Text.Numeral

/-!
# Numerals read back

What is written in decimal is read as the number it was: with zeros in front and without,
and with a sign and without. How many characters there are is a matter of the padding
alone while the number is small enough. What is read at all are numerals (`IsNumeral`): one
or more digits behind a sign or none.
-/

namespace Stencil.Text

/-- The number `value` of the digits read so far, with one more digit `c`. -/
def appendDigit? (base value : Nat) (c : Char) : Option Nat := do
  let digit ← digitValue? c
  if digit < base then some (value * base + digit) else none

theorem readNatural?_eq (base : Nat) (text : Text) :
    readNatural? base text
      = if text.isEmpty then none else text.foldlM (appendDigit? base) 0 :=
  rfl

theorem digitValue?_digitChar {digit : Nat} (h : digit < 10) :
    digitValue? (Nat.digitChar digit) = some digit := by
  have hall : ∀ digit < 10, digitValue? (Nat.digitChar digit) = some digit := by decide
  exact hall digit h

theorem appendDigit?_digitChar {digit : Nat} (h : digit < 10) (value : Nat) :
    appendDigit? 10 value (Nat.digitChar digit) = some (value * 10 + digit) := by
  simp [appendDigit?, digitValue?_digitChar h, h]

/-- By `appendDigit?` the number is read back from its `decimal`: the last digit is the remainder,
and what stands before it is the numeral of the quotient. -/
theorem foldlM_decimal (n : Nat) : (decimal n).foldlM (appendDigit? 10) 0 = some n := by
  induction n using Nat.strongRecOn with
  | ind n ih =>
    unfold decimal at ih ⊢
    rw [Nat.toDigits_eq_if (by decide)]
    split
    next hlt =>
      rw [List.foldlM_cons, appendDigit?_digitChar hlt, Nat.zero_mul, Nat.zero_add]
      rfl
    next hle =>
      rw [List.foldlM_append, ih (n / 10) (Nat.div_lt_self (by omega) (by decide))]
      show (appendDigit? 10 (n / 10) (Nat.digitChar (n % 10))).bind _ = _
      rw [appendDigit?_digitChar (Nat.mod_lt n (by decide)), Nat.div_add_mod']
      rfl

theorem foldlM_zeros (count : Nat) :
    (List.replicate count '0').foldlM (appendDigit? 10) 0 = some 0 := by
  induction count with
  | zero => rfl
  | succ count ih => exact ih

/-- For `readNatural?` zeros in front, as `zeroPadded` puts them there, do not count. -/
theorem readNatural?_zeroPadded (width n : Nat) :
    readNatural? 10 (zeroPadded width (decimal n)) = some n := by
  have hne : (zeroPadded width (decimal n)).isEmpty = false := by
    simp [zeroPadded, decimal]
  rw [readNatural?_eq, hne, zeroPadded, List.foldlM_append, foldlM_zeros]
  exact foldlM_decimal n

theorem readNatural?_decimal (n : Nat) : readNatural? 10 (decimal n) = some n := by
  simpa [zeroPadded] using readNatural?_zeroPadded 0 n

/-- What `readNatural?` reads is read by `readInteger?` as well: a sign is no digit. -/
theorem readInteger?_of_readNatural? {base n : Nat} {text : Text}
    (h : readNatural? base text = some n) : readInteger? base text = some (n : Int) := by
  unfold readInteger?
  split
  next => cases h
  next => cases h
  next => simp [h]

theorem readInteger?_neg {base n : Nat} {text : Text} (h : readNatural? base text = some n) :
    readInteger? base ('-' :: text) = some (-n : Int) := by
  simp [readInteger?, h]

theorem readInteger?_plus {base n : Nat} {text : Text} (h : readNatural? base text = some n) :
    readInteger? base ('+' :: text) = some (n : Int) := by
  simp [readInteger?, h]

theorem readInteger?_signedDecimal (n : Int) : readInteger? 10 (signedDecimal n) = some n := by
  unfold signedDecimal
  split
  next hneg =>
    rw [readInteger?_neg (readNatural?_decimal _)]
    congr 1
    omega
  next hpos =>
    rw [readInteger?_of_readNatural? (readNatural?_decimal _)]
    congr 1
    omega

/-! ## What is read -/

/-- The text is a numeral of the integer: `digits`, at least one, behind a sign or none. -/
inductive IsNumeral : Text → Int → Prop
  | plain {digits : Text} (some_digit : digits ≠ []) (all_digits : ∀ c ∈ digits, c.isDigit) :
      IsNumeral digits (Nat.ofDigitChars 10 digits 0)
  | plus {digits : Text} (some_digit : digits ≠ []) (all_digits : ∀ c ∈ digits, c.isDigit) :
      IsNumeral ('+' :: digits) (Nat.ofDigitChars 10 digits 0)
  | minus {digits : Text} (some_digit : digits ≠ []) (all_digits : ∀ c ∈ digits, c.isDigit) :
      IsNumeral ('-' :: digits) (-Nat.ofDigitChars 10 digits 0)

/-- By `appendDigit?` a digit adds its value to ten times what was read before it. -/
theorem appendDigit?_eq_some_iff {value n : Nat} {c : Char} :
    appendDigit? 10 value c = some n ↔ c.isDigit ∧ n = 10 * value + (c.toNat - '0'.toNat) := by
  have hdigit : c.isDigit ↔ '0' ≤ c ∧ c ≤ '9' := by simp [Char.isDigit, Char.le_def]
  rw [hdigit]
  simp only [appendDigit?, Option.bind_eq_bind, Option.bind_eq_some_iff,
    Option.ite_none_right_eq_some, Option.some.injEq]
  have hle : ∀ {low : Char}, low ≤ c → low.toNat ≤ c.toNat := fun h => h
  constructor
  · rintro ⟨digit, hdigit, hlt, rfl⟩
    unfold digitValue? at hdigit
    split at hdigit
    next hrange =>
      obtain rfl := Option.some.inj hdigit
      exact ⟨hrange, by rw [Nat.mul_comm]; rfl⟩
    next =>
      -- A letter counts ten or more.
      split at hdigit
      next hrange =>
        have hlow : 97 ≤ c.toNat := hle hrange.1
        have hvalue := Option.some.inj hdigit
        omega
      next =>
        split at hdigit
        next hrange =>
          have hlow : 65 ≤ c.toNat := hle hrange.1
          have hvalue := Option.some.inj hdigit
          omega
        next => cases hdigit
  · rintro ⟨hrange, rfl⟩
    have hhigh : c.toNat ≤ 57 := hrange.2
    refine ⟨c.toNat - 48, ?_, by omega, ?_⟩
    · rw [digitValue?, if_pos hrange]
    · rw [Nat.mul_comm]
      rfl

/-- By `appendDigit?` digits are read one after the other, to `Nat.ofDigitChars`. -/
theorem foldlM_appendDigit?_eq_some_iff {text : Text} {value n : Nat} :
    text.foldlM (appendDigit? 10) value = some n ↔
      (∀ c ∈ text, c.isDigit) ∧ n = Nat.ofDigitChars 10 text value := by
  induction text generalizing value with
  | nil =>
    show some value = some n ↔ (∀ c ∈ ([] : Text), c.isDigit) ∧ n = value
    rw [Option.some_inj, and_iff_right (List.forall_mem_nil _), eq_comm]
  | cons c rest ih =>
    simp only [List.foldlM_cons, Option.bind_eq_bind, Option.bind_eq_some_iff,
      appendDigit?_eq_some_iff, ih, List.forall_mem_cons]
    constructor
    · rintro ⟨_, ⟨hc, rfl⟩, hrest, rfl⟩
      exact ⟨⟨hc, hrest⟩, rfl⟩
    · rintro ⟨⟨hc, hrest⟩, rfl⟩
      exact ⟨_, ⟨hc, rfl⟩, hrest, rfl⟩

theorem readNatural?_eq_some_iff {text : Text} {n : Nat} :
    readNatural? 10 text = some n ↔
      text ≠ [] ∧ (∀ c ∈ text, c.isDigit) ∧ n = Nat.ofDigitChars 10 text 0 := by
  rw [readNatural?_eq]
  cases text with
  | nil =>
    constructor
    · intro h
      cases h
    · intro h
      exact absurd rfl h.1
  | cons c rest =>
    rw [← foldlM_appendDigit?_eq_some_iff, and_iff_right (List.cons_ne_nil c rest)]
    rfl

/-- **What is read as an integer** by `readInteger?` is an `IsNumeral`, and no other text is. -/
theorem readInteger?_eq_some_iff {text : Text} {n : Int} :
    readInteger? 10 text = some n ↔ IsNumeral text n := by
  constructor
  · intro h
    unfold readInteger? at h
    split at h
    next digits =>
      obtain ⟨value, hread, rfl⟩ := Option.map_eq_some_iff.mp h
      obtain ⟨hne, hdigits, rfl⟩ := readNatural?_eq_some_iff.mp hread
      exact .plus hne hdigits
    next digits =>
      obtain ⟨value, hread, rfl⟩ := Option.map_eq_some_iff.mp h
      obtain ⟨hne, hdigits, rfl⟩ := readNatural?_eq_some_iff.mp hread
      exact .minus hne hdigits
    next =>
      obtain ⟨value, hread, rfl⟩ := Option.map_eq_some_iff.mp h
      obtain ⟨hne, hdigits, rfl⟩ := readNatural?_eq_some_iff.mp hread
      exact .plain hne hdigits
  · rintro (⟨hne, hdigits⟩ | ⟨hne, hdigits⟩ | ⟨hne, hdigits⟩)
    · exact readInteger?_of_readNatural? (readNatural?_eq_some_iff.mpr ⟨hne, hdigits, rfl⟩)
    · exact readInteger?_plus (readNatural?_eq_some_iff.mpr ⟨hne, hdigits, rfl⟩)
    · exact readInteger?_neg (readNatural?_eq_some_iff.mpr ⟨hne, hdigits, rfl⟩)

theorem length_zeroPadded (width : Nat) (text : Text) :
    (zeroPadded width text).length = max width text.length := by
  simp only [zeroPadded, List.length_append, List.length_replicate]
  omega

theorem length_zeroPadded_decimal {width n : Nat} (hwidth : 0 < width) (h : n < 10 ^ width) :
    (zeroPadded width (decimal n)).length = width := by
  have hle : (decimal n).length ≤ width :=
    (Nat.length_toDigits_le_iff (by decide) hwidth).mpr h
  rw [length_zeroPadded, Nat.max_eq_left hle]

end Stencil.Text
