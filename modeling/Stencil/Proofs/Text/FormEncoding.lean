import Stencil.Text.FormEncoding
import Stencil.Proofs.Text.Order
import Stencil.Proofs.Text.Walk

/-!
# Form encoding read back

A form is decoded to bytes: a plus sign is a space, a percent sign with two hexadecimal digits
behind it is the byte that they spell, and everything else stands for its own bytes. So the
bytes of a text come back from its encoded form (`decode_encode`). Plus and percent signs of
the text are no exception, as they are not plain and are written as bytes themselves. Texts
with the same bytes are equal (`utf8_injective`), and so are texts with the same encoded form
(`encode_injective`).
-/

namespace Stencil.FormEncoding

open Text

/-! ## Decoding -/

/-- The byte that the two hexadecimal digits `high` and `low` spell. -/
def byte? (high low : Char) : Option UInt8 := do
  return UInt8.ofNat (16 * (← digitValue? high) + (← digitValue? low))

/-- The bytes that a text in form encoding stands for: `+` is a space, and `%` with two digits
behind it the byte of these by `byte?`. -/
def decode : Text → List UInt8
  | [] => []
  | '+' :: rest => 0x20 :: decode rest
  | '%' :: high :: low :: rest =>
    match byte? high low with
    | some byte => byte :: decode rest
    | none => 0x25 :: decode (high :: low :: rest)
  | c :: rest => String.utf8EncodeChar c ++ decode rest

/-- The text is made of ASCII letters and digits, of `-`, `_`, `.` and `+`, and of percent signs
with two hexadecimal digits behind them, whose letters are capitals. -/
inductive Safe : Text → Prop
  | nil : Safe []
  | plain {c : Char} {rest : Text} (h : c.isAlphanum ∨ c ∈ ['-', '_', '.', '+'])
      (hrest : Safe rest) : Safe (c :: rest)
  | byte {high low : Char} {rest : Text} (hhigh : high ∈ "0123456789ABCDEF".toList)
      (hlow : low ∈ "0123456789ABCDEF".toList) (hrest : Safe rest) :
      Safe ('%' :: high :: low :: rest)

/-! ## Bytes -/

theorem capitalHexDigit_spec {n : Nat} (h : n < 16) :
    digitValue? (capitalHexDigit n) = some n ∧ capitalHexDigit n ∈ "0123456789ABCDEF".toList := by
  have hall : ∀ m < 16, digitValue? (capitalHexDigit m) = some m ∧
      capitalHexDigit m ∈ "0123456789ABCDEF".toList := by decide
  exact hall n h

/-- By `byte?` a byte is read from the two digits that `escapeByte` writes. -/
theorem byte?_escapeByte (byte : UInt8) :
    byte? (capitalHexDigit (byte.toNat / 16)) (capitalHexDigit (byte.toNat % 16)) = some byte := by
  have hbound := byte.toNat_lt
  rw [byte?, (capitalHexDigit_spec (n := byte.toNat / 16) (by omega)).1,
    (capitalHexDigit_spec (n := byte.toNat % 16) (by omega)).1]
  show some (UInt8.ofNat (16 * (byte.toNat / 16) + byte.toNat % 16)) = some byte
  rw [Nat.div_add_mod, UInt8.ofNat_toNat]

/-- By `decode` what `escapeByte` writes is that byte. -/
theorem decode_escapeByte (byte : UInt8) (rest : Text) :
    decode (escapeByte byte ++ rest) = byte :: decode rest := by
  show decode ('%' :: _ :: _ :: rest) = _
  rw [decode, byte?_escapeByte]

/-- By `decode` what `escapeByte` writes for some bytes are those bytes. -/
theorem decode_flatMap_escapeByte (bytes : List UInt8) (rest : Text) :
    decode (bytes.flatMap escapeByte ++ rest) = bytes ++ decode rest := by
  induction bytes with
  | nil => rfl
  | cons byte bytes ih =>
    rw [List.flatMap_cons, List.append_assoc, decode_escapeByte, ih, List.cons_append]

/-- What `escapeByte` writes is `Safe`. -/
theorem safe_flatMap_escapeByte (bytes : List UInt8) {rest : Text} (hrest : Safe rest) :
    Safe (bytes.flatMap escapeByte ++ rest) := by
  induction bytes with
  | nil => exact hrest
  | cons byte bytes ih =>
    have hbound := byte.toNat_lt
    rw [List.flatMap_cons, List.append_assoc]
    exact .byte (capitalHexDigit_spec (by omega)).2 (capitalHexDigit_spec (by omega)).2 ih

/-! ## Characters -/

/-- A character that `isPlain` is neither a plus nor a percent sign. -/
theorem ne_of_isPlain {c : Char} (h : isPlain c) : c ≠ '+' ∧ c ≠ '%' := by
  constructor
  · rintro rfl
    exact absurd h (by decide)
  · rintro rfl
    exact absurd h (by decide)

/-- By `decode` what `encodeChar` writes for a character are its bytes. -/
theorem decode_encodeChar (c : Char) (rest : Text) :
    decode (encodeChar c ++ rest) = String.utf8EncodeChar c ++ decode rest := by
  unfold encodeChar
  by_cases hspace : c = ' '
  · rw [if_pos hspace, hspace]
    rfl
  · rw [if_neg hspace]
    by_cases hplain : isPlain c
    · obtain ⟨hplus, hpercent⟩ := ne_of_isPlain hplain
      rw [if_pos hplain, List.singleton_append, decode]
      · exact hplus
      · exact fun _ _ _ heq => absurd heq hpercent
    · rw [if_neg hplain]
      exact decode_flatMap_escapeByte _ rest

/-- What `encodeChar` writes for a character is `Safe`. -/
theorem safe_encodeChar_append (c : Char) {rest : Text} (hrest : Safe rest) :
    Safe (encodeChar c ++ rest) := by
  unfold encodeChar
  by_cases hspace : c = ' '
  · rw [if_pos hspace]
    exact .plain (Or.inr (by decide)) hrest
  · rw [if_neg hspace]
    by_cases hplain : isPlain c
    · rw [if_pos hplain]
      refine .plain ?_ hrest
      simp only [isPlain, Bool.or_eq_true, beq_iff_eq] at hplain
      rcases hplain with ((halnum | rfl) | rfl) | rfl
      · exact Or.inl halnum
      · exact Or.inr (by decide)
      · exact Or.inr (by decide)
      · exact Or.inr (by decide)
    · rw [if_neg hplain]
      exact safe_flatMap_escapeByte _ hrest

/-! ## Texts -/

/-- **The bytes of a text come back from its encoded form**: `decode` undoes `encode`. -/
theorem decode_encode (text : Text) : decode (encode text) = utf8 text := by
  induction text with
  | nil => rfl
  | cons c text ih =>
    have hcons : encode (c :: text) = encodeChar c ++ encode text := List.flatMap_cons
    rw [hcons, decode_encodeChar, ih]
    rfl

/-- **An encoded text is safe**: `encode` gives a `Safe` one. -/
theorem safe_encode (text : Text) : Safe (encode text) := by
  induction text with
  | nil => exact .nil
  | cons c text ih =>
    have hcons : encode (c :: text) = encodeChar c ++ encode text := List.flatMap_cons
    rw [hcons]
    exact safe_encodeChar_append c ih

/-- Texts with the same encoded form are equal. -/
theorem encode_injective : Function.Injective encode := by
  intro a b h
  refine utf8_injective ?_
  rw [← decode_encode, ← decode_encode, h]

/-- There is no slash in a `Safe` text. -/
theorem Safe.not_mem_slash {text : Text} (h : Safe text) : '/' ∉ text := by
  have hslash : '/' ∉ "0123456789ABCDEF".toList := by decide
  have hdigit : ∀ c ∈ "0123456789ABCDEF".toList, '/' ≠ c := fun c hc heq => hslash (heq ▸ hc)
  induction h with
  | nil => exact List.not_mem_nil
  | plain h _ ih =>
    refine List.not_mem_cons_of_ne_of_not_mem ?_ ih
    rintro rfl
    exact absurd h (by decide)
  | byte hhigh hlow _ ih =>
    refine List.not_mem_cons_of_ne_of_not_mem (by decide) ?_
    refine List.not_mem_cons_of_ne_of_not_mem (hdigit _ hhigh) ?_
    exact List.not_mem_cons_of_ne_of_not_mem (hdigit _ hlow) ih

end Stencil.FormEncoding
