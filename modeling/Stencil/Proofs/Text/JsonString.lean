import Stencil.Text.JsonString
import Stencil.Proofs.Text.Walk

/-!
# JSON string literals read back

`read?` is a reader of the string literals of JSON, as its grammar has them: a
character stands for itself unless it is a quote, a backslash or a control character, and
behind a backslash stands a letter, or a unit of UTF-16 in four hexadecimal digits, of which
characters above U+FFFF take two. The literals that `quote` writes use only a part of that.
Each written character is read as the character that it was, whatever follows it
(`readChar?_escapeChar`), and no character is written with a quote in front; so the first
bare quote is the one at the end, and the whole literal is read as the text that it was
(`read?_quote`).
-/

namespace Stencil.JsonString

open Text

/-! ## The grammar of literals -/

/-- What a letter behind a backslash stands for. -/
def lettered? : Char → Option Char
  | '"' => some '"'
  | '\\' => some '\\'
  | '/' => some '/'
  | 'b' => some '\x08'
  | 'f' => some '\x0c'
  | 'n' => some '\n'
  | 'r' => some '\r'
  | 't' => some '\t'
  | _ => none

/-- A unit of UTF-16 in four hexadecimal digits at the front of a text, and what follows it. -/
def readUnit? : Text → Option (Nat × Text)
  | a :: b :: c :: d :: rest => (readNatural? 16 [a, b, c, d]).map fun unit => (unit, rest)
  | _ => none

/-- A character given by one unit of `readUnit?`, or by a pair of surrogates, and what follows
it. -/
def readUnits? (text : Text) : Option (Char × Text) := do
  let (unit, rest) ← readUnit? text
  if unit.isValidChar then return (Char.ofNat unit, rest)
  else if 0xDC00 ≤ unit then none
  else
    let (low, rest) ← readUnit? (← stripPrefix? ['\\', 'u'] rest)
    if 0xDC00 ≤ low ∧ low < 0xE000 then
      return (Char.ofNat (0x10000 + 0x400 * (unit - 0xD800) + (low - 0xDC00)), rest)
    else none

/-- One character of a literal at the front of a text, and what follows it: `readUnits?` reads what
is behind `\u`, and `lettered?` the letter behind any other backslash. -/
def readChar? : Text → Option (Char × Text)
  | [] => none
  | '\\' :: 'u' :: rest => readUnits? rest
  | '\\' :: letter :: rest => (lettered? letter).map fun c => (c, rest)
  | c :: rest => if c = '"' ∨ c = '\\' ∨ c.toNat < 0x20 then none else some (c, rest)

/-- The characters that `readChar?` reads up to the quote that ends a literal, and what follows
it. -/
def readBody? (text : Text) : Option (Text × Text) :=
  match stripPrefix? ['"'] text with
  | some rest => some ([], rest)
  | none =>
    match readChar? text with
    | none => none
    | some (c, rest) =>
      if _h : rest.length < text.length then
        (readBody? rest).map fun (content, after) => (c :: content, after)
      else none
termination_by text.length

/-- The text that a `literal` spells, if the whole of it is one. -/
def read? (literal : Text) : Option Text := do
  match ← readBody? (← stripPrefix? ['"'] literal) with
  | (content, []) => return content
  | _ => none

/-! ## Characters -/

/-- By `lettered?` the letter that `letter?` has for a character stands for that character. -/
theorem lettered?_of_letter? {c letter : Char} (h : letter? c = some letter) :
    lettered? letter = some c ∧ letter ≠ 'u' := by
  unfold letter? at h
  split at h
  all_goals first
    | cases h; decide
    | cases h

/-- By `readUnit?` a control character is read from its four digits. -/
theorem readUnit?_control {n : Nat} (h : n < 0x20) (rest : Text) :
    readUnit? ('0' :: '0' :: hexDigit (n / 16) :: hexDigit (n % 16) :: rest) = some (n, rest) := by
  have hall : ∀ m ∈ List.range 0x20,
      readNatural? 16 ['0', '0', hexDigit (m / 16), hexDigit (m % 16)] = some m := by decide
  rw [readUnit?, hall n (List.mem_range.mpr h)]
  rfl

/-- A character for which `letter?` has none is no quote and no backslash. -/
theorem ne_of_letter?_eq_none {c : Char} (h : letter? c = none) : c ≠ '"' ∧ c ≠ '\\' := by
  constructor
  · rintro rfl
    cases h
  · rintro rfl
    cases h

/-- A character that stands for itself is read by `readChar?` as it is. -/
theorem readChar?_self {c : Char} (h : letter? c = none) (hc : ¬ c.toNat < 0x20) (rest : Text) :
    readChar? (c :: rest) = some (c, rest) := by
  obtain ⟨hquote, hbackslash⟩ := ne_of_letter?_eq_none h
  rw [readChar?]
  · rw [if_neg]
    rintro (heq | heq | hlt)
    · exact hquote heq
    · exact hbackslash heq
    · exact hc hlt
  · exact fun _ heq => absurd heq hbackslash
  · exact fun _ _ heq => absurd heq hbackslash

/-- **A character is read as what was written**: `readChar?` undoes `escapeChar`. -/
theorem readChar?_escapeChar (c : Char) (rest : Text) :
    readChar? (escapeChar c ++ rest) = some (c, rest) := by
  unfold escapeChar
  split
  next letter hletter =>
    obtain ⟨hread, hu⟩ := lettered?_of_letter? hletter
    show readChar? ('\\' :: letter :: rest) = _
    rw [readChar?, hread]
    · rfl
    · exact hu
  next hnone =>
    by_cases hcontrol : c.toNat < 0x20
    · rw [if_pos hcontrol]
      show readUnits? ('0' :: '0' :: hexDigit (c.toNat / 16) :: hexDigit (c.toNat % 16) :: rest) = _
      have hvalid : c.toNat.isValidChar := Or.inl (by omega)
      rw [readUnits?, readUnit?_control hcontrol]
      show (if c.toNat.isValidChar then _ else _) = _
      rw [if_pos hvalid, Char.ofNat_toNat]
      rfl
    · rw [if_neg hcontrol]
      exact readChar?_self hnone hcontrol rest

/-- What `escapeChar` writes has no quote at its front, and no control character. -/
theorem escapeChar_spec (c : Char) :
    (∃ first rest, escapeChar c = first :: rest ∧ first ≠ '"') ∧
      ∀ d ∈ escapeChar c, 0x20 ≤ d.toNat := by
  have hdigit : ∀ n < 16, 0x20 ≤ (hexDigit n).toNat := by decide
  unfold escapeChar
  split
  next letter hletter =>
    have hprinted : 0x20 ≤ letter.toNat := by
      unfold letter? at hletter
      split at hletter
      all_goals first
        | cases hletter; decide
        | cases hletter
    refine ⟨⟨_, _, rfl, by decide⟩, fun d hd => ?_⟩
    simp only [List.mem_cons, List.not_mem_nil, or_false] at hd
    rcases hd with rfl | rfl
    · decide
    · exact hprinted
  next hnone =>
    by_cases hcontrol : c.toNat < 0x20
    · rw [if_pos hcontrol]
      refine ⟨⟨_, _, rfl, by decide⟩, fun d hd => ?_⟩
      have hhigh := hdigit (c.toNat / 16) (by omega)
      have hlow := hdigit (c.toNat % 16) (by omega)
      simp only [List.mem_cons, List.not_mem_nil, or_false] at hd
      rcases hd with rfl | rfl | rfl | rfl | rfl | rfl
      all_goals first
        | decide
        | assumption
    · rw [if_neg hcontrol]
      refine ⟨⟨c, [], rfl, (ne_of_letter?_eq_none hnone).1⟩, fun d hd => ?_⟩
      rw [List.mem_singleton.mp hd]
      omega

/-! ## Literals -/

/-- A quote ends a literal for `readBody?`. -/
theorem readBody?_quote (rest : Text) : readBody? ('"' :: rest) = some ([], rest) := by
  rw [readBody?]
  rfl

/-- What `escapeChar` writes is the next character of a literal for `readBody?`. -/
theorem readBody?_escapeChar (c : Char) (rest : Text) :
    readBody? (escapeChar c ++ rest)
      = (readBody? rest).map fun (content, after) => (c :: content, after) := by
  obtain ⟨⟨first, inside, hfirst, hquote⟩, -⟩ := escapeChar_spec c
  have hstrip : stripPrefix? ['"'] (escapeChar c ++ rest) = none := by
    rw [hfirst]
    exact if_neg hquote.symm
  have hshort : rest.length < (escapeChar c ++ rest).length := by
    rw [hfirst, List.length_append, List.length_cons]
    omega
  rw [readBody?, hstrip]
  dsimp only
  rw [readChar?_escapeChar]
  exact dif_pos hshort

/-- By `readBody?` a literal is read up to the quote at its end. -/
theorem readBody?_flatMap (text rest : Text) :
    readBody? (text.flatMap escapeChar ++ '"' :: rest) = some (text, rest) := by
  induction text with
  | nil => exact readBody?_quote rest
  | cons c text ih => rw [List.flatMap_cons, List.append_assoc, readBody?_escapeChar, ih]; rfl

/-- **A text is read from its literal**: `read?` undoes `quote`. -/
theorem read?_quote (text : Text) : read? (quote text) = some text := by
  have hbody : stripPrefix? ['"'] (quote text) = some (text.flatMap escapeChar ++ ['"']) := rfl
  rw [read?, hbody]
  show (readBody? (text.flatMap escapeChar ++ ['"'])).bind _ = _
  rw [readBody?_flatMap]
  rfl

/-- **No control character stands in a literal** that `quote` writes. -/
theorem le_toNat_of_mem_quote {text : Text} {c : Char} (h : c ∈ quote text) : 0x20 ≤ c.toNat := by
  rw [quote, List.cons_append, List.mem_cons, List.mem_append, List.mem_singleton,
    List.mem_flatMap] at h
  rcases h with rfl | ⟨d, -, hd⟩ | rfl
  · decide
  · exact (escapeChar_spec d).2 c hd
  · decide

/-- A pair of surrogates spells one character. -/
example : read? ['"', '\\', 'u', 'd', '8', '3', 'D', '\\', 'u', 'D', 'E', '0', '0', '"']
    = some [Char.ofNat 0x1F600] := by
  cbv

end Stencil.JsonString
