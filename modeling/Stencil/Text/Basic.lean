/-!
# Text — characters in a row, and the first occurrence of a mark

Template text is a list of characters. Two readers are all that the rest of the
library needs of it: `stripPrefix?` takes a mark off the front, `breakAt?` cuts
a text around the first place where a mark stands.

Theorems:
- `stripPrefix?_eq_some_iff`: a prefix is taken off exactly when it is there.
- `breakAt?_eq_append`: a cut loses nothing but the mark.
- `byteLength_append`: the bytes of two texts in a row add up.
-/

namespace Stencil

/-- A piece of text. -/
abbrev Text := List Char

namespace Text

/-- What follows `mark` at the front of a text, if the text begins with it. -/
def stripPrefix? : Text → Text → Option Text
  | [], text => some text
  | _ :: _, [] => none
  | m :: mark, c :: text => if m = c then stripPrefix? mark text else none

/-- By `stripPrefix?` a `mark` can be taken off exactly when the text begins with it. -/
theorem stripPrefix?_eq_some_iff :
    ∀ {mark text rest : Text}, stripPrefix? mark text = some rest ↔ text = mark ++ rest
  | [], text, rest => by simp [stripPrefix?]
  | m :: mark, [], rest => by simp [stripPrefix?]
  | m :: mark, c :: text, rest => by
    unfold stripPrefix?
    split
    next h => subst h; simp [stripPrefix?_eq_some_iff]
    next h => simp [Ne.symm h]

/-- The text before and after the first occurrence of `mark`. -/
def breakAt? (mark : Text) : Text → Option (Text × Text)
  | [] => (stripPrefix? mark []).map fun rest => ([], rest)
  | c :: text =>
    match stripPrefix? mark (c :: text) with
    | some rest => some ([], rest)
    | none => (breakAt? mark text).map fun cut => (c :: cut.1, cut.2)

/-- What `breakAt?` gives, with the `mark` put back between the two sides, is the text. -/
theorem breakAt?_eq_append {mark : Text} :
    ∀ {text before after : Text},
      breakAt? mark text = some (before, after) → text = before ++ mark ++ after
  | [], before, after, h => by
    obtain ⟨rest, hrest, hpair⟩ := Option.map_eq_some_iff.mp h
    obtain ⟨rfl, rfl⟩ := Prod.mk.inj hpair
    simpa using stripPrefix?_eq_some_iff.mp hrest
  | c :: text, before, after, h => by
    unfold breakAt? at h
    split at h
    next rest hrest =>
      obtain ⟨rfl, rfl⟩ := Prod.mk.inj (Option.some.inj h)
      simpa using stripPrefix?_eq_some_iff.mp hrest
    next =>
      obtain ⟨cut, hcut, hpair⟩ := Option.map_eq_some_iff.mp h
      obtain ⟨rfl, rfl⟩ := Prod.mk.inj hpair
      have ih : text = cut.1 ++ mark ++ cut.2 := breakAt?_eq_append hcut
      simpa using ih

/-- The number of bytes that the text takes in UTF-8, `c.utf8Size` for each character `c`. -/
def byteLength : Text → Nat
  | [] => 0
  | c :: text => c.utf8Size + byteLength text

/-- The `byteLength` of two texts in a row is that of both together. -/
theorem byteLength_append : ∀ a b : Text, byteLength (a ++ b) = byteLength a + byteLength b
  | [], b => (Nat.zero_add _).symm
  | c :: a, b => by
    simp only [List.cons_append, byteLength, byteLength_append a b, Nat.add_assoc]

/-- Texts in the order of their UTF-8 bytes, which is that of their code points. -/
def bytesLE : Text → Text → Bool
  | [], _ => true
  | _ :: _, [] => false
  | a :: as, b :: bs => if a = b then bytesLE as bs else decide (a.toNat < b.toNat)

end Text

end Stencil
