import Stencil.Post
import Stencil.Proofs.Text.FormEncoding
import Stencil.Proofs.Text.Html
import Stencil.Proofs.Text.JsonString

/-!
# What is printed can be read back

Each form prints a value in the characters that are safe where it is meant to stand, and a
reader of that place gets the value back (`lossless_encode`). For a JSON string of escaped
text there are two readers, one after the other.

So two values are never printed alike in one form. The addresses of the pages of a tag are
made of its form-encoded text, in which there is no slash; that is why tags do not share
addresses, and an address in the order of time is never that of a tag
(`encode_lossless_addresses_apart`).
-/

namespace Stencil

namespace Variable

/-- Every form of a `value` is safe where it is meant to stand, and can be read back there: in
markup by `Html.unescape`, in a script by `JsonString.read?`, in an address by
`FormEncoding.decode`. -/
structure Lossless (value : Text) : Prop where
  plaintext_safe : Html.Safe (Form.plaintext.encode value)
  plaintext_read : Html.unescape (Form.plaintext.encode value) = value
  js_safe : ∀ c ∈ Form.js.encode value, 0x20 ≤ c.toNat
  js_read : JsonString.read? (Form.js.encode value) = some value
  jsPlaintext_safe : ∀ c ∈ Form.jsPlaintext.encode value, 0x20 ≤ c.toNat
  jsPlaintext_read : ∃ content, JsonString.read? (Form.jsPlaintext.encode value) = some content ∧
    Html.Safe content ∧ Html.unescape content = value
  urlEncoded_safe : FormEncoding.Safe (Form.urlEncoded.encode value)
  urlEncoded_read : FormEncoding.decode (Form.urlEncoded.encode value) = Text.utf8 value

theorem lossless_encode (value : Text) : Lossless value where
  plaintext_safe := Html.safe_escape value
  plaintext_read := Html.unescape_escape value
  js_safe _ := JsonString.le_toNat_of_mem_quote
  js_read := JsonString.read?_quote value
  jsPlaintext_safe _ := JsonString.le_toNat_of_mem_quote
  jsPlaintext_read := ⟨Html.escape value, JsonString.read?_quote _, Html.safe_escape value,
    Html.unescape_escape value⟩
  urlEncoded_safe := FormEncoding.safe_encode value
  urlEncoded_read := FormEncoding.decode_encode value

end Variable

namespace Post

/-- The address of the page of a `tag`. -/
def address (tag : Text) : Text :=
  "/tagged/".toList ++ FormEncoding.encode tag

/-- The address of the page of a `tag` in the order of time. -/
def timeAddress (tag : Text) : Text :=
  address tag ++ "/chrono".toList

/-- The `address` and the `timeAddress` stand in the row `tagRow` of the tag. -/
theorem get?_tagRow (tag : Text) :
    Keyed.get? "TagURL".toList (tagRow tag) = some (.text (address tag)) ∧
      Keyed.get? "TagURLChrono".toList (tagRow tag) = some (.text (timeAddress tag)) :=
  ⟨rfl, rfl⟩

/-- Different tags have a different `address`. -/
theorem address_injective : Function.Injective address := by
  intro tag other h
  exact FormEncoding.encode_injective (List.append_cancel_left h)

/-- A `timeAddress` has a slash more than the `address` of any tag. -/
theorem timeAddress_ne_address (tag other : Text) : timeAddress tag ≠ address other := by
  intro h
  have hencoded : FormEncoding.encode tag ++ "/chrono".toList = FormEncoding.encode other :=
    List.append_cancel_left ((List.append_assoc _ _ _).symm.trans h)
  have hslash : '/' ∈ FormEncoding.encode other := by
    rw [← hencoded]
    exact List.mem_append_right _ (by decide)
  exact (FormEncoding.safe_encode other).not_mem_slash hslash

end Post

/-- **No form of a value loses anything**: `Lossless` holds whatever the `value` is, so that what is
printed keeps to the characters of its place and is read back there as the value. The second part is
about the rows `tagRow`: those of two different tags have a different `address`, and the
`timeAddress` of a tag is not the `address` of any tag. -/
theorem encode_lossless_addresses_apart :
    (∀ value : Text, Variable.Lossless value) ∧
      ∃ address timeAddress : Text → Text,
        (∀ tag : Text,
          Keyed.get? "TagURL".toList (Post.tagRow tag) = some (.text (address tag)) ∧
            Keyed.get? "TagURLChrono".toList (Post.tagRow tag) = some (.text (timeAddress tag))) ∧
        (∀ tag other : Text, tag ≠ other → address tag ≠ address other) ∧
        ∀ tag other : Text, timeAddress tag ≠ address other :=
  ⟨Variable.lossless_encode, Post.address, Post.timeAddress, Post.get?_tagRow,
    fun _ _ hne => Post.address_injective.ne hne, Post.timeAddress_ne_address⟩

end Stencil
