import Stencil.Proofs.Context.DataFile
import Stencil.Proofs.Context.History

/-!
# What stands at the top level of a data file

Whether a document is accepted as a data file is asked of the value that it makes. Tags
have been dropped from it by then, and scalars have become texts: null, falsehood and the
empty string are all the empty text, and every other scalar is a text that is not empty,
as there is no number without digits. So the documents with fields are the mappings and
these three scalars (`topFields?_eq`), and every other document is refused because a
mapping was expected.

Theorems:
- `Yaml.Number.text_ne_nil`: a number is printed with something.
- `Yaml.Datum.topFields?_eq`: which documents have fields, asked of their values.
- `loads_by_top_level`: data files and locales are accepted by their top level.
- `loads_without_mapping`: files that are accepted like empty ones and are not empty.
-/

namespace Stencil

namespace Yaml

/-! ## Numbers -/

theorem Number.finiteText_ne_nil (d : Decimal.Digits) : finiteText d ≠ [] := by
  have hdigits : Text.decimal d.digits ≠ [] := Nat.toDigits_ne_nil
  unfold finiteText
  dsimp only
  split
  next => simp
  next =>
    split
    next => simp
    next =>
      split
      next => simp
      next => simp

/-- The `text` of a number, as it is printed, is not empty. -/
theorem Number.text_ne_nil (number : Number) : number.text ≠ [] := by
  cases number with
  | integer n =>
    have hdigits : Text.decimal n.natAbs ≠ [] := Nat.toDigits_ne_nil
    show Text.signedDecimal n ≠ []
    unfold Text.signedDecimal
    split
    next => exact List.cons_ne_nil _ _
    next => exact hdigits
  | finite negative magnitude =>
    exact List.append_ne_nil_of_right_ne_nil _ (finiteText_ne_nil _)
  | infinite negative => cases negative <;> decide
  | notANumber => decide

namespace Datum

/-! ## Documents -/

/-- What is left of a datum when every `.tagged` is dropped from its front. -/
def untagged : Datum → Datum
  | .tagged _ content => content.untagged
  | datum => datum

/-- The scalar that a datum is. -/
def scalar? : Datum → Option Scalar
  | .scalar value => some value
  | _ => none

/-- The fields that a document has as a data file, once it is `untagged`: those of the mapping at
its top level, or none where there is null, falsehood or the empty string. -/
def topFields? (document : Datum) : Option Fields :=
  match document.untagged with
  | .mapping entries => some (toFields [] entries)
  | .scalar .null => some []
  | .scalar (.bool false) => some []
  | .scalar (.text []) => some []
  | _ => none

/-- **Which documents have fields**: `topFields?` is seen in the value `toValue` that they make. -/
theorem topFields?_eq : ∀ document : Datum, document.topFields? =
    match document.toValue with
    | .map fields => some fields
    | .text [] => some []
    | _ => none
  | .mapping entries => by
    rw [toValue]
    rfl
  | .sequence items => by
    rw [toValue]
    rfl
  | .tagged _ content => by
    rw [toValue, ← topFields?_eq content]
    rfl
  | .scalar value => by
    rw [toValue]
    cases value with
    | null => rfl
    | bool value => cases value <;> rfl
    | number number =>
      -- A number is no empty text.
      obtain ⟨c, rest, hnumber⟩ := List.exists_cons_of_ne_nil number.text_ne_nil
      rw [scalarText, hnumber]
      rfl
    | text content => cases content <;> rfl

end Datum

end Yaml

namespace Context

variable {tree : FileTree} {context : Context} {path : Path} {text : Text} {document : Yaml.Datum}

/-- What `readFields` reads of a data file is told by the `topFields?` of its document. -/
theorem readFields_of_document (hread : tree.readText? path = some text)
    (hdocument : Yaml.Datum.ofText? text = some document) : readFields tree path =
      match document.topFields? with
      | some fields => .ok fields
      | none => .error (.dataInvalid path .noMapping) := by
  rw [document.topFields?_eq]
  unfold readFields
  rw [hread]
  dsimp only
  rw [hdocument, Option.map_some]
  cases document.toValue with
  | map fields => rfl
  | list items => rfl
  | text content => cases content <;> rfl

/-- **Data files and locales are accepted by the top level of their document.** Where `topFields?`
gives fields, as it does for a mapping, null, falsehood or the empty string under any tags, `act`
merges these for `.load` and puts them in use for `.loadLocale`. With any other top level the file
is refused as `noMapping`, and the context stays what it is. A data file that `isLoaded` is not read
again. -/
theorem loads_by_top_level (hread : tree.readText? path = some text)
    (hdocument : Yaml.Datum.ofText? text = some document) (context : Context) :
    (∀ name, FirstFile tree (candidates name context.searchPaths) path →
      act tree (.load name) context =
        if context.isLoaded tree path then (.ok (), context)
        else match document.topFields? with
          | some fields => (.ok (), { context with
              values := Fields.merge context.values fields
              loaded := context.loaded ++ [tree.canonical path] })
          | none => (.error (.dataInvalid path .noMapping), context)) ∧
    (∀ locale, FirstFile tree (candidates (localeFile locale) context.searchPaths) path →
      act tree (.loadLocale locale) context =
        match document.topFields? with
        | some fields =>
          (.ok (), { context with values := context.values.put languageKey (.map fields) })
        | none => (.error (.dataInvalid path .noMapping), context)) ∧
    (Error.dataInvalid path .noMapping).message
      = "Data file is invalid: ".toList ++ path.written
        ++ ": expected a mapping at the top level".toList := by
  have hfields := readFields_of_document hread hdocument
  refine ⟨fun name hfirst => ?_, fun locale hfirst => ?_, ?_⟩
  · have hfound := resolve?_eq_some_iff.mpr hfirst
    split
    next hloaded => exact act_of_turn (.passedOver hfound hloaded)
    next hnew =>
      cases htop : document.topFields? with
      | some fields =>
        rw [htop] at hfields
        exact act_of_turn (.merged hfound hnew hfields)
      | none =>
        rw [htop] at hfields
        exact act_of_turn (.notRead hfound hnew hfields)
  · have hfound := resolve?_eq_some_iff.mpr hfirst
    cases htop : document.topFields? with
    | some fields =>
      rw [htop] at hfields
      exact act_of_turn (.translated hfound hfields)
    | none =>
      rw [htop] at hfields
      exact act_of_turn (.notTranslated hfound hfields)
  · unfold Error.message DataFault.message
    simp

/-- A data file with a mapping under a tag, and a locale with a sequence under another one. -/
theorem loads_by_top_level_tagged :
    let tree : FileTree :=
      { root := .directory [(['f'], .file "!own {k: v}\n".toUTF8),
          ("locales".toList, .directory [("en.yml".toList, .file "!own [k, v]\n".toUTF8)])] }
    let context : Context := { searchPaths := [⟨['/']⟩] }
    ((act tree (.load ['f']) context).1 = .ok () ∧
      (act tree (.load ['f']) context).2.values.keys = [['k']]) ∧
    act tree (.loadLocale "en".toList) context
      = (.error (.dataInvalid ⟨"/locales/en.yml".toList⟩ .noMapping), context) := by
  intro tree context
  refine ⟨?_, ?_⟩
  · have hread : tree.readText? ⟨"/f".toList⟩ = some "!own {k: v}\n".toList := by decide +kernel
    have htop : ((Yaml.Datum.ofText? "!own {k: v}\n".toList).map
        fun document => document.topFields?.map Keyed.keys) = some (some [['k']]) := by
      decide +kernel
    obtain ⟨document, hdocument, htop⟩ := Option.map_eq_some_iff.mp htop
    obtain ⟨fields, hfields, hkeys⟩ := Option.map_eq_some_iff.mp htop
    have hfirst : FirstFile tree (candidates ['f'] context.searchPaths) ⟨"/f".toList⟩ :=
      ⟨by decide +kernel, [], [], by decide +kernel, by simp⟩
    have hload := (loads_by_top_level hread hdocument context).1 ['f'] hfirst
    rw [if_neg (by decide +kernel), hfields] at hload
    rw [hload]
    refine ⟨rfl, ?_⟩
    show Keyed.keys (Fields.merge [] fields) = _
    rw [Fields.keys_merge, hkeys]
    decide
  · have hread : tree.readText? ⟨"/locales/en.yml".toList⟩ = some "!own [k, v]\n".toList := by
      decide +kernel
    have htop : ((Yaml.Datum.ofText? "!own [k, v]\n".toList).map
        fun document => document.topFields?.isNone) = some true := by
      decide +kernel
    obtain ⟨document, hdocument, htop⟩ := Option.map_eq_some_iff.mp htop
    have hfirst : FirstFile tree (candidates (localeFile "en".toList) context.searchPaths)
        ⟨"/locales/en.yml".toList⟩ :=
      ⟨by decide +kernel, [], [], by decide +kernel, by simp⟩
    have hload := (loads_by_top_level hread hdocument context).2.1 "en".toList hfirst
    rw [Option.isNone_iff_eq_none.mp htop] at hload
    exact hload

/-- A data file with nothing but falsehood in it and one with nothing but the empty string are
accepted, though neither has a mapping and neither is an empty document. -/
theorem loads_without_mapping :
    let tree : FileTree :=
      { root := .directory [(['f'], .file "false\n".toUTF8), (['g'], .file "\"\"\n".toUTF8)] }
    ((Yaml.Datum.ofText? "false\n".toList).bind Yaml.Datum.scalar? = some (.bool false) ∧
      (act tree (.load "/f".toList) {}).1.isOk ∧
      (act tree (.load "/f".toList) {}).2.loaded = [⟨"/f".toList⟩]) ∧
    (Yaml.Datum.ofText? "\"\"\n".toList).bind Yaml.Datum.scalar? = some (.text []) ∧
      (act tree (.load "/g".toList) {}).1.isOk ∧
      (act tree (.load "/g".toList) {}).2.loaded = [⟨"/g".toList⟩] := by
  intro tree
  refine ⟨⟨?_, ?_, ?_⟩, ?_, ?_, ?_⟩ <;> decide +kernel

end Context

end Stencil
