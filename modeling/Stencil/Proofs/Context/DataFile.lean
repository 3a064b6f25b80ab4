import Stencil.Proofs.Context.Once
import Stencil.Proofs.FileTree.Place
import Stencil.Proofs.Value.Level

/-!
# Names and texts of data files

A name may mean several paths, and it means the first of them that leads to a file. What
such a file says are fields: it has to be one document, with a mapping at its top level,
or else with nothing but an empty scalar. If it is not, reading it fails with its path
and one of three faults. What it says has distinct keys at every level.

Theorems:
- `Yaml.Datum.distinct_toValue`: the maps that a document makes have distinct keys.
- `resolve?_eq_some_iff`, `resolve?_eq_none_iff`: which file a name means, and when it
  means none.
- `readFields_eq_ok_iff`, `readFields_eq_error_iff`: what a data file says, and when it
  says nothing.
- `readFields_eq_of_locate?_eq`: by which path a file is read makes no difference.
-/

namespace Stencil

/-! ## Keys -/

namespace Yaml.Datum

mutual

/-- The value `toValue` that a datum makes is `Distinct`, a map with distinct keys at every
level. -/
theorem distinct_toValue : ∀ datum : Datum, datum.toValue.Distinct
  | .scalar value => by
    rw [toValue]
    exact fun level inner hinner => nomatch hinner
  | .sequence items => by
    rw [toValue]
    exact fun level inner hinner => nomatch hinner
  | .mapping entries => by
    rw [toValue]
    exact Fields.distinct_map_iff.mpr (distinct_toFields Fields.distinct_nil entries)
  | .tagged _ content => by
    rw [toValue]
    exact distinct_toValue content

/-- By `toFields` entries keep the fields that they are written over `Distinct`. -/
theorem distinct_toFields {fields : Fields} (h : fields.Distinct) :
    ∀ entries : List (Datum × Datum), Fields.Distinct (toFields fields entries)
  | [] => by
    rw [toFields]
    exact h
  | (key, value) :: rest => by
    rw [toFields]
    split
    next name _ => exact distinct_toFields (h.put (distinct_toValue value) name) rest
    next => exact distinct_toFields h rest

end

end Yaml.Datum

namespace Context

/-! ## Names -/

/-- The paths that a name may mean, in the order in which they are tried. -/
def candidates (name : Text) (searchPaths : List Path) : List Path :=
  if Path.isAbsolute ⟨name⟩ then [⟨name⟩] else searchPaths.map fun dir => dir.join ⟨name⟩

/-- The `path` leads to a file, and none of the `paths` `before` it does. -/
structure FirstFile (tree : FileTree) (paths : List Path) (path : Path) : Prop where
  isFile : tree.isFile path
  split : ∃ before after, paths = before ++ path :: after ∧ ∀ other ∈ before, ¬ tree.isFile other

variable {tree : FileTree} {context : Context} {name : Text} {path other : Path}

/-- By `resolve?` a name means the first of its `candidates` that is a file. -/
theorem resolve?_eq_find? (tree : FileTree) (name : Text) (context : Context) :
    context.resolve? tree name = (candidates name context.searchPaths).find? tree.isFile := by
  unfold resolve? candidates
  dsimp only
  split
  next => rw [List.find?_singleton]
  next => rfl

/-- **The file that a name means** by `resolve?` is the `FirstFile` among its `candidates`. -/
theorem resolve?_eq_some_iff : context.resolve? tree name = some path ↔
    FirstFile tree (candidates name context.searchPaths) path := by
  rw [resolve?_eq_find?, List.find?_eq_some_iff_append]
  constructor
  · rintro ⟨hfile, before, after, hsplit, hbefore⟩
    exact ⟨hfile, before, after, hsplit, fun other hother => by simpa using hbefore other hother⟩
  · rintro ⟨hfile, before, after, hsplit, hbefore⟩
    exact ⟨hfile, before, after, hsplit, fun other hother => by simpa using hbefore other hother⟩

/-- **A name means no file** if none of its `candidates` leads to one. -/
theorem resolve?_eq_none_iff : context.resolve? tree name = none ↔
    ∀ candidate ∈ candidates name context.searchPaths, ¬ tree.isFile candidate := by
  rw [resolve?_eq_find?, List.find?_eq_none]

/-! ## Texts -/

/-- What the `text` of a data file says: the fields of a `mapping`, or none where there is
`nothing`. -/
inductive Says (text : Text) : Fields → Prop
  /-- There is a mapping at the top level. -/
  | mapping {datum : Yaml.Datum} {fields : Fields} (document : Yaml.Datum.ofText? text = some datum)
      (mapping : datum.toValue = .map fields) : Says text fields
  /-- There is nothing at the top level but an empty scalar. -/
  | nothing {datum : Yaml.Datum} (document : Yaml.Datum.ofText? text = some datum)
      (empty : datum.toValue = .text []) : Says text []

/-- What is wrong with the data file that a path leads to, one case for each `DataFault`. -/
inductive Faulty (tree : FileTree) (path : Path) : DataFault → Prop
  | unreadable (unreadable : tree.readText? path = none) : Faulty tree path .unreadable
  | malformed {text : Text} (read : tree.readText? path = some text)
      (malformed : Yaml.Datum.ofText? text = none) : Faulty tree path .malformed
  | noMapping {text : Text} {datum : Yaml.Datum} (read : tree.readText? path = some text)
      (document : Yaml.Datum.ofText? text = some datum)
      (noMapping : ∀ fields, datum.toValue ≠ .map fields) (noEmpty : datum.toValue ≠ .text []) :
      Faulty tree path .noMapping

/-- The data file that a path leads to has a text that `Says` these `fields`. -/
def Acceptable (tree : FileTree) (path : Path) (fields : Fields) : Prop :=
  ∃ text, tree.readText? path = some text ∧ Says text fields

/-- What an `Acceptable` data file says is what `readFields` reads. -/
theorem Acceptable.readFields_eq {fields : Fields} (h : Acceptable tree path fields) :
    readFields tree path = .ok fields := by
  obtain ⟨text, hread, hsaid⟩ := h
  unfold readFields
  rw [hread]
  dsimp only
  cases hsaid with
  | mapping hdocument hmapping => rw [hdocument, Option.map_some, hmapping]
  | nothing hdocument hempty => rw [hdocument, Option.map_some, hempty]

/-- What is wrong with a `Faulty` data file is told with its path as `dataInvalid`. -/
theorem Faulty.readFields_eq {fault : DataFault} (h : Faulty tree path fault) :
    readFields tree path = .error (.dataInvalid path fault) := by
  unfold readFields
  cases h with
  | unreadable hunreadable => rw [hunreadable]
  | malformed hread hmalformed =>
    rw [hread]
    dsimp only
    rw [hmalformed, Option.map_none]
  | @noMapping text datum hread hdocument hnoMapping hnoEmpty =>
    rw [hread]
    dsimp only
    rw [hdocument, Option.map_some]
    cases hvalue : datum.toValue with
    | map fields => exact absurd hvalue (hnoMapping fields)
    | list items => rfl
    | text content =>
      cases content with
      | nil => exact absurd hvalue hnoEmpty
      | cons c content => rfl

/-- Either a data file is `Acceptable` with some fields, or it is `Faulty`. -/
theorem acceptable_or_faulty (tree : FileTree) (path : Path) :
    (∃ fields, Acceptable tree path fields) ∨ ∃ fault, Faulty tree path fault := by
  cases hread : tree.readText? path with
  | none => exact Or.inr ⟨_, .unreadable hread⟩
  | some text =>
    cases hdocument : Yaml.Datum.ofText? text with
    | none => exact Or.inr ⟨_, .malformed hread hdocument⟩
    | some datum =>
      by_cases hmapping : ∃ fields, datum.toValue = .map fields
      · obtain ⟨fields, hmapping⟩ := hmapping
        exact Or.inl ⟨fields, text, hread, .mapping hdocument hmapping⟩
      · by_cases hempty : datum.toValue = .text []
        · exact Or.inl ⟨[], text, hread, .nothing hdocument hempty⟩
        · exact Or.inr ⟨_, .noMapping hread hdocument (not_exists.mp hmapping) hempty⟩

/-- **What a data file says**: `readFields` gives the fields with which it is `Acceptable`. -/
theorem readFields_eq_ok_iff {fields : Fields} :
    readFields tree path = .ok fields ↔ Acceptable tree path fields := by
  constructor
  · intro hread
    rcases acceptable_or_faulty tree path with ⟨others, hothers⟩ | ⟨fault, hfaulty⟩
    · cases hothers.readFields_eq.symm.trans hread
      exact hothers
    · cases hfaulty.readFields_eq.symm.trans hread
  · exact Acceptable.readFields_eq

/-- **What is wrong with a data file**: `readFields` fails with the fault with which it is
`Faulty`. -/
theorem readFields_eq_error_iff {error : Error} :
    readFields tree path = .error error ↔
      ∃ fault, Faulty tree path fault ∧ error = .dataInvalid path fault := by
  constructor
  · intro hread
    rcases acceptable_or_faulty tree path with ⟨fields, hfields⟩ | ⟨fault, hfaulty⟩
    · cases hfields.readFields_eq.symm.trans hread
    · cases hfaulty.readFields_eq.symm.trans hread
      exact ⟨fault, hfaulty, rfl⟩
  · rintro ⟨fault, hfaulty, rfl⟩
    exact hfaulty.readFields_eq

/-- The keys of what a data file `Says` are `Distinct` at every level. -/
theorem Says.distinct {text : Text} {fields : Fields} (h : Says text fields) :
    Fields.Distinct fields := by
  cases h with
  | @mapping datum _ _ hmapping =>
    have hdistinct := datum.distinct_toValue
    rw [hmapping] at hdistinct
    exact Fields.distinct_map_iff.mp hdistinct
  | nothing => exact Fields.distinct_nil

/-- By which path a file is read makes no difference to what it says: `locate?` decides. -/
theorem readFields_eq_of_locate?_eq {fields : Fields} (h : tree.locate? path = tree.locate? other)
    (hread : readFields tree path = .ok fields) : readFields tree other = .ok fields := by
  have htext : tree.readText? path = tree.readText? other := by
    unfold FileTree.readText? FileTree.node?
    rw [h]
  obtain ⟨text, hpath, hsaid⟩ := readFields_eq_ok_iff.mp hread
  exact readFields_eq_ok_iff.mpr ⟨text, htext ▸ hpath, hsaid⟩

end Context

end Stencil
