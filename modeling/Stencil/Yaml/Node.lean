import Stencil.Keyed

/-!
# YAML nodes

A document as it is written: scalars, sequences and mappings, with their tags and
with anchors that aliases refer to. Anchors are names at first. A name may be
given again, and an alias means the anchor that bears its name last before it;
numbering the anchors makes that explicit. An anchor gets the count of distinct
names given before it as its number, so that the anchor of a repeated name may
get the number of a later one, and of several anchors with one number the last
in the document stands.
-/

namespace Stencil.Yaml

/-- What stands before a node: its anchor and its tag. -/
structure Properties (α : Type) where
  anchor : Option α
  tag : Option Text

/-- A node of a document, with anchors of the type `α`: names at first, numbers after `number?`. -/
inductive Node (α : Type) where
  | alias (anchor : α)
  | scalar (properties : Properties α) (content : Text) (plain : Bool)
  | sequence (properties : Properties α) (items : List (Node α))
  | mapping (properties : Properties α) (entries : List (Node α × Node α))
  deriving Inhabited

namespace Node

/-! ## Numbered anchors -/

/-- The `properties` with the anchor numbered, and the numbers of the `names` so far. -/
def numberProperties (names : Keyed Nat) (properties : Properties Text) :
    Properties Nat × Keyed Nat :=
  match properties.anchor with
  | none => (⟨none, properties.tag⟩, names)
  | some name => (⟨some names.length, properties.tag⟩, names.put name names.length)

mutual

/-- The node with numbered anchors, and the numbers of the `names` so far; `none` if an alias refers
to a name that has not been given. -/
def number? (names : Keyed Nat) : Node Text → Option (Node Nat × Keyed Nat)
  | .alias name => (names.get? name).map fun n => (.alias n, names)
  | .scalar properties content plain =>
    let (numbered, names) := numberProperties names properties
    some (.scalar numbered content plain, names)
  | .sequence properties items =>
    let (numbered, names) := numberProperties names properties
    (numberItems? names items).map fun (items, names) => (.sequence numbered items, names)
  | .mapping properties entries =>
    let (numbered, names) := numberProperties names properties
    (numberEntries? names entries).map fun (entries, names) => (.mapping numbered entries, names)

/-- The items of a sequence with anchors numbered by `number?`, from left to right. -/
def numberItems? (names : Keyed Nat) : List (Node Text) → Option (List (Node Nat) × Keyed Nat)
  | [] => some ([], names)
  | item :: rest => do
    let (item, names) ← number? names item
    let (rest, names) ← numberItems? names rest
    return (item :: rest, names)

/-- The entries of a mapping with anchors numbered by `number?`, each key before its value. -/
def numberEntries? (names : Keyed Nat) :
    List (Node Text × Node Text) → Option (List (Node Nat × Node Nat) × Keyed Nat)
  | [] => some ([], names)
  | (key, value) :: rest => do
    let (key, names) ← number? names key
    let (value, names) ← number? names value
    let (rest, names) ← numberEntries? names rest
    return ((key, value) :: rest, names)

end

/-- The anchor of a node. -/
def anchor? {α : Type} : Node α → Option α
  | .alias _ => none
  | .scalar properties _ _ => properties.anchor
  | .sequence properties _ => properties.anchor
  | .mapping properties _ => properties.anchor

mutual

/-- The nodes below and including a node, each before those of `withinItems` or `withinEntries`
inside it. -/
def within {α : Type} : Node α → List (Node α)
  | .alias anchor => [.alias anchor]
  | .scalar properties content plain => [.scalar properties content plain]
  | .sequence properties items => .sequence properties items :: withinItems items
  | .mapping properties entries => .mapping properties entries :: withinEntries entries

/-- The nodes `within` the items of a sequence. -/
def withinItems {α : Type} : List (Node α) → List (Node α)
  | [] => []
  | item :: rest => within item ++ withinItems rest

/-- The nodes `within` the entries of a mapping. -/
def withinEntries {α : Type} : List (Node α × Node α) → List (Node α)
  | [] => []
  | (key, value) :: rest => within key ++ within value ++ withinEntries rest

end

/-- The nodes `within` that have anchors, by their numbers, the last in the document first. -/
def anchored (node : Node Nat) : List (Nat × Node Nat) :=
  (node.within.filterMap fun inner => inner.anchor?.map fun n => (n, inner)).reverse

/-- The size of a node: for each one `within` it `1` for a scalar or an alias, and `2` for a
sequence or a mapping. -/
def size {α : Type} (node : Node α) : Nat :=
  node.within.foldl (fun total inner => match inner with
    | .sequence _ _ => total + 2
    | .mapping _ _ => total + 2
    | _ => total + 1) 0

end Node

end Stencil.Yaml
