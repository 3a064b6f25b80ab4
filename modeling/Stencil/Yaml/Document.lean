import Stencil.Yaml.Grammar
import Stencil.Yaml.Scalar
import Stencil.Yaml.Tokens
import Stencil.Value.Basic

/-!
# YAML documents

What a document says, once its aliases stand for the nodes they refer to and its
scalars have a meaning. The tags `!!null`, `!!bool`, `!!int` and `!!float` force
the meaning of a scalar and `!!str` and foreign tags make it a string; a tag of
the document's own, which begins with an exclamation mark, is kept. A mapping
may not have the same key twice.

Aliases may refer to nodes around them and multiply what they refer to, so there
are limits: collections may be 128 deep, and a document of `n` events may follow
`100 * n` aliases.
-/

namespace Stencil.Yaml

/-- What a document says, its aliases followed and each scalar read as a `Scalar`. -/
inductive Datum where
  | scalar (value : Scalar)
  | sequence (items : List Datum)
  | mapping (entries : List (Datum × Datum))
  | tagged (tag : Text) (content : Datum)
  deriving Inhabited

namespace Datum

/-! ## Equality -/

/-- Two scalars are the same, numbers by `Number.same`; a null, a truth value, a number and a text
never are. -/
def sameScalar : Scalar → Scalar → Bool
  | .number a, .number b => a.same b
  | a, b => a == b

/-- A tag without the `!` in front of it, if anything follows that mark. -/
def bareTag : Text → Text
  | '!' :: c :: rest => c :: rest
  | tag => tag

mutual

/-- Two data are the same, by `sameScalar`, `sameItems` and `sameEntries`. The order of the entries
of a mapping does not matter. -/
def same : Datum → Datum → Bool
  | .scalar a, .scalar b => sameScalar a b
  | .sequence as, .sequence bs => sameItems as bs
  | .mapping as, .mapping bs => as.length == bs.length && sameEntries as bs
  | .tagged s a, .tagged t b => bareTag s == bareTag t && same a b
  | _, _ => false

/-- Two lists hold the `same` data in the same order. -/
def sameItems : List Datum → List Datum → Bool
  | [], [] => true
  | a :: as, b :: bs => same a b && sameItems as bs
  | _, _ => false

/-- The entries of a mapping are all among the `others`, key and value the `same`. -/
def sameEntries : List (Datum × Datum) → List (Datum × Datum) → Bool
  | [], _ => true
  | (key, value) :: rest, others =>
    others.any (fun other => same key other.1 && same value other.2) && sameEntries rest others

end

/-! ## Tags -/

/-- The tag of the document's own that a tag is, without its `!`; `none` for all others. -/
def ownTag? : Option Text → Option Text
  | some ['!'] => some ['!']
  | some ('!' :: rest) => some rest
  | _ => none

/-- What stands before the name of a type in the tags that YAML itself defines. -/
def coreMark : Text := "tag:yaml.org,2002:".toList

/-- What a scalar means: by its `tag` unless that is taken off already, and else by
`Scalar.ofPlain?` if it is `plain`; a text if it is quoted. -/
def scalarMeaning? (tagTaken : Bool) (tag : Option Text) (content : Text) (plain : Bool) :
    Option Scalar :=
  match tagTaken, tag with
  | false, some tag =>
    if tag = coreMark ++ "bool".toList then Scalar.ofBool? content
    else if tag = coreMark ++ "int".toList then Scalar.ofInteger? content
    else if tag = coreMark ++ "float".toList then Scalar.ofFloat? content
    else if tag = coreMark ++ "null".toList then Scalar.ofNull? content
    else some (.text content)
  | _, _ => if plain then Scalar.ofPlain? content else some (.text content)

/-! ## Expansion -/

/-- What aliases refer to, and by `limit` how many of them may be followed. -/
structure Anchors where
  nodes : List (Nat × Node Nat)
  limit : Nat

/-- A node, or the one that an alias refers to, and the count of aliases `followed`; `none` when
there are more than `anchors.limit`. -/
def follow? (anchors : Anchors) (followed : Nat) : Node Nat → Option (Node Nat × Nat)
  | .alias anchor =>
    if anchors.limit ≤ followed then none
    else (anchors.nodes.lookup anchor).map fun node => (node, followed + 1)
  | node => some (node, followed)

/-- Runs `read?` with the count of aliases over a list, from left to right. -/
def eachItem? {α β : Type} (read? : Nat → α → Option (β × Nat)) :
    Nat → List α → Option (List β × Nat)
  | followed, [] => some ([], followed)
  | followed, item :: rest => do
    let (item, followed) ← read? followed item
    let (rest, followed) ← eachItem? read? followed rest
    return (item :: rest, followed)

/-- No key of the entries is the `same` as one before it. -/
def distinctKeys : List (Datum × Datum) → Bool
  | [] => true
  | (key, _) :: rest => !rest.any (fun other => same key other.1) && distinctKeys rest

/-- What a node says, and the count of aliases `followed` so far. The argument `depth` bounds the
depth of the collections. While the content of a tagged mapping is read the tags of its keys count
as taken off (`tagTaken`), unless they stand behind an alias. -/
def ofNode? (anchors : Anchors) :
    Nat → Bool → Nat → Node Nat → Option (Datum × Nat)
  | depth, tagTaken, followed, node => do
    let tagTaken := tagTaken && !(match node with | .alias _ => true | _ => false)
    let (node, followed) ← follow? anchors followed node
    match node, depth with
    | .alias _, _ => none
    | .scalar properties content plain, _ =>
      match ownTag? properties.tag, tagTaken with
      | some tag, false =>
        return (.tagged tag (.scalar (← scalarMeaning? true properties.tag content plain)), followed)
      | _, _ => return (.scalar (← scalarMeaning? tagTaken properties.tag content plain), followed)
    | .sequence _ _, 0 => none
    | .sequence properties items, depth + 1 =>
      let (items, followed) ← eachItem? (ofNode? anchors depth false) followed items
      match ownTag? properties.tag, tagTaken with
      | some tag, false => return (.tagged tag (.sequence items), followed)
      | _, _ => return (.sequence items, followed)
    | .mapping _ _, 0 => none
    | .mapping properties entries, depth + 1 =>
      let own := ownTag? properties.tag
      let entry? := fun (followed : Nat) (entry : Node Nat × Node Nat) => do
        let (key, followed) ← ofNode? anchors depth (tagTaken || own.isSome) followed entry.1
        let (value, followed) ← ofNode? anchors depth false followed entry.2
        return ((key, value), followed)
      let (entries, followed) ← eachItem? entry? followed entries
      if !distinctKeys entries then none
      match own, tagTaken with
      | some tag, false => return (.tagged tag (.mapping entries), followed)
      | _, _ => return (.mapping entries, followed)

/-- What a YAML text says: its `tokens?` as one `Grammar.document?`, with anchors numbered and
aliases followed; `none` if one of these steps fails. -/
def ofText? (text : Text) : Option Datum := do
  let document ← Grammar.document? (← tokens? text)
  let (node, _) ← document.number? []
  let anchors : Anchors := ⟨node.anchored, 100 * node.size⟩
  let (datum, _) ← ofNode? anchors 128 false 0 node
  return datum

/-! ## Values -/

/-- The name that a scalar makes as a key; other keys make none. -/
def keyName? : Datum → Option Text
  | .scalar (.text content) => some content
  | .scalar (.number number) => some number.text
  | .scalar (.bool true) => some "true".toList
  | .scalar (.bool false) => some "false".toList
  | _ => none

/-- A scalar as a theme prints it: truth as `1`, and falsehood and null as the empty text `[]`. -/
def scalarText : Scalar → Text
  | .null => []
  | .bool true => ['1']
  | .bool false => []
  | .number number => number.text
  | .text content => content

mutual

/-- The value that a datum makes; tags are left out, and so are keys without a `keyName?`. -/
def toValue : Datum → Value
  | .scalar value => .text (scalarText value)
  | .sequence items => .list (toValues items)
  | .mapping entries => .map (toFields [] entries)
  | .tagged _ content => toValue content

/-- The values that a list of data makes, each by `toValue`. -/
def toValues : List Datum → List Value
  | [] => []
  | item :: rest => toValue item :: toValues rest

/-- The fields that entries make by `keyName?` and `toValue`, written over the `fields` so far. -/
def toFields (fields : Fields) : List (Datum × Datum) → Fields
  | [] => fields
  | (key, value) :: rest =>
    match keyName? key with
    | some name => toFields (Keyed.put name (toValue value) fields) rest
    | none => toFields fields rest

end

end Datum

end Stencil.Yaml
