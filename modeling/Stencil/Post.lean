import Stencil.Cursor.Template
import Stencil.Time.Tag
import Stencil.Unicode.Case

/-!
# Posts

A post is a map of fields, and a post's copy of a template is filled in from
it in three steps: by its place in the list of posts, by its fields, and by its
tags. A field that is a text keeps its block and fills in its variable; a field
that is a map or a list of maps repeats its block. The type of the post keeps
one further block, and its time, if it is a timestamp that can be told, fills in
the time tags.
-/

namespace Stencil.Post

/-! ## The place of a post -/

/-- Keeps the blocks for the post's `place`, counted from one, and for the parity of that place. -/
def fillPlace (place : Nat) (cursor : Cursor) : Cursor :=
  (cursor.unwrap ("Post".toList ++ Text.decimal place)).unwrap
    (if place % 2 = 1 then "Odd".toList else "Even".toList)

/-! ## The fields of a post -/

/-- The block of a post type: the type with its first letter a capital. -/
def typeBlock : Text → Text
  | [] => []
  | c :: rest => Unicode.upper c ++ rest

/-- The key of the tags, which are no field. -/
def tagsKey : Text := "Tags".toList

/-- Keeps the `typeBlock` of the post's type, if it has one that is not empty. -/
def fillType (post : Fields) (cursor : Cursor) : Cursor :=
  match (post.get? "PostType".toList).bind Value.text? with
  | none => cursor
  | some [] => cursor
  | some kind => cursor.unwrap (typeBlock kind)

/-- Fills in one field: a list or a map repeats the block of its `key`, and a text that is not empty
keeps it and fills in the variable. The `tagsKey` is no field. -/
def fillField (key : Text) (value : Value) (cursor : Cursor) : Cursor :=
  if key = tagsKey then cursor
  else match value with
    | .list rows => cursor.repeatRows key (rows.filterMap Value.map?)
    | .map row => cursor.repeatRows key [row]
    | .text [] => cursor
    | .text content => (cursor.unwrap key).fill key content true

/-- The timestamp of a post, if its `Time` is the numeral of a 64-bit integer that
`isFormattable`. -/
def timestamp? (post : Fields) : Option Int := do
  let content ← (← post.get? "Time".toList).text?
  let stamp ← Text.readInteger? 10 content
  if -9223372036854775808 ≤ stamp ∧ stamp ≤ 9223372036854775807 ∧ Time.isFormattable stamp then
    some stamp
  else none

/-- Fills in the time tags `Time.fields`, if the post has a `timestamp?`. -/
def fillTime (post : Fields) (now : Int) (cursor : Cursor) : Cursor :=
  match timestamp? post with
  | none => cursor
  | some stamp => cursor.fillFields (Time.fields stamp now) true

/-- Fills in the fields of a post: its type by `fillType`, each field in turn by `fillField`, and
its time by `fillTime`. -/
def fillFields (post : Fields) (now : Int) (cursor : Cursor) : Cursor :=
  fillTime post now
    (post.foldl (fun filled entry => fillField entry.1 entry.2 filled) (fillType post cursor))

/-! ## The tags of a post -/

/-- The variables of a tag: the tag itself, its form-encoded text, and the
addresses of its pages. -/
def tagRow (tag : Text) : Fields :=
  let safe := FormEncoding.encode tag
  let address := "/tagged/".toList ++ safe
  [("Tag".toList, .text tag),
    ("URLSafeTag".toList, .text safe),
    ("TagURL".toList, .text address),
    ("TagURLChrono".toList, .text (address ++ "/chrono".toList))]

/-- Keeps the block for posts with tags and repeats the block of the tags once for each `tagRow`;
does nothing when `tags` is empty. -/
def fillTags (tags : List Text) (cursor : Cursor) : Cursor :=
  if tags.isEmpty then cursor
  else (cursor.unwrap "HasTags".toList).repeatRows tagsKey (tags.map tagRow)

/-- The tags of a post: the texts in order of its list under `tagsKey`, none without a list. -/
def tags (post : Fields) : List Text :=
  ((((post.get? tagsKey).bind Value.list?).getD []).filterMap Value.text?)

/-! ## A post -/

/-- Fills in a post that stands at a `place` in the list of posts: first by `fillPlace`, then by
`fillFields`, then by `fillTags` with its `tags`. -/
def fill (place : Nat) (post : Fields) (now : Int) (cursor : Cursor) : Cursor :=
  fillTags (tags post) (fillFields post now (fillPlace place cursor))

end Stencil.Post
