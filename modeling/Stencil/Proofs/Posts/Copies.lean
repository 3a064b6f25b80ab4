import Stencil.Pass.Posts
import Stencil.Proofs.Cursor.Agree
import Stencil.Proofs.Cursor.Visit
import Stencil.Proofs.Theme.History

/-!
# The copies for posts

The pass for posts puts a row of copies in the place of each block of the posts, one
for each post. All of them are filled in on one template, one after the other. A copy
shows nothing of this: it is what its own post, at its own place in the list, makes of
a fresh cursor over the body of the block. So a post can neither be seen in the copy
of another post nor outside of the blocks. Its tags are read off the list under `Tags`
by `listedTags`, beside `Post.tags` that the pass asks.

Theorems:
- `initial_fill`: filling in a post does not change what a cursor began as.
- `tags_eq_listedTags`: the tags of a post are the texts of its list under `Tags`.
- `gather_ofText`: the copies that a template gathers are made from fresh cursors.
- `copies_congr`: a copy depends on its own post alone.
- `renderOn_posts`: what the pass makes of a text.
-/

namespace Stencil

open Block (Region)

/-! ## Filling in a post -/

namespace Post

theorem initial_fillType (post : Fields) (cursor : Cursor) :
    (fillType post cursor).initial = cursor.initial := by
  unfold fillType
  split <;> rfl

theorem initial_fillField (key : Text) (value : Value) (cursor : Cursor) :
    (fillField key value cursor).initial = cursor.initial := by
  unfold fillField
  by_cases hkey : key = tagsKey
  · rw [if_pos hkey]
  · rw [if_neg hkey]
    split <;> rfl

theorem initial_fillTime (post : Fields) (now : Int) (cursor : Cursor) :
    (fillTime post now cursor).initial = cursor.initial := by
  unfold fillTime
  split <;> rfl

theorem initial_fillTags (tags : List Text) (cursor : Cursor) :
    (fillTags tags cursor).initial = cursor.initial := by
  unfold fillTags
  split <;> rfl

/-- To fill in the fields of a post does not change the `initial` text of a cursor. -/
theorem initial_fillFields (post : Fields) (now : Int) (cursor : Cursor) :
    (fillFields post now cursor).initial = cursor.initial := by
  unfold fillFields
  rw [initial_fillTime]
  refine List.foldlRecOn (motive := fun filled : Cursor => filled.initial = cursor.initial) post _
    (initial_fillType post cursor) fun filled hfilled entry _ => ?_
  rw [initial_fillField, hfilled]

/-- To fill in a post does not change the `initial` text of a cursor. -/
theorem initial_fill (place : Nat) (post : Fields) (now : Int) (cursor : Cursor) :
    (fill place post now cursor).initial = cursor.initial := by
  unfold fill
  rw [initial_fillTags, initial_fillFields]
  rfl

end Post

namespace Posts

/-! ## The tags of a post -/

/-- The contents of those `items` that are a `.text`, in their order; an item that is a `.map` or a
`.list` is passed over. -/
def textsAmong : List Value → List Text
  | [] => []
  | .text content :: rest => content :: textsAmong rest
  | .map _ :: rest => textsAmong rest
  | .list _ :: rest => textsAmong rest

/-- The texts of the list that `post` has under `Tags`, in their order. There are none where `post`
has no value under `Tags` or one that is not a `.list`. -/
def listedTags (post : Fields) : List Text :=
  match post.get? "Tags".toList with
  | some (.list items) => textsAmong items
  | _ => []

/-- Keeping the texts by `Value.text?` is `textsAmong`. -/
theorem filterMap_text? (items : List Value) :
    items.filterMap Value.text? = textsAmong items := by
  induction items with
  | nil => rfl
  | cons item rest ih =>
    cases item with
    | text content => exact congrArg (content :: ·) ih
    | map entries => exact ih
    | list inner => exact ih

/-- The `Post.tags`, with which `Post.fill` fills in a copy, are the `listedTags`. -/
theorem tags_eq_listedTags (post : Fields) : Post.tags post = listedTags post := by
  unfold Post.tags listedTags Post.tagsKey
  cases post.get? "Tags".toList with
  | none => rfl
  | some value =>
    cases value with
    | text content => rfl
    | map entries => rfl
    | list items => exact filterMap_text? items

/-! ## One copy for each post -/

/-- The text that three steps leave of a fresh cursor over `body`: `Post.fillPlace` with the
`place`, `Post.fillFields` with the `post`, and `Post.fillTags` with the `listedTags` of the `post`,
which are the texts of the list under `Tags` in order, and none without a list. -/
def copy (now : Int) (body : Text) (place : Nat) (post : Fields) : Text :=
  (Post.fillTags (listedTags post)
    (Post.fillFields post now (Post.fillPlace place (Cursor.ofText body)))).current

/-- What `Post.fill` leaves of a fresh cursor is the `copy`. -/
theorem fill_ofText (now : Int) (body : Text) (place : Nat) (post : Fields) :
    (Post.fill place post now (Cursor.ofText body)).current = copy now body place post := by
  unfold Post.fill copy
  rw [tags_eq_listedTags]

/-- A `copy` of `body` for each of the `posts` in order, which are counted from one. -/
def copies (now : Int) (body : Text) (posts : List Fields) : List Text :=
  posts.mapIdx fun index post => copy now body (1 + index) post

/-- By `gather` each post is filled in at its place, and committed. -/
theorem gather_eq_foldl (now : Int) (place : Nat) (posts : List Fields) (template : Template) :
    gather now place posts template
      = (posts.mapIdx fun index post => Post.fill (place + index) post now).foldl
          (fun template change => (template.edit change).commit) template := by
  induction posts generalizing place template with
  | nil => rfl
  | cons post rest ih =>
    have hplaces : (fun index post => Post.fill (place + 1 + index) post now)
        = fun index post => Post.fill (place + (index + 1)) post now := by
      funext index post
      rw [Nat.add_assoc, Nat.add_comm 1 index]
    rw [gather, ih, List.mapIdx_cons, List.foldl_cons, hplaces]
    rfl

/-- By `gather` a template gathers the `copies` one after the other, each from a fresh cursor. -/
theorem gather_ofText (now : Int) (posts : List Fields) (body : Text) :
    gather now 1 posts (Template.ofText body)
      = ⟨Cursor.ofText body, (copies now body posts).flatten⟩ := by
  have hinitial : ∀ change ∈ posts.mapIdx fun index post => Post.fill (1 + index) post now,
      (change (Cursor.ofText body)).initial = body := by
    intro change hchange
    obtain ⟨index, hindex, rfl⟩ := List.mem_mapIdx.mp hchange
    exact Post.initial_fill _ _ now (Cursor.ofText body)
  have hcopies : (posts.mapIdx fun index post => Post.fill (1 + index) post now).map
      (fun change => (change (Cursor.ofText body)).current) = copies now body posts := by
    refine List.ext_getElem? fun index => ?_
    unfold copies
    rw [List.getElem?_map, List.getElem?_mapIdx, List.getElem?_mapIdx, Option.map_map]
    exact congrArg (posts[index]?.map ·) (funext fun post => fill_ofText now body (1 + index) post)
  rw [gather_eq_foldl, Template.ofText, Template.foldl_commit hinitial, List.flatMap_def, hcopies,
    List.nil_append]

/-- Of the `copies` each depends on its own post and its place alone. -/
theorem copies_congr {now : Int} {body : Text} {posts posts' : List Fields} {index : Nat}
    (h : posts'[index]? = posts[index]?) :
    (copies now body posts')[index]? = (copies now body posts)[index]? := by
  unfold copies
  rw [List.getElem?_mapIdx, List.getElem?_mapIdx, h]

/-! ## The pass -/

/-- The `pass` cannot fail, and does nothing but `fill` in the posts. -/
theorem renderOn_pass {σ : Type} (now : Int) (context : Context) (cursor : Cursor) (shared : σ) :
    Pass.renderOn context (pass now) (cursor, shared)
      = (.ok (), fill now context cursor, shared) := rfl

/-- To `fill` in posts puts their `copies` in the place of each of their blocks. -/
theorem fill_of_posts {now : Int} {context : Context} {posts : List Fields}
    (h : posts? context = some posts) (cursor : Cursor) :
    fill now context cursor
      = cursor.edit (Block.replace (.ofTag key) fun region =>
          (copies now region.body posts).flatten) := by
  have hregion : (fun region : Region =>
        (gather now 1 posts (Template.ofText region.body)).gathered)
      = fun region => (copies now region.body posts).flatten := by
    funext region
    rw [gather_ofText]
  unfold fill
  rw [h, ← hregion]
  exact Cursor.gatherM_pure (m := Id) key (gather now 1 posts) cursor

/-- **Each post is rendered by itself.** The `pieces` and the `tail` are the one `CutAt` of the text
at the blocks for `key`, whatever the `context` holds. Where `context.get? key` is a list of
`items`, `pass now` leaves what stands between the blocks, and in the place of each block it puts
the `copies` of its body for the maps among the `items` in order: each `copy` is made by its own
post, with the texts of this post's list of tags, from a fresh cursor, and items that are no maps
are passed over and do not count. In every other case (`_ => cursor`) nothing is changed. The last
part says that nothing leaks: where `posts` and `posts'` differ at the place `changed` alone, the
copies at every other `index` are equal, whatever the `body`. -/
theorem renderOn_posts (now : Int) (cursor : Cursor) :
    ∃ pieces tail, Block.CutAt (.ofTag key) cursor.current pieces tail ∧
      (∀ (context : Context) (σ : Type) (shared : σ),
        Pass.renderOn context (pass now) (cursor, shared) =
          (.ok (),
            match context.get? key with
            | some (.list items) =>
              ⟨pieces.flatMap (fun piece => piece.1 ++
                  (copies now piece.2.body (items.filterMap Value.map?)).flatten) ++ tail,
                cursor.initial⟩
            | _ => cursor,
            shared)) ∧
      ∀ (posts posts' : List Fields) (changed : Nat),
        (∀ index, index ≠ changed → posts'[index]? = posts[index]?) →
        ∀ body index, index ≠ changed →
          (copies now body posts')[index]? = (copies now body posts)[index]? := by
  refine ⟨_, _, Block.cutAt_regions (.ofTag key) cursor.current, fun context σ shared => ?_,
    fun posts posts' changed hposts body index hindex => copies_congr (hposts index hindex)⟩
  rw [renderOn_pass]
  split
  next items hitems =>
    have hposts : posts? context = some (items.filterMap Value.map?) := by
      unfold posts?
      rw [hitems]
      rfl
    rw [fill_of_posts hposts]
    rfl
  next hother =>
    have hposts : posts? context = none := by
      unfold posts?
      rw [Option.map_eq_none_iff, Option.bind_eq_none_iff]
      intro value hvalue
      cases value with
      | list items => exact absurd hvalue (hother items)
      | text content => rfl
      | map entries => rfl
    unfold fill
    rw [hposts]

/-- Two blocks for two posts with tags. An item between the posts is no map, and one among the tags
of `x` is no text; the tags of `w`, which takes the place of `x`, are no list, so that it has none
and its blocks for the tags stay. -/
theorem renderOn_posts_sample :
    let tagged := Block.openTag "HasTags".toList ++ Block.openTag "Tags".toList
      ++ Variable.tag "Tag".toList
      ++ Block.closeTag "Tags".toList ++ Block.closeTag "HasTags".toList
    let second := Block.openTag "Post2".toList ++ ['+'] ++ Block.closeTag "Post2".toList
    let body := Variable.tag ['T'] ++ tagged ++ second
    let block := Block.openTag "Posts".toList ++ body ++ Block.closeTag "Posts".toList
    let cursor := Cursor.ofText ('a' :: block ++ 'b' :: block)
    let post (title : Char) (tags : Value) : Fields :=
      [(['T'], .text [title]), ("Tags".toList, tags)]
    let x := post 'x' (.list [.text ['p'], .map [], .text ['q']])
    let z := post 'z' (.list [.text ['r']])
    let w := post 'w' (.text ['s'])
    let context : Context := { values := [("Posts".toList, .list [.map x, .text ['y'], .map z])] }
    (∀ index, index ≠ 0 → [w, z][index]? = [x, z][index]?) ∧
      (copies 0 body [w, z])[1]? = (copies 0 body [x, z])[1]? ∧
      copies 0 body [w, z] = ['w' :: tagged ++ second, ['z', 'r', '+']] ∧
      (Pass.renderOn context (pass 0) (cursor, ())).2.1.current
        = 'a' :: ('x' :: 'p' :: 'q' :: second) ++ ['z', 'r', '+', 'b']
          ++ ('x' :: 'p' :: 'q' :: second) ++ ['z', 'r', '+'] := by
  intro tagged second body block cursor post x z w context
  have hposts : ∀ index, index ≠ 0 → [w, z][index]? = [x, z][index]? := by
    intro index hindex
    cases index with
    | zero => exact absurd rfl hindex
    | succ index => rfl
  obtain ⟨pieces, tail, -, -, hsame⟩ := renderOn_posts 0 cursor
  refine ⟨hposts, hsame _ _ 0 hposts body 1 (by decide), ?_, ?_⟩
  · decide +kernel
  · decide +kernel

end Posts

end Stencil
