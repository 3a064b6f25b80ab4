import Stencil.Pass.Basic
import Stencil.Post

/-!
# The post pass

Renders the block of the posts once for each post of the context. Entries of the
list of posts that are no maps are passed over and do not count.
-/

namespace Stencil.Posts

/-- The key of the list of posts, and the block that is rendered for each of them. -/
def key : Text := "Posts".toList

/-- The posts of a context: the maps in the list under `key`, if there is a list. -/
def posts? (context : Context) : Option (List Fields) :=
  ((context.get? key).bind Value.list?).map (List.filterMap Value.map?)

/-- Gathers one copy of a template for each post, made by `Post.fill` with places from `place`
on. -/
def gather (now : Int) : Nat → List Fields → Template → Template
  | _, [], template => template
  | place, post :: rest, template =>
    gather now (place + 1) rest (template.edit (Post.fill place post now)).commit

/-- Fills in the `posts?` of the context when the clock shows `now`: each block for `key` gives way
to what `gather` makes of its body, with places from one on. -/
def fill (now : Int) (context : Context) (cursor : Cursor) : Cursor :=
  match posts? context with
  | none => cursor
  | some posts => Id.run (cursor.gatherM key fun template => pure (gather now 1 posts template))

/-- The pass for posts when the clock shows `now`, which does nothing but `fill`. -/
def pass {m : Type → Type} [Monad m] (now : Int) : Pass m where
  name := "posts".toList
  render context := modify (fill now context)

end Stencil.Posts
