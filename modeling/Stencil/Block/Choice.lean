import Stencil.Block.Region

/-!
# Conditional blocks

A condition chooses between the blocks `IfX` and `IfNotX`: the one that holds
loses its tags and the other one goes altogether. The label of a condition may
be written with spaces and underscores, which do not count.
-/

namespace Stencil.Block

/-- The label of a condition as its blocks are named: `label` without its blanks and underscores. -/
def conditionName (label : Text) : Text :=
  label.filter fun c => c ≠ ' ' ∧ c ≠ '_'

/-- The block that stays when the condition holds: `If` and the `conditionName` of the label. -/
def ifBlock (label : Text) : Pattern :=
  .named (['I', 'f'] ++ conditionName label)

/-- The block that stays when the condition does not hold: `IfNot` and the `conditionName`. -/
def ifNotBlock (label : Text) : Pattern :=
  .named (['I', 'f', 'N', 'o', 't'] ++ conditionName label)

/-- Takes the branch that does not hold out of the text by `remove`, then the tags off the other one
by `unwrap`. -/
def choose (label : Text) (holds : Bool) (text : Text) : Text :=
  if holds then unwrap (ifBlock label) (remove (ifNotBlock label) text)
  else unwrap (ifNotBlock label) (remove (ifBlock label) text)

end Stencil.Block
