import Stencil.Block.Choice
import Stencil.Proofs.Forest.Scan

/-!
# Choosing between two branches

A condition is settled in two passes over the text: the blocks of the branch that does
not hold are taken out, and then those of the other one lose their tags. On a forest
this is one recursion (`choose`): a block of the dropped branch goes with all it
contains, a block of the kept branch gives its place to what is left of its children,
and every other node stays.

The names of the two branches have a stem that is not empty, so a label of which nothing
is left still means two blocks of its own, and never all of them. The letters of a label
need not be those that block names are made of. Then no block has the name of a branch,
and as a tag ends at its first closing brace nothing else is taken for one
(`replace_print_named`).

Theorems:
- `unwrap_erase`: the two passes over a forest are one recursion.
- `names_choose`: the blocks that are left.
- `chooses_print`: what is left of a template when a condition is settled.
-/

namespace Stencil

namespace Block

open Text

/-- The name of the blocks that stay when a condition comes out as `holds` says: `If` or `IfNot`,
and the `conditionName` of the label. -/
def branch (label : Text) (holds : Bool) : Text :=
  (if holds then ['I', 'f'] else ['I', 'f', 'N', 'o', 't']) ++ conditionName label

/-- The names `branch` of the two branches are different. -/
theorem branch_ne (label : Text) (holds : Bool) : branch label holds ≠ branch label (!holds) := by
  intro h
  have hlength := congrArg List.length h
  cases holds with
  | true => simp [branch] at hlength
  | false =>
    simp [branch] at hlength
    omega

/-- A tag of a `branch` ends where its label does. -/
theorem closeBrace_not_mem_branch {label : Text} (h : '}' ∉ conditionName label) (holds : Bool) :
    '}' ∉ branch label holds := by
  cases holds <;> simp [branch, h]

/-- By `choose` the branch that does not hold is taken out, and then the other one loses its
tags. -/
theorem choose_eq (label : Text) (holds : Bool) (text : Text) :
    choose label holds text
      = unwrap (.named (branch label holds)) (remove (.named (branch label (!holds))) text) := by
  cases holds <;> rfl

/-- Labels with the same `conditionName` are one. -/
theorem choose_congr {label other : Text} (h : conditionName other = conditionName label)
    (holds : Bool) (text : Text) : choose other holds text = choose label holds text := by
  rw [choose_eq, choose_eq, branch, branch, branch, branch, h]

end Block

namespace Forest

open Block Text

variable {forest : Forest} {target kept dropped : Text}

/-! ## Names that no block has -/

/-- The blocks of a `WellFormed` forest have names for which `isName` holds. -/
theorem isName_of_mem_names (hwf : forest.WellFormed) : ∀ name ∈ forest.names, isName name := by
  induction forest with
  | nil => exact fun name hname => absurd hname List.not_mem_nil
  | text content rest ih => exact ih hwf.2
  | tag inside rest ih => exact ih hwf.2
  | block name children rest ihc ihr =>
    obtain ⟨hname, -, hchildren, hrest⟩ := hwf
    exact List.forall_mem_cons.mpr
      ⟨hname, List.forall_mem_append.mpr ⟨ihc hchildren, ihr hrest⟩⟩

/-- Without blocks of the name `target` there is nothing to `graft`. -/
theorem graft_of_not_mem (h : target ∉ forest.names) (swap : Forest → Forest) :
    forest.graft (.named target) swap = forest := by
  induction forest with
  | nil => rfl
  | text content rest ih => rw [graft, ih h]
  | tag inside rest ih => rw [graft, ih h]
  | block name children rest ihc ihr =>
    simp only [names, List.mem_cons, List.mem_append, not_or] at h
    obtain ⟨hname, hchildren, hrest⟩ := h
    rw [graft_of_not_admits fun hadmits => hname (admits_named_iff.mp hadmits).symm,
      ihc hchildren, ihr hrest]

/-- Where no block has the name `target` none of its tags stands in the print. -/
theorem not_infix_print (hwf : forest.WellFormed) (htarget : '}' ∉ target)
    (hfree : target ∉ forest.names) :
    ¬ openTag target <:+: forest.print ∧ ¬ closeTag target <:+: forest.print := by
  have hother : ∀ name ∈ forest.names, name ≠ target := fun name hname heq => hfree (heq ▸ hname)
  exact ⟨not_infix_of_refuses (List.cons_ne_nil _ _)
      ((ignores_openTag htarget).refuses_print [] hwf hother),
    not_infix_of_refuses (List.cons_ne_nil _ _)
      ((ignores_closeTag htarget).refuses_print [] hwf hother)⟩

/-- To `replace` the regions of a name is to `graft`, whether or not a block can have it. -/
theorem replace_print_named (htarget : '}' ∉ target) {render : Region → Text}
    {swap : Forest → Forest}
    (hswap : ∀ children : Forest, children.WellFormed →
      render ⟨target, children.print⟩ = (swap children).print)
    (hwf : forest.WellFormed) :
    replace (.named target) render forest.print = (forest.graft (.named target) swap).print := by
  by_cases hname : isName target
  · refine replace_print (isName_of_admits_named hname) ?_ hwf
    intro name children hadmits
    rw [admits_named_iff.mp hadmits]
    exact hswap children
  · have hfree : target ∉ forest.names := fun hmem => hname (isName_of_mem_names hwf target hmem)
    have hother : ∀ name ∈ forest.names, name ≠ target := fun name hmem heq => hfree (heq ▸ hmem)
    rw [graft_of_not_mem hfree]
    -- A region begins with its open tag, and that tag stands nowhere.
    refine replace_of_pieces_eq_nil (pieces_of_refuses
      (Refuses.mono ?_ ((ignores_openTag htarget).refuses_print [] hwf hother))) render
    intro text hnone
    refine region?_eq_none_iff.mpr fun name after hadmits htext => ?_
    rw [admits_named_iff.mp hadmits] at htext
    exact absurd htext (readMark?_eq_none_iff.mp hnone after)

/-! ## The chosen forest -/

/-- The forest without the blocks of the name `dropped` and all that they contain, and with what is
left of the children of each other block of the name `kept` in the place of the block. -/
def choose (kept dropped : Text) : Forest → Forest
  | nil => nil
  | text content rest => text content (rest.choose kept dropped)
  | tag inside rest => tag inside (rest.choose kept dropped)
  | block name children rest =>
    if name = dropped then rest.choose kept dropped
    else if name = kept then (children.choose kept dropped).append (rest.choose kept dropped)
    else block name (children.choose kept dropped) (rest.choose kept dropped)

/-- A block of the name `dropped` goes with all that it contains. -/
theorem choose_dropped (kept dropped : Text) (children rest : Forest) :
    (block dropped children rest).choose kept dropped = rest.choose kept dropped :=
  if_pos rfl

/-- A block of the name `kept` gives its place to what is left of its children. -/
theorem choose_kept (h : kept ≠ dropped) (children rest : Forest) :
    (block kept children rest).choose kept dropped
      = (children.choose kept dropped).append (rest.choose kept dropped) := by
  rw [choose, if_neg h, if_pos rfl]

/-- Any other block stays in `choose`. -/
theorem choose_other {name : Text} (hdropped : name ≠ dropped) (hkept : name ≠ kept)
    (children rest : Forest) :
    (block name children rest).choose kept dropped
      = block name (children.choose kept dropped) (rest.choose kept dropped) := by
  rw [choose, if_neg hdropped, if_neg hkept]

/-- In `erase` the blocks of the name `target` go with their children. -/
theorem erase_self (target : Text) (children rest : Forest) :
    (block target children rest).erase target = rest.erase target :=
  graft_of_admits (admits_named_iff.mpr rfl) _ children rest

/-- Other blocks stay when `erase` takes out those of a name. -/
theorem erase_other {name : Text} (h : name ≠ target) (children rest : Forest) :
    (block name children rest).erase target
      = block name (children.erase target) (rest.erase target) :=
  graft_of_not_admits (fun hadmits => h (admits_named_iff.mp hadmits)) _ children rest

/-- Blocks that `erase` takes out are gone, however deep. -/
theorem not_mem_names_erase (target : Text) (forest : Forest) :
    target ∉ (forest.erase target).names := by
  induction forest with
  | nil => exact List.not_mem_nil
  | text content rest ih => exact ih
  | tag inside rest ih => exact ih
  | block name children rest ihc ihr =>
    by_cases hname : name = target
    · subst hname
      rwa [erase_self]
    · rw [erase_other hname]
      simp only [names, List.mem_cons, List.mem_append, not_or]
      exact ⟨fun heq => hname heq.symm, ihc, ihr⟩

/-- **The two passes over a forest are one recursion**: `erase` and then `unwrap` is `choose`. -/
theorem unwrap_erase (hwf : forest.WellFormed) (hne : kept ≠ dropped) :
    (forest.erase dropped).unwrap kept = forest.choose kept dropped := by
  induction forest with
  | nil => rfl
  | text content rest ih =>
    have hrest := ih hwf.2
    rw [choose, ← hrest]
    rfl
  | tag inside rest ih =>
    have hrest := ih hwf.2
    rw [choose, ← hrest]
    rfl
  | block name children rest ihc ihr =>
    obtain ⟨-, hfree, hchildren, hrest⟩ := hwf
    by_cases hdropped : name = dropped
    · subst hdropped
      rw [erase_self, choose_dropped, ihr hrest]
    · rw [erase_other hdropped]
      by_cases hkept : name = kept
      · subst hkept
        -- A kept block has no other one inside, so its children are through with it.
        have hinner : name ∉ (children.erase dropped).names :=
          fun hmem => hfree (names_graft_subset _ tame_nil children hmem)
        have hsame : (children.erase dropped).unwrap name = children.erase dropped :=
          graft_of_not_mem hinner _
        rw [choose_kept hne, ← ihc hchildren, ← ihr hrest, hsame]
        exact graft_of_admits (admits_named_iff.mpr rfl) _ _ _
      · rw [choose_other hdropped hkept, ← ihc hchildren, ← ihr hrest]
        exact graft_of_not_admits (fun hadmits => hkept (admits_named_iff.mp hadmits)) _ _ _

/-- **The blocks that are left** by `choose` are those outside of `dropped` ones, but for the `kept`
ones, in their order. -/
theorem names_choose (hne : kept ≠ dropped) (forest : Forest) :
    (forest.choose kept dropped).names
      = (forest.erase dropped).names.filter fun name => name ≠ kept := by
  induction forest with
  | nil => rfl
  | text content rest ih => exact ih
  | tag inside rest ih => exact ih
  | block name children rest ihc ihr =>
    by_cases hdropped : name = dropped
    · subst hdropped
      rw [choose_dropped, erase_self, ihr]
    · rw [erase_other hdropped]
      by_cases hkept : name = kept
      · subst hkept
        rw [choose_kept hne, names_append, ihc, ihr, names, List.filter_cons_of_neg (by simp),
          List.filter_append]
      · rw [choose_other hdropped hkept, names, ihc, ihr, names,
          List.filter_cons_of_pos (by simpa using hkept), List.filter_append]

/-- Once `erase` has taken out the `dropped` blocks nothing changes for the others. -/
theorem choose_erase (forest : Forest) :
    (forest.erase dropped).choose kept dropped = forest.choose kept dropped := by
  induction forest with
  | nil => rfl
  | text content rest ih => exact congrArg (text content) ih
  | tag inside rest ih => exact congrArg (tag inside) ih
  | block name children rest ihc ihr =>
    by_cases hdropped : name = dropped
    · subst hdropped
      rw [erase_self, choose_dropped, ihr]
    · rw [erase_other hdropped, choose, choose, ihc, ihr]

/-! ## The chosen template -/

/-- What `Block.choose` leaves of the print of a forest when a condition is settled, in terms of
`Forest.choose` for its `branch`es. -/
structure Chooses (label : Text) (holds : Bool) (forest : Forest) : Prop where
  /-- The text that `Block.choose` leaves is the `print` of the chosen forest. -/
  print : Block.choose label holds forest.print
    = (forest.choose (branch label holds) (branch label (!holds))).print
  /-- The chosen forest is `WellFormed` again. -/
  wellFormed : (forest.choose (branch label holds) (branch label (!holds))).WellFormed
  /-- The blocks of any other name that lie in no dropped block survive. -/
  names : (forest.choose (branch label holds) (branch label (!holds))).names
    = (forest.erase (branch label (!holds))).names.filter fun name => name ≠ branch label holds
  /-- No tag of either branch is left. -/
  tags : ∀ outcome, ¬ openTag (branch label outcome) <:+: Block.choose label holds forest.print ∧
    ¬ closeTag (branch label outcome) <:+: Block.choose label holds forest.print
  /-- What lies in a dropped block makes no difference. -/
  erased : Block.choose label holds (forest.erase (branch label (!holds))).print
    = Block.choose label holds forest.print
  /-- Spaces and underscores in the label make no difference. -/
  label : ∀ other, conditionName other = conditionName label →
    Block.choose other holds forest.print = Block.choose label holds forest.print

/-- To settle a condition in the print of a forest is to `choose` in the forest. -/
theorem choose_print {label : Text} (hlabel : '}' ∉ conditionName label) (holds : Bool)
    (hwf : forest.WellFormed) :
    Block.choose label holds forest.print
      = (forest.choose (branch label holds) (branch label (!holds))).print := by
  have hremove : remove (.named (branch label (!holds))) forest.print
      = (forest.erase (branch label (!holds))).print :=
    replace_print_named (closeBrace_not_mem_branch hlabel _) (fun _ _ => rfl) hwf
  have herased : (forest.erase (branch label (!holds))).WellFormed :=
    wellFormed_graft _ tame_nil hwf
  rw [choose_eq, hremove, ← unwrap_erase hwf (branch_ne label holds)]
  exact replace_print_named (closeBrace_not_mem_branch hlabel _) (fun _ _ => rfl) herased

/-- **Settling a condition leaves what the forest says**: `Chooses` holds for every `WellFormed`
forest. In its print the blocks of the branch that does not hold go with all that they contain,
those of the other branch that are left lose their tags, and every other block, tag and text stays.
This is so for every `label` of which no closing brace is left (`hlabel`), be it empty. -/
theorem chooses_print (hwf : forest.WellFormed) {label : Text}
    (hlabel : '}' ∉ conditionName label) (holds : Bool) : Chooses label holds forest := by
  have hne := branch_ne label holds
  have herased : (forest.erase (branch label (!holds))).WellFormed :=
    wellFormed_graft _ tame_nil hwf
  have hchosen : (forest.choose (branch label holds) (branch label (!holds))).WellFormed :=
    unwrap_erase hwf hne ▸ wellFormed_graft _ tame_id herased
  have hnames := names_choose hne forest
  refine ⟨choose_print hlabel holds hwf, hchosen, hnames, ?_, ?_, fun other hother => ?_⟩
  · intro outcome
    rw [choose_print hlabel holds hwf]
    refine not_infix_print hchosen (closeBrace_not_mem_branch hlabel outcome) fun hmem => ?_
    rw [hnames, List.mem_filter] at hmem
    obtain ⟨hleft, hkept⟩ := hmem
    -- The outcome is the one that holds, or the other one.
    by_cases houtcome : outcome = holds
    · subst houtcome
      simp at hkept
    · rw [show outcome = !holds by cases outcome <;> cases holds <;> simp_all] at hleft
      exact not_mem_names_erase _ forest hleft
  · rw [choose_print hlabel holds hwf, choose_print hlabel holds herased]
    exact congrArg Forest.print (choose_erase forest)
  · exact choose_congr hother holds forest.print

/-- Branches inside one another and names that go on: of the label `Not_ Foo` the block `IfNotFoo`
is `kept`, which is the `dropped` one of the label `Foo`. -/
theorem chooses_print_nested :
    let label : Text := "Not_ Foo".toList
    let kept : Text := "IfNotFoo".toList
    let dropped : Text := "IfNotNotFoo".toList
    let other : Text := "IfFoo".toList
    let forest : Forest :=
      .block other (.tag ['x'] (.block dropped (.block kept (.text ['a'] .nil) .nil) .nil))
        (.block kept (.block dropped (.text ['b'] .nil) (.text ['c', '}'] .nil)) .nil)
    forest.WellFormed ∧ '}' ∉ conditionName label ∧
      Block.choose label true forest.print
        = openTag other ++ Variable.tag ['x'] ++ closeTag other ++ ['c', '}'] := by
  intro label kept dropped other forest
  have hwf : forest.WellFormed := by decide +kernel
  have hlabel : '}' ∉ conditionName label := by decide +kernel
  refine ⟨hwf, hlabel, (chooses_print hwf hlabel true).print.trans ?_⟩
  decide +kernel

/-- A label of which nothing is left means two blocks of its own. -/
example : Block.choose ['_', ' '] false
    (openTag ['I', 'f'] ++ closeTag ['I', 'f'] ++ openTag ['A'] ++ closeTag ['A'])
      = openTag ['A'] ++ closeTag ['A'] := by
  decide +kernel

end Forest

end Stencil
