import Stencil.Proofs.Forest.Scan
import Stencil.Proofs.Variable.Substitute

/-!
# Passes over the variable tags of a forest

Each brace in the print of a well-formed forest opens a tag (`tagged_print`), so a
pass over the tags of the text is a pass over the variable tags of the forest, as long
as it leaves the tags of blocks alone (`substitute_print`). If it also prints no brace
that opens it is `Plain`, and what comes of it is well-formed again.

A block is repeated by putting copies of its children in its place, each after a pass
of its own (`repeated`). Passes and repetitions may be exchanged where they have
nothing to do with each other: no tag is printed by two passes, and no block is
repeated twice (`substitute_comm`, `substitute_graft`, `graft_comm`; for any two of
these changes, `Change.apply_comm`).
-/

namespace Stencil.Forest

open Block
open Variable (BraceFree Tagged tagged_of_not_mem tagged_tag)

/-! ## Passes -/

/-- What stands between the braces of the variable tags of a forest, those inside blocks
included. -/
def tags : Forest → List Text
  | nil => []
  | text _ rest => rest.tags
  | tag inside rest => inside :: rest.tags
  | block _ children rest => children.tags ++ rest.tags

/-- The forest with a text in the place of each variable tag for which `lookup` has one. -/
def substitute (lookup : Text → Option Text) : Forest → Forest
  | nil => nil
  | text content rest => text content (rest.substitute lookup)
  | tag inside rest =>
    match lookup inside with
    | some printed => text printed (rest.substitute lookup)
    | none => tag inside (rest.substitute lookup)
  | block name children rest =>
    block name (children.substitute lookup) (rest.substitute lookup)

/-- A pass `lookup` that leaves the tags of blocks alone and prints no brace that opens. -/
structure Plain (lookup : Text → Option Text) : Prop where
  openTag : ∀ name, lookup (openMark.tail ++ name) = none
  closeTag : ∀ name, lookup (closeMark.tail ++ name) = none
  printed : ∀ {inside printed : Text}, lookup inside = some printed → '{' ∉ printed

variable {lookup : Text → Option Text}

/-- In `substitute` the text of `lookup` takes the place of the tag that it is for. -/
theorem substitute_tag_of_some {inside printed : Text} (h : lookup inside = some printed)
    (rest : Forest) :
    (tag inside rest).substitute lookup = text printed (rest.substitute lookup) := by
  rw [substitute, h]

/-- In `substitute` a tag stays for which `lookup` has no text. -/
theorem substitute_tag_of_none {inside : Text} (h : lookup inside = none) (rest : Forest) :
    (tag inside rest).substitute lookup = tag inside (rest.substitute lookup) := by
  rw [substitute, h]

/-- By `substitute` a pass goes over two forests in a row one after the other. -/
theorem substitute_append (front after : Forest) :
    (front.append after).substitute lookup
      = (front.substitute lookup).append (after.substitute lookup) := by
  induction front with
  | nil => rfl
  | text content rest ih => rw [append, substitute, ih, substitute, append]
  | tag inside rest ih =>
    cases hlookup : lookup inside with
    | some printed =>
      rw [append, substitute_tag_of_some hlookup, ih, substitute_tag_of_some hlookup, append]
    | none =>
      rw [append, substitute_tag_of_none hlookup, ih, substitute_tag_of_none hlookup, append]
  | block name children rest _ ih => rw [append, substitute, ih, substitute, append]

/-- A pass leaves the `names` of the blocks as they are. -/
theorem names_substitute (forest : Forest) : (forest.substitute lookup).names = forest.names := by
  induction forest with
  | nil => rfl
  | text content rest ih => rw [substitute, names, ih, names]
  | tag inside rest ih =>
    cases hlookup : lookup inside with
    | some printed => rw [substitute_tag_of_some hlookup, names, ih, names]
    | none => rw [substitute_tag_of_none hlookup, names, ih, names]
  | block name children rest ihc ihr => rw [substitute, names, ihc, ihr, names]

/-- A `Plain` pass keeps a forest `WellFormed`. -/
theorem wellFormed_substitute (hplain : Plain lookup) {forest : Forest}
    (hwf : forest.WellFormed) : (forest.substitute lookup).WellFormed := by
  induction forest with
  | nil => trivial
  | text content rest ih => exact ⟨hwf.1, ih hwf.2⟩
  | tag inside rest ih =>
    cases hlookup : lookup inside with
    | some printed =>
      rw [substitute_tag_of_some hlookup]
      exact ⟨hplain.printed hlookup, ih hwf.2⟩
    | none =>
      rw [substitute_tag_of_none hlookup]
      exact ⟨hwf.1, ih hwf.2⟩
  | block name children rest ihc ihr =>
    obtain ⟨hname, hfree, hchildren, hrest⟩ := hwf
    refine ⟨hname, ?_, ihc hchildren, ihr hrest⟩
    rwa [names_substitute]

/-! ## Passes over the print -/

/-- There is no brace between the braces of a block tag: what stands there is `BraceFree`. -/
theorem braceFree_blockTag {name : Text} (hname : isName name) :
    BraceFree (openMark.tail ++ name) ∧ BraceFree (closeMark.tail ++ name) := by
  have hopens : '{' ∉ name := not_mem_name hname (by decide)
  have hcloses : '}' ∉ name := not_mem_name hname (by decide)
  simp [BraceFree, openMark, closeMark, hopens, hcloses]

/-- Each brace in the print of a `WellFormed` forest opens a tag, as `Tagged` says. -/
theorem tagged_print {forest : Forest} (hwf : forest.WellFormed) : Tagged forest.print := by
  induction forest with
  | nil => exact tagged_of_not_mem List.not_mem_nil
  | text content rest ih => exact (tagged_of_not_mem hwf.1).append (ih hwf.2)
  | tag inside rest ih =>
    obtain ⟨⟨hopens, hcloses, -⟩, hrest⟩ := hwf
    exact (tagged_tag ⟨hopens, hcloses⟩).append (ih hrest)
  | block name children rest ihc ihr =>
    obtain ⟨hname, -, hchildren, hrest⟩ := hwf
    have hopen : Tagged (openTag name) := tagged_tag (braceFree_blockTag hname).1
    have hclose : Tagged (closeTag name) := tagged_tag (braceFree_blockTag hname).2
    exact ((hopen.append (ihc hchildren)).append hclose).append (ihr hrest)

/-- A `Plain` pass over the print of a `WellFormed` forest, and over whatever follows it, is a pass
over the forest. -/
theorem substitute_print_append (hplain : Plain lookup) :
    ∀ {forest : Forest} (rest : Text), forest.WellFormed →
      Variable.substitute lookup (forest.print ++ rest)
        = (forest.substitute lookup).print ++ Variable.substitute lookup rest
  | .nil, _, _ => rfl
  | .text content after, rest, ⟨hcontent, hafter⟩ => by
    rw [print, List.append_assoc, Variable.substitute_append_of_not_mem lookup hcontent,
      substitute_print_append hplain rest hafter, substitute, print, List.append_assoc]
  | .tag inside after, rest, ⟨⟨hopens, hcloses, _⟩, hafter⟩ => by
    have hinside : BraceFree inside := ⟨hopens, hcloses⟩
    rw [print, List.append_assoc, Variable.substitute_tag lookup hinside,
      substitute_print_append hplain rest hafter]
    cases hlookup : lookup inside with
    | some printed =>
      rw [substitute_tag_of_some hlookup, print, List.append_assoc, Option.getD_some]
    | none => rw [substitute_tag_of_none hlookup, print, List.append_assoc, Option.getD_none]
  | .block name children after, rest, ⟨hname, _, hchildren, hafter⟩ => by
    have hopen : ∀ behind, Variable.substitute lookup (openTag name ++ behind)
        = openTag name ++ Variable.substitute lookup behind := by
      intro behind
      have hpass := Variable.substitute_tag lookup (braceFree_blockTag hname).1 behind
      rwa [hplain.openTag name] at hpass
    have hclose : ∀ behind, Variable.substitute lookup (closeTag name ++ behind)
        = closeTag name ++ Variable.substitute lookup behind := by
      intro behind
      have hpass := Variable.substitute_tag lookup (braceFree_blockTag hname).2 behind
      rwa [hplain.closeTag name] at hpass
    rw [print_block_append, hopen, substitute_print_append hplain _ hchildren, hclose,
      substitute_print_append hplain rest hafter, substitute, print_block_append]

/-- A `Plain` pass over the print of a `WellFormed` forest is a pass over the forest. -/
theorem substitute_print (hplain : Plain lookup) {forest : Forest} (hwf : forest.WellFormed) :
    Variable.substitute lookup forest.print = (forest.substitute lookup).print := by
  have hpass := substitute_print_append hplain [] hwf
  rwa [List.append_nil, Variable.substitute_nil, List.append_nil] at hpass

/-! ## Repetition -/

/-- The `children` of a block once for each pass of a list, after that pass. -/
def repeated : List (Text → Option Text) → Forest → Forest
  | [], _ => nil
  | lookup :: copies, children => (children.substitute lookup).append (repeated copies children)

/-- The copies of `repeated` are printed in a row. -/
theorem print_repeated (copies : List (Text → Option Text)) (children : Forest) :
    (repeated copies children).print
      = copies.flatMap fun lookup => (children.substitute lookup).print := by
  induction copies with
  | nil => rfl
  | cons lookup copies ih => rw [repeated, print_append, ih, List.flatMap_cons]

/-- To put copies in the place of their block is `Tame`: they bring in no blocks of their own. -/
theorem tame_repeated {copies : List (Text → Option Text)}
    (hcopies : ∀ lookup ∈ copies, Plain lookup) : Tame (repeated copies) := by
  induction copies with
  | nil => exact tame_nil
  | cons lookup copies ih =>
    obtain ⟨hlookup, hrest⟩ := List.forall_mem_cons.mp hcopies
    refine ⟨fun children => ?_, fun hchildren => ?_⟩
    · rw [repeated, names_append, names_substitute]
      exact List.append_subset.mpr ⟨List.Subset.refl _, (ih hrest).names children⟩
    · exact wellFormed_append (wellFormed_substitute hlookup hchildren)
        ((ih hrest).wellFormed hchildren)

/-! ## Exchanging passes and repetitions -/

/-- No tag of the forest is printed by both passes `lookup` and `lookup'`. -/
def Apart (forest : Forest) (lookup lookup' : Text → Option Text) : Prop :=
  ∀ inside ∈ forest.tags, lookup inside = none ∨ lookup' inside = none

variable {lookup' : Text → Option Text} {copies copies' : List (Text → Option Text)}

/-- Two passes are `Apart` in a block and the nodes after it if they are in its `children` and in
those nodes. -/
theorem apart_block_iff {name : Text} {children rest : Forest} :
    (block name children rest).Apart lookup lookup' ↔
      children.Apart lookup lookup' ∧ rest.Apart lookup lookup' :=
  List.forall_mem_append

/-- Passes that are `Apart` may be exchanged. -/
theorem substitute_comm {forest : Forest} (hapart : forest.Apart lookup lookup') :
    (forest.substitute lookup).substitute lookup'
      = (forest.substitute lookup').substitute lookup := by
  induction forest with
  | nil => rfl
  | text content rest ih => simp only [substitute, ih hapart]
  | tag inside rest ih =>
    obtain ⟨hinside, hrest⟩ := List.forall_mem_cons.mp hapart
    cases hlookup : lookup inside with
    | none =>
      rw [substitute_tag_of_none hlookup]
      cases hlookup' : lookup' inside with
      | none =>
        rw [substitute_tag_of_none hlookup', substitute_tag_of_none hlookup',
          substitute_tag_of_none hlookup, ih hrest]
      | some printed =>
        rw [substitute_tag_of_some hlookup', substitute_tag_of_some hlookup', substitute,
          ih hrest]
    | some printed =>
      have hlookup' : lookup' inside = none := hinside.resolve_left (by simp [hlookup])
      rw [substitute_tag_of_some hlookup, substitute_tag_of_none hlookup',
        substitute_tag_of_some hlookup, substitute, ih hrest]
  | block name children rest ihc ihr =>
    obtain ⟨hchildren, hrest⟩ := apart_block_iff.mp hapart
    simp only [substitute, ihc hchildren, ihr hrest]

/-- A pass over copies is a pass over what is `repeated`, if the copies print none of its tags. -/
theorem substitute_repeated {children : Forest}
    (hapart : ∀ copy ∈ copies, children.Apart copy lookup) :
    (repeated copies children).substitute lookup
      = repeated copies (children.substitute lookup) := by
  induction copies with
  | nil => rfl
  | cons copy copies ih =>
    obtain ⟨hcopy, hrest⟩ := List.forall_mem_cons.mp hapart
    rw [repeated, substitute_append, ih hrest, substitute_comm hcopy, repeated]

/-- A pass may be made before blocks are `repeated`, if the copies print none of its tags. -/
theorem substitute_graft {pattern : Pattern} {forest : Forest}
    (hapart : ∀ copy ∈ copies, forest.Apart copy lookup) :
    (forest.graft pattern (repeated copies)).substitute lookup
      = (forest.substitute lookup).graft pattern (repeated copies) := by
  induction forest with
  | nil => rfl
  | text content rest ih => rw [graft, substitute, ih hapart, substitute, graft]
  | tag inside rest ih =>
    have hrest := ih fun copy hcopy => (List.forall_mem_cons.mp (hapart copy hcopy)).2
    cases hlookup : lookup inside with
    | some printed =>
      rw [graft, substitute_tag_of_some hlookup, substitute_tag_of_some hlookup, graft, hrest]
    | none =>
      rw [graft, substitute_tag_of_none hlookup, substitute_tag_of_none hlookup, graft, hrest]
  | block name children rest ihc ihr =>
    have hchildren := fun copy hcopy => (apart_block_iff.mp (hapart copy hcopy)).1
    have hrest := ihr fun copy hcopy => (apart_block_iff.mp (hapart copy hcopy)).2
    by_cases hadmits : pattern.admits name
    · rw [graft_of_admits hadmits, substitute_append, substitute_repeated hchildren, hrest,
        substitute, graft_of_admits hadmits]
    · rw [graft_of_not_admits hadmits, substitute, ihc hchildren, hrest, substitute,
        graft_of_not_admits hadmits]

/-- What `graft` puts into two forests in a row is put into each of them. -/
theorem graft_append (pattern : Pattern) (swap : Forest → Forest) (front after : Forest) :
    (front.append after).graft pattern swap
      = (front.graft pattern swap).append (after.graft pattern swap) := by
  induction front with
  | nil => rfl
  | text content rest ih => rw [append, graft, ih, graft, append]
  | tag inside rest ih => rw [append, graft, ih, graft, append]
  | block name children rest _ ih =>
    by_cases hadmits : pattern.admits name
    · rw [append, graft_of_admits hadmits, ih, graft_of_admits hadmits, append_assoc]
    · rw [append, graft_of_not_admits hadmits, ih, graft_of_not_admits hadmits, append]

/-- Blocks are `repeated` in copies as they are in what is copied, if no tag is printed for both. -/
theorem graft_repeated {pattern : Pattern} {children : Forest}
    (hapart : ∀ copy ∈ copies, ∀ copy' ∈ copies', children.Apart copy' copy) :
    (repeated copies children).graft pattern (repeated copies')
      = repeated copies (children.graft pattern (repeated copies')) := by
  induction copies with
  | nil => rfl
  | cons copy copies ih =>
    obtain ⟨hcopy, hrest⟩ := List.forall_mem_cons.mp hapart
    rw [repeated, graft_append, ih hrest, ← substitute_graft hcopy, repeated]

/-- Repetitions of different blocks may be exchanged, if no tag is printed for both: the passes are
`Apart` in the forest. -/
theorem graft_comm {pattern pattern' : Pattern}
    (hblocks : ∀ name, pattern.admits name → ¬ pattern'.admits name) {forest : Forest}
    (hapart : ∀ copy ∈ copies, ∀ copy' ∈ copies', forest.Apart copy copy') :
    (forest.graft pattern (repeated copies)).graft pattern' (repeated copies')
      = (forest.graft pattern' (repeated copies')).graft pattern (repeated copies) := by
  induction forest with
  | nil => rfl
  | text content rest ih => simp only [graft, ih hapart]
  | tag inside rest ih =>
    have hrest := ih fun copy hcopy copy' hcopy' =>
      (List.forall_mem_cons.mp (hapart copy hcopy copy' hcopy')).2
    simp only [graft, hrest]
  | block name children rest ihc ihr =>
    have hchildren := fun copy hcopy copy' hcopy' =>
      (apart_block_iff.mp (hapart copy hcopy copy' hcopy')).1
    have hrest := ihr fun copy hcopy copy' hcopy' =>
      (apart_block_iff.mp (hapart copy hcopy copy' hcopy')).2
    by_cases hadmits : pattern.admits name
    · -- The other blocks among the children are repeated in each copy.
      have hother := hblocks name hadmits
      have hswapped : ∀ copy ∈ copies, ∀ copy' ∈ copies', children.Apart copy' copy :=
        fun copy hcopy copy' hcopy' inside hinside =>
          (hchildren copy hcopy copy' hcopy' inside hinside).symm
      rw [graft_of_admits hadmits, graft_append, graft_repeated hswapped, hrest,
        graft_of_not_admits hother, graft_of_admits hadmits]
    · by_cases hadmits' : pattern'.admits name
      · have hswapped : ∀ copy' ∈ copies', ∀ copy ∈ copies, children.Apart copy copy' :=
          fun copy' hcopy' copy hcopy => hchildren copy hcopy copy' hcopy'
        rw [graft_of_not_admits hadmits, graft_of_admits hadmits', graft_of_admits hadmits',
          graft_append, graft_repeated hswapped, hrest]
      · rw [graft_of_not_admits hadmits, graft_of_not_admits hadmits',
          graft_of_not_admits hadmits', graft_of_not_admits hadmits, ihc hchildren, hrest]

/-! ## Changes -/

/-- What can be done to a forest: blocks of a name are repeated, or a pass is made. -/
inductive Change where
  | graft (name : Text) (copies : List (Text → Option Text))
  | substitute (lookup : Text → Option Text)

namespace Change

/-- The forest after the change: a `graft` of `repeated` children, or a `substitute`. -/
def apply : Change → Forest → Forest
  | graft name copies, forest => forest.graft (.named name) (repeated copies)
  | substitute lookup, forest => forest.substitute lookup

/-- The name of the blocks that are changed. -/
def block? : Change → Option Text
  | graft name _ => some name
  | substitute _ => none

/-- The passes that are made over parts of the forest or over all of it. -/
def lookups : Change → List (Text → Option Text)
  | graft _ copies => copies
  | substitute lookup => [lookup]

/-- A change with `Plain` passes keeps a forest `WellFormed`. -/
theorem wellFormed_apply {change : Change} (hplain : ∀ lookup ∈ change.lookups, Plain lookup)
    {forest : Forest} (hwf : forest.WellFormed) : (change.apply forest).WellFormed := by
  cases change with
  | graft name copies => exact wellFormed_graft (.named name) (tame_repeated hplain) hwf
  | substitute lookup => exact wellFormed_substitute (hplain lookup List.mem_cons_self) hwf

/-- The forest after `apply` for each of the `changes` in order. -/
def applyAll (changes : List Change) (forest : Forest) : Forest :=
  changes.foldl (fun before change => change.apply before) forest

/-- Changes with `Plain` passes keep a forest `WellFormed`. -/
theorem wellFormed_applyAll {changes : List Change}
    (hplain : ∀ change ∈ changes, ∀ lookup ∈ change.lookups, Plain lookup) {forest : Forest}
    (hwf : forest.WellFormed) : (applyAll changes forest).WellFormed := by
  induction changes generalizing forest with
  | nil => exact hwf
  | cons change rest ih =>
    obtain ⟨hfirst, hothers⟩ := List.forall_mem_cons.mp hplain
    exact ih hothers (wellFormed_apply hfirst hwf)

/-- Changes of different blocks (`hblocks`) may be exchanged, if no tag is printed by a pass of each
(`hapart`). -/
theorem apply_comm {first second : Change}
    (hblocks : ∀ name ∈ first.block?, name ∉ second.block?) {forest : Forest}
    (hapart : ∀ lookup ∈ first.lookups, ∀ lookup' ∈ second.lookups, forest.Apart lookup lookup') :
    second.apply (first.apply forest) = first.apply (second.apply forest) := by
  cases first with
  | graft name copies =>
    cases second with
    | graft name' copies' =>
      have hne : name ≠ name' := by
        rintro rfl
        exact hblocks name rfl rfl
      refine graft_comm (fun other hadmits hadmits' => hne ?_) hapart
      rw [← admits_named_iff.mp hadmits, admits_named_iff.mp hadmits']
    | substitute lookup =>
      exact substitute_graft fun copy hcopy => hapart copy hcopy lookup List.mem_cons_self
  | substitute lookup =>
    cases second with
    | graft name copies =>
      refine (substitute_graft fun copy hcopy inside hinside => ?_).symm
      exact (hapart lookup List.mem_cons_self copy hcopy inside hinside).symm
    | substitute lookup' =>
      exact substitute_comm (hapart lookup List.mem_cons_self lookup' List.mem_cons_self)

end Change

end Stencil.Forest
