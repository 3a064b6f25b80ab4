import Stencil.Proofs.Block.Cleanup
import Stencil.Proofs.Forest.Basic

/-!
# Searching the print of a forest

The search for regions reads characters and knows nothing of forests. On the print
of a well-formed forest it finds the blocks of the forest all the same: `cut` is
the split that a forest calls for, and `regions_print` says that the search makes
that split, whatever follows the print.
-/

namespace Stencil.Forest

open Block Text

/-! ## Where nothing begins -/

/-- A `mark` without a closing brace that begins a tag begins what is `inside` it. -/
theorem prefix_of_prefix_tag {mark inside rest after : Text} (hmark : '}' ∉ mark)
    (h : inside ++ '}' :: rest = mark ++ after) : mark <+: inside := by
  rcases List.append_eq_append_iff.mp h with ⟨e, hmark', hrest⟩ | ⟨e, hinside, -⟩
  · -- The mark would hold the brace that ends the tag.
    cases e with
    | nil => exact ⟨[], by simpa using hmark'⟩
    | cons c e =>
      obtain ⟨rfl, -⟩ := List.cons.inj hrest
      exact absurd (by simp [hmark']) hmark
  · exact ⟨e, hinside.symm⟩

/-- A tag ends at the first brace that closes, so what is `inside` it can be told from what follows
it. -/
theorem eq_of_append_brace {inside other rest after : Text} (hinside : '}' ∉ inside)
    (hother : '}' ∉ other) (h : inside ++ '}' :: rest = other ++ '}' :: after) : inside = other :=
  (prefix_of_prefix_tag hinside h.symm).eq_of_length_le (prefix_of_prefix_tag hother h).length_le

/-- A reader `read?` of what begins with a brace that recognises nothing at the nodes of
`WellFormed` forests: not at variable tags, and not at the tags of blocks whose names are
`allowed`. -/
structure Ignores {α : Type} (read? : Text → Option (α × Text)) (allowed : Text → Prop) :
    Prop where
  brace : BeginsWith '{' read?
  tag : ∀ {inside : Text} (rest : Text), IsInside inside →
    read? (Variable.tag inside ++ rest) = none
  openTag : ∀ {name : Text} (rest : Text), isName name → allowed name →
    read? (Block.openTag name ++ rest) = none
  closeTag : ∀ {name : Text} (rest : Text), isName name → allowed name →
    read? (Block.closeTag name ++ rest) = none

variable {α : Type} {read? : Text → Option (α × Text)} {allowed : Text → Prop}

/-- What stands behind the opening brace of a tag of a well-formed name has no
opening brace. -/
theorem not_mem_behind_brace {name : Text} (hname : isName name) :
    '{' ∉ (openTag name).tail ∧ '{' ∉ (closeTag name).tail := by
  have hfree : '{' ∉ name := not_mem_name hname (by decide)
  simp [openTag, closeTag, openMark, closeMark, hfree]

/-- A reader that `Ignores` the nodes passes over a variable tag. -/
theorem Ignores.refuses_tag (h : Ignores read? allowed) {inside : Text} (rest : Text)
    (hinside : IsInside inside) : Refuses read? (Variable.tag inside) rest := by
  refine ⟨h.tag rest hinside, refuses_of_not_mem h.brace ?_⟩
  simp [hinside.1]

/-- A reader that `Ignores` the nodes passes over an `openTag` whose name is `allowed`. -/
theorem Ignores.refuses_openTag (h : Ignores read? allowed) {name : Text} (rest : Text)
    (hname : isName name) (hallowed : allowed name) :
    Refuses read? (Block.openTag name) rest :=
  ⟨h.openTag rest hname hallowed, refuses_of_not_mem h.brace (not_mem_behind_brace hname).1⟩

/-- A reader that `Ignores` the nodes passes over a `closeTag` whose name is `allowed`. -/
theorem Ignores.refuses_closeTag (h : Ignores read? allowed) {name : Text} (rest : Text)
    (hname : isName name) (hallowed : allowed name) :
    Refuses read? (Block.closeTag name) rest :=
  ⟨h.closeTag rest hname hallowed, refuses_of_not_mem h.brace (not_mem_behind_brace hname).2⟩

/-- A reader that `Ignores` the nodes passes over the whole print of a forest whose names are all
`allowed`. -/
theorem Ignores.refuses_print (h : Ignores read? allowed) :
    ∀ {forest : Forest} (rest : Text), forest.WellFormed →
      (∀ name ∈ forest.names, allowed name) → Refuses read? forest.print rest
  | .nil, _, _, _ => trivial
  | .text content after, rest, hwf, hallowed =>
    refuses_append (refuses_of_not_mem h.brace hwf.1) (h.refuses_print rest hwf.2 hallowed)
  | .tag inside after, rest, hwf, hallowed =>
    refuses_append (h.refuses_tag _ hwf.1) (h.refuses_print rest hwf.2 hallowed)
  | .block name children after, rest, ⟨hname, _, hchildren, hafter⟩, hallowed => by
    obtain ⟨hself, hrest⟩ := List.forall_mem_cons.mp hallowed
    obtain ⟨hin, hout⟩ := List.forall_mem_append.mp hrest
    refine refuses_append (refuses_append (refuses_append ?_ ?_) ?_) ?_
    · exact h.refuses_openTag _ hname hself
    · exact h.refuses_print _ hchildren hin
    · exact h.refuses_closeTag _ hname hself
    · exact h.refuses_print _ hafter hout

/-- The search for the `openTag` of a name ignores blocks of any other name. -/
theorem ignores_openTag {target : Text} (htarget : '}' ∉ target) :
    Ignores (readMark? (Block.openTag target)) (· ≠ target) where
  brace {c text} hc := readMark?_eq_none_iff.mpr fun rest hrest => hc (List.cons.inj hrest).1
  tag {inside} rest hinside := by
    refine readMark?_eq_none_iff.mpr fun after hafter => ?_
    have hbehind : inside ++ '}' :: rest = openMark.tail ++ (target ++ '}' :: after) := by
      simpa [Variable.tag, Block.openTag, openMark] using hafter
    exact hinside.2.2.1 (prefix_of_prefix_tag (by decide) hbehind)
  openTag {name} rest hname hne := by
    refine readMark?_eq_none_iff.mpr fun after hafter => hne ?_
    have hbehind : name ++ '}' :: rest = target ++ '}' :: after := by
      simpa [Block.openTag] using hafter
    exact eq_of_append_brace (not_mem_name hname (by decide)) htarget hbehind
  closeTag {name} rest _ _ := by
    refine readMark?_eq_none_iff.mpr fun after hafter => ?_
    simp [Block.openTag, Block.closeTag, openMark, closeMark] at hafter

/-- The search for the `closeTag` of a name ignores blocks of any other name. -/
theorem ignores_closeTag {target : Text} (htarget : '}' ∉ target) :
    Ignores (readMark? (Block.closeTag target)) (· ≠ target) where
  brace {c text} hc := readMark?_eq_none_iff.mpr fun rest hrest => hc (List.cons.inj hrest).1
  tag {inside} rest hinside := by
    refine readMark?_eq_none_iff.mpr fun after hafter => ?_
    have hbehind : inside ++ '}' :: rest = closeMark.tail ++ (target ++ '}' :: after) := by
      simpa [Variable.tag, closeTag, closeMark] using hafter
    exact hinside.2.2.2 (prefix_of_prefix_tag (by decide) hbehind)
  openTag {name} rest _ _ := by
    refine readMark?_eq_none_iff.mpr fun after hafter => ?_
    simp [Block.openTag, Block.closeTag, openMark, closeMark] at hafter
  closeTag {name} rest hname hne := by
    refine readMark?_eq_none_iff.mpr fun after hafter => hne ?_
    have hbehind : name ++ '}' :: rest = target ++ '}' :: after := by
      simpa [Block.closeTag] using hafter
    exact eq_of_append_brace (not_mem_name hname (by decide)) htarget hbehind

/-- The search by `region?` ignores blocks that the pattern does not admit. -/
theorem ignores_region? {pattern : Pattern} (hpattern : ∀ name, pattern.admits name → isName name) :
    Ignores (region? pattern) (¬ pattern.admits ·) where
  brace := beginsWith_region? pattern
  tag {inside} rest hinside := by
    refine region?_eq_none_iff.mpr fun name after _ hafter => ?_
    have hbehind : inside ++ '}' :: rest = openMark.tail ++ (name ++ '}' :: after) := by
      simpa [Variable.tag, openTag, openMark] using hafter
    exact absurd (prefix_of_prefix_tag (by decide) hbehind) hinside.2.2.1
  openTag {name} rest hname hadmits := by
    refine region?_eq_none_iff.mpr fun other after hother hafter => ?_
    obtain ⟨rfl, -⟩ := @openTag_append_inj .any _ _ _ _ hname (hpattern other hother) hafter
    exact absurd hother hadmits
  closeTag {name} rest _ _ := by
    refine region?_eq_none_iff.mpr fun other after _ hafter => ?_
    simp [Block.openTag, Block.closeTag, openMark, closeMark] at hafter

/-! ## The split that a forest calls for -/

/-- The split of a forest in front of the split `after` of what follows it: the outermost blocks
that the pattern admits are the pieces, and all else goes into the gaps. -/
def cut (pattern : Pattern) : Forest → Split Region → Split Region
  | nil, after => after
  | text content rest, after => (rest.cut pattern after).pushText content
  | tag inside rest, after => (rest.cut pattern after).pushText (Variable.tag inside)
  | block name children rest, after =>
    if pattern.admits name then (rest.cut pattern after).pushPiece ⟨name, children.print⟩
    else
      (children.cut pattern ((rest.cut pattern after).pushText (Block.closeTag name))).pushText
        (Block.openTag name)

/-- Where a block is admitted `cut` makes it a piece. -/
theorem cut_of_admits {pattern : Pattern} {name : Text} (h : pattern.admits name)
    (children rest : Forest) (after : Split Region) :
    (block name children rest).cut pattern after
      = (rest.cut pattern after).pushPiece ⟨name, children.print⟩ :=
  if_pos h

/-- Where a block is not admitted `cut` makes its tags text. -/
theorem cut_of_not_admits {pattern : Pattern} {name : Text} (h : ¬ pattern.admits name)
    (children rest : Forest) (after : Split Region) :
    (block name children rest).cut pattern after
      = (children.cut pattern ((rest.cut pattern after).pushText (Block.closeTag name))).pushText
        (Block.openTag name) :=
  if_neg h

/-- A block of a `WellFormed` forest is `Closed` by its own close tag. -/
theorem closed_of_not_mem {name : Text} (hname : isName name) {children : Forest}
    (hwf : children.WellFormed) (hfree : name ∉ children.names) :
    Region.Closed ⟨name, children.print⟩ := by
  refine endsFirst_of_refuses
    ((ignores_closeTag (not_mem_name hname (by decide))).refuses_print _ hwf ?_)
  intro other hother heq
  subst heq
  exact hfree hother

/-- The print of a block, and what stands behind each part of it. -/
theorem print_block_append (name : Text) (children rest : Forest) (after : Text) :
    (block name children rest).print ++ after
      = Block.openTag name
        ++ (children.print ++ (Block.closeTag name ++ (rest.print ++ after))) := by
  simp only [print, List.append_assoc]

/-- An admitted block at the front of a text is read by `region?` with all of its children. -/
theorem region?_block {pattern : Pattern} {name : Text} (hadmits : pattern.admits name)
    (hname : isName name) {children : Forest} (hwf : children.WellFormed)
    (hfree : name ∉ children.names) (after : Text) :
    region? pattern (Block.openTag name ++ (children.print ++ (Block.closeTag name ++ after)))
      = some (⟨name, children.print⟩, after) :=
  region?_eq_some_iff.mpr
    ⟨hadmits, closed_of_not_mem hname hwf hfree, by simp only [Region.raw, List.append_assoc]⟩

/-- The search `regions` splits the print of a `WellFormed` forest as `cut` calls for, and goes on
with what follows it. -/
theorem regions_print_append {pattern : Pattern}
    (hpattern : ∀ name, pattern.admits name → isName name) :
    ∀ {forest : Forest} (rest : Text), forest.WellFormed →
      regions pattern (forest.print ++ rest) = forest.cut pattern (regions pattern rest)
  | .nil, _, _ => rfl
  | .text content after, rest, ⟨hcontent, hafter⟩ => by
    rw [print, List.append_assoc, cut, ← regions_print_append hpattern rest hafter]
    exact split_append_of_refuses (refuses_of_not_mem (beginsWith_region? pattern) hcontent)
  | .tag inside after, rest, ⟨hinside, hafter⟩ => by
    rw [print, List.append_assoc, cut, ← regions_print_append hpattern rest hafter]
    exact split_append_of_refuses ((ignores_region? hpattern).refuses_tag _ hinside)
  | .block name children after, rest, ⟨hname, hfree, hchildren, hafter⟩ => by
    rw [print_block_append]
    by_cases hadmits : pattern.admits name
    · rw [cut_of_admits hadmits, ← regions_print_append hpattern rest hafter]
      exact regions_of_some (region?_block hadmits hname hchildren hfree _)
    · -- The search passes over both tags, and looks for blocks between them.
      have hignores := ignores_region? hpattern
      have hclose : regions pattern (Block.closeTag name ++ (after.print ++ rest))
          = (regions pattern (after.print ++ rest)).pushText (Block.closeTag name) :=
        split_append_of_refuses (hignores.refuses_closeTag _ hname hadmits)
      rw [cut_of_not_admits hadmits, ← regions_print_append hpattern rest hafter, ← hclose,
        ← regions_print_append hpattern _ hchildren]
      exact split_append_of_refuses (hignores.refuses_openTag _ hname hadmits)

/-- The search `regions` splits the print of a `WellFormed` forest as `cut` calls for. -/
theorem regions_print {pattern : Pattern} (hpattern : ∀ name, pattern.admits name → isName name)
    {forest : Forest} (hwf : forest.WellFormed) :
    regions pattern forest.print = forest.cut pattern ⟨[], []⟩ := by
  have hsplit := regions_print_append hpattern [] hwf
  have hnil : regions pattern [] = ⟨[], []⟩ := split_nil
  rwa [List.append_nil, hnil] at hsplit

/-- A pattern `named` for a well-formed name admits well-formed names only. -/
theorem isName_of_admits_named {target : Text} (htarget : isName target) (name : Text)
    (h : (Pattern.named target).admits name) : isName name :=
  admits_named_iff.mp h ▸ htarget

/-- The pattern `any` admits well-formed names only. -/
theorem isName_of_admits_any (name : Text) (h : Pattern.any.admits name) : isName name :=
  admits_any_iff.mp h

/-! ## Replacing blocks -/

/-- To `render` the pieces of the `cut` of a forest is to `graft`, if what is rendered for a block
is the print of what `swap` puts in its place. -/
theorem assemble_cut {pattern : Pattern} {render : Region → Text} {swap : Forest → Forest}
    (hswap : ∀ name children, pattern.admits name → children.WellFormed →
      render ⟨name, children.print⟩ = (swap children).print)
    {forest : Forest} (hwf : forest.WellFormed) :
    ∀ after, (forest.cut pattern after).assemble render
      = (forest.graft pattern swap).print ++ after.assemble render := by
  induction forest with
  | nil => exact fun after => rfl
  | text content rest ih =>
    intro after
    rw [cut, Split.assemble_pushText, ih hwf.2, graft, print, List.append_assoc]
  | tag inside rest ih =>
    intro after
    rw [cut, Split.assemble_pushText, ih hwf.2, graft, print, List.append_assoc]
  | block name children rest ihc ihr =>
    obtain ⟨-, -, hchildren, hrest⟩ := hwf
    intro after
    by_cases hadmits : pattern.admits name
    · rw [cut_of_admits hadmits, Split.assemble_pushPiece, ihr hrest, graft_of_admits hadmits,
        print_append, hswap name children hadmits hchildren, List.append_assoc]
    · rw [cut_of_not_admits hadmits, Split.assemble_pushText, ihc hchildren,
        Split.assemble_pushText, ihr hrest, graft_of_not_admits hadmits, print]
      simp only [List.append_assoc]

/-- To `replace` the regions in the print of a `WellFormed` forest is to `graft`. -/
theorem replace_print {pattern : Pattern} (hpattern : ∀ name, pattern.admits name → isName name)
    {render : Region → Text} {swap : Forest → Forest}
    (hswap : ∀ name children, pattern.admits name → children.WellFormed →
      render ⟨name, children.print⟩ = (swap children).print)
    {forest : Forest} (hwf : forest.WellFormed) :
    replace pattern render forest.print = (forest.graft pattern swap).print := by
  rw [replace, regions_print hpattern hwf, assemble_cut hswap hwf]
  exact List.append_nil _

/-- Without blocks the print of a forest does not have a complete block, `HasComplete`. -/
theorem not_hasComplete_print {forest : Forest} (hwf : forest.WellFormed)
    (hnames : forest.names = []) : ¬ HasComplete forest.print := by
  have hignores := ignores_region? isName_of_admits_any
  have hrefuses := hignores.refuses_print [] hwf (by simp [hnames])
  exact fun h => hasComplete_iff.mp h (pieces_of_refuses hrefuses)

/-- What `removeAll` leaves of the print of a `WellFormed` forest is the print of its `leaves`. -/
theorem removeAll_print {forest : Forest} (hwf : forest.WellFormed) :
    removeAll forest.print = forest.leaves.print := by
  have hpass : remove .any forest.print = forest.leaves.print := by
    rw [← graft_any_nil hwf]
    exact replace_print isName_of_admits_any (fun _ _ _ _ => rfl) hwf
  have hleaves : forest.leaves.WellFormed :=
    graft_any_nil hwf ▸ wellFormed_graft .any tame_nil hwf
  rw [← removeAll_remove, hpass]
  exact removeAll_of_not_hasComplete (not_hasComplete_print hleaves (names_leaves forest))

/-! ## Finding blocks -/

/-- The blocks of the name `target`, each before the blocks inside it, as regions. -/
def blocksOf (target : Text) : Forest → List Region
  | nil => []
  | text _ rest => rest.blocksOf target
  | tag _ rest => rest.blocksOf target
  | block name children rest =>
    (if name = target then [⟨name, children.print⟩] else [])
      ++ (children.blocksOf target ++ rest.blocksOf target)

/-- Without blocks of the name `target` there are none in `blocksOf`. -/
theorem blocksOf_of_not_mem {target : Text} {forest : Forest} (h : target ∉ forest.names) :
    forest.blocksOf target = [] := by
  induction forest with
  | nil => rfl
  | text content rest ih => exact ih h
  | tag inside rest ih => exact ih h
  | block name children rest ihc ihr =>
    simp only [names, List.mem_cons, List.mem_append, not_or] at h
    obtain ⟨hname, hchildren, hrest⟩ := h
    rw [blocksOf, if_neg (fun heq => hname heq.symm), ihc hchildren, ihr hrest]
    rfl

/-- The `cut` of a forest finds the blocks of a name in the order of `blocksOf`. -/
theorem found_cut {target : Text} {forest : Forest} (hwf : forest.WellFormed) :
    ∀ after, (forest.cut (.named target) after).found
      = forest.blocksOf target ++ after.found := by
  induction forest with
  | nil => exact fun after => rfl
  | text content rest ih =>
    intro after
    rw [cut, Split.found_pushText, ih hwf.2, blocksOf]
  | tag inside rest ih =>
    intro after
    rw [cut, Split.found_pushText, ih hwf.2, blocksOf]
  | block name children rest ihc ihr =>
    obtain ⟨-, hfree, hchildren, hrest⟩ := hwf
    intro after
    by_cases hname : name = target
    · subst hname
      rw [cut_of_admits (admits_named_iff.mpr rfl), Split.found_pushPiece, ihr hrest, blocksOf,
        if_pos rfl, blocksOf_of_not_mem hfree]
      rfl
    · rw [cut_of_not_admits (fun h => hname (admits_named_iff.mp h)), Split.found_pushText,
        ihc hchildren, Split.found_pushText, ihr hrest, blocksOf, if_neg hname]
      simp only [List.nil_append, List.append_assoc]

/-- The outermost blocks with their places, when the print begins at the byte `start`. -/
def topPlaces : Nat → Forest → List Place
  | _, nil => []
  | start, text content rest => rest.topPlaces (start + byteLength content)
  | start, tag inside rest => rest.topPlaces (start + byteLength (Variable.tag inside))
  | start, block name children rest =>
    let region : Region := ⟨name, children.print⟩
    let stop := start + byteLength region.raw
    ⟨region, start, stop⟩ :: rest.topPlaces stop

/-- The search for `any` block finds the outermost blocks at their `topPlaces`. -/
theorem placesFrom_print {forest : Forest} (hwf : forest.WellFormed) :
    ∀ start, placesFrom .any start forest.print = topPlaces start forest := by
  induction forest with
  | nil => exact fun start => placesFrom_nil .any start
  | text content rest ih =>
    intro start
    have hrefuses : Refuses (region? .any) content rest.print :=
      refuses_of_not_mem (beginsWith_region? .any) hwf.1
    rw [print, placesFrom_of_refuses hrefuses, ih hwf.2, topPlaces]
  | tag inside rest ih =>
    intro start
    have hrefuses := (ignores_region? isName_of_admits_any).refuses_tag rest.print hwf.1
    rw [print, placesFrom_of_refuses hrefuses, ih hwf.2, topPlaces]
  | block name children rest _ ih =>
    obtain ⟨hname, hfree, hchildren, hrest⟩ := hwf
    intro start
    have hread := region?_block (admits_any_iff.mpr hname) hname hchildren hfree rest.print
    have hprint := print_block_append name children rest []
    rw [List.append_nil, List.append_nil] at hprint
    rw [hprint, placesFrom_of_some hread, ih hrest, topPlaces]

/-- By `find` the blocks of a name are found in the order of `blocksOf`. -/
theorem find_print {target : Text} (htarget : isName target) {forest : Forest}
    (hwf : forest.WellFormed) :
    find (.named target) forest.print = (forest.blocksOf target).map Region.raw := by
  rw [find, regions_print (isName_of_admits_named htarget) hwf, found_cut hwf]
  simp [Split.found]

/-- **Blocks are treated as the forest has them.** On the `print` of a `WellFormed` forest,
`unwrap`, `remove` and `find` for a name do to the text what `Forest.unwrap`, `erase` and `blocksOf`
mean for the forest, the search for any block finds the outermost blocks at their `topPlaces`,
`removeAll` leaves the other outermost nodes, and the forests that come of unwrapping and erasing
are `WellFormed` again. -/
theorem print_simulates {forest : Forest} (hwf : forest.WellFormed) {target : Text}
    (htarget : isName target) :
    Block.unwrap (.ofTag target) forest.print = (forest.unwrap target).print ∧
      remove (.ofTag target) forest.print = (forest.erase target).print ∧
      find (.ofTag target) forest.print = (forest.blocksOf target).map Region.raw ∧
      places (.ofTag []) forest.print = topPlaces 0 forest ∧
      removeAll forest.print = forest.leaves.print ∧
      (forest.unwrap target).WellFormed ∧ (forest.erase target).WellFormed := by
  have htag : Pattern.ofTag target = .named target := by
    cases target with
    | nil => cases htarget
    | cons c rest => rfl
  have hpattern := isName_of_admits_named htarget
  rw [htag]
  refine ⟨?_, ?_, find_print htarget hwf, placesFrom_print hwf 0, removeAll_print hwf, ?_, ?_⟩
  · exact replace_print hpattern (fun _ _ _ _ => rfl) hwf
  · exact replace_print hpattern (fun _ _ _ _ => rfl) hwf
  · exact wellFormed_graft _ tame_id hwf
  · exact wellFormed_graft _ tame_nil hwf

/-- A block that lies inside another one and has a namesake behind it, with text that
comes to stand behind a variable tag. -/
def nestedSample : Forest :=
  .block ['A'] (.tag ['T'] (.block ['B'] (.text ['b', '}'] .nil) .nil))
    (.block ['B'] (.text ['x'] .nil) (.text ['t'] .nil))

/-- What becomes of the blocks of one name in `nestedSample`. -/
theorem print_simulates_nestedSample :
    nestedSample.WellFormed ∧ isName ['B'] ∧
      Block.unwrap (.ofTag ['B']) nestedSample.print
        = openTag ['A'] ++ Variable.tag ['T'] ++ ['b', '}'] ++ closeTag ['A'] ++ ['x', 't'] ∧
      remove (.ofTag ['B']) nestedSample.print
        = openTag ['A'] ++ Variable.tag ['T'] ++ closeTag ['A'] ++ ['t'] ∧
      find (.ofTag ['B']) nestedSample.print
        = [openTag ['B'] ++ ['b', '}'] ++ closeTag ['B'], openTag ['B'] ++ ['x'] ++ closeTag ['B']] ∧
      (places (.ofTag []) nestedSample.print).map (fun place => (place.start, place.stop))
        = [(0, 43), (43, 63)] ∧
      removeAll nestedSample.print = ['t'] := by
  have hwf : nestedSample.WellFormed := by decide
  have hname : isName ['B'] := by decide
  obtain ⟨hunwrap, hremove, hfind, hplaces, hleaves, -, -⟩ := print_simulates hwf hname
  refine ⟨hwf, hname, hunwrap.trans ?_, hremove.trans ?_, hfind.trans ?_, ?_, hleaves.trans ?_⟩
  · decide
  · decide
  · decide
  · rw [hplaces]
    decide
  · decide

end Stencil.Forest
