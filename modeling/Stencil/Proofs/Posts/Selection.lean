import Stencil.Proofs.Cursor.Commute
import Stencil.Proofs.Forest.TopLevel
import Stencil.Proofs.Posts.Time
import Stencil.Proofs.Unicode.Case

/-!
# What a post leaves alone

What is done for the fields of a post is a list of operations on the cursor (`operations`):
blocks are unwrapped or repeated under the names of the type and of the keys, and variables
are filled in under the keys, those of rows included, and under the names of the time tags. On
the print of a well-formed forest each of them is a change of the forest, as long as the post
is `Orderly`: then no name reaches over the end of a tag, no variable has the name of a block
tag, and nothing that is printed opens a brace. So a post changes the blocks that it selects
and the tags of its variables and nothing else (`keepsTo_of_mem_operations`), and a block of
any other name stays where it is (`fillFields_keeps_unselected`).

A post is not orderly that has something under the empty key. The tag of a block that is asked
for by no name means every block, and so such a field does to all blocks what fields do to
those of their name (`not_fillFields_keeps_unselected`).

Theorems:
- `fillFields_eq_runAll`: what is done for the fields of a post.
- `keepsTo_of_mem_operations`: each operation keeps to the post.
- `fillFields_keeps_unselected`: what becomes of the template.
-/

namespace Stencil.Post

open Block (isName Region)
open Cursor (Operation)
open Variable (BraceFree Form)

/-! ## What is done for a post -/

/-- What is done for the type of a post: to `unwrap` its block. -/
def typeOperations (post : Fields) : List Operation :=
  match (post.get? "PostType".toList).bind Value.text? with
  | none => []
  | some [] => []
  | some kind => [.unwrap (typeBlock kind)]

/-- What is done for a field: nothing for the `tagsKey` and an empty text, and else what
`Post.fillField` does. -/
def fieldOperations (key : Text) (value : Value) : List Operation :=
  if key = tagsKey then []
  else match value with
    | .list rows => [.repeatRows key (rows.filterMap Value.map?)]
    | .map row => [.repeatRows key [row]]
    | .text [] => []
    | .text content => [.unwrap key, .fill key content true]

/-- What is done for the time of a post: to `fill` in each of the time tags. -/
def timeOperations (post : Fields) (now : Int) : List Operation :=
  match timestamp? post with
  | none => []
  | some stamp => Time.Tag.all.map fun tag => .fill tag.name (tag.print stamp now) true

/-- What is done for the fields of a post, in order: for its type, for each field, and for its
time. -/
def operations (post : Fields) (now : Int) : List Operation :=
  typeOperations post ++ post.flatMap (fun entry => fieldOperations entry.1 entry.2)
    ++ timeOperations post now

theorem fillType_eq_runAll (post : Fields) (cursor : Cursor) :
    fillType post cursor = Operation.runAll (typeOperations post) cursor := by
  unfold fillType typeOperations
  cases (post.get? "PostType".toList).bind Value.text? with
  | none => rfl
  | some kind => cases kind <;> rfl

theorem fillField_eq_runAll (key : Text) (value : Value) (cursor : Cursor) :
    fillField key value cursor = Operation.runAll (fieldOperations key value) cursor := by
  unfold fillField fieldOperations
  split
  next => rfl
  next =>
    cases value with
    | list | map => rfl
    | text content => cases content <;> rfl

/-- The variables of a timestamp are filled in by `runAll` one after the other. -/
theorem fillFields_fields_eq_runAll (stamp now : Int) (tags : List Time.Tag) (cursor : Cursor) :
    cursor.fillFields (tags.map fun tag => (tag.name, .text (tag.print stamp now))) true
      = Operation.runAll (tags.map fun tag => .fill tag.name (tag.print stamp now) true)
        cursor := by
  induction tags generalizing cursor with
  | nil => rfl
  | cons tag rest ih => exact ih (cursor.fill tag.name (tag.print stamp now) true)

theorem fillTime_eq_runAll (post : Fields) (now : Int) (cursor : Cursor) :
    fillTime post now cursor = Operation.runAll (timeOperations post now) cursor := by
  unfold fillTime timeOperations
  cases timestamp? post with
  | none => rfl
  | some stamp => exact fillFields_fields_eq_runAll stamp now Time.Tag.all cursor

/-- **The fields of a post are filled in operation by operation**: `fillFields` is `runAll` of its
`operations`. -/
theorem fillFields_eq_runAll (post : Fields) (now : Int) (cursor : Cursor) :
    fillFields post now cursor = Operation.runAll (operations post now) cursor := by
  have hfields : ∀ cursor, post.foldl (fun filled entry => fillField entry.1 entry.2 filled) cursor
      = Operation.runAll (post.flatMap fun entry => fieldOperations entry.1 entry.2) cursor := by
    intro cursor
    rw [Operation.runAll, List.foldl_flatMap]
    congr 1
    funext filled entry
    exact fillField_eq_runAll entry.1 entry.2 filled
  rw [fillFields, fillTime_eq_runAll, hfields, fillType_eq_runAll]
  simp only [operations, Operation.runAll, List.foldl_append]

/-! ## What it is about -/

/-- The post selects the blocks of a name: those of its type, by `typeBlock`, and those of its
fields other than the tags. -/
def Selects (post : Fields) (name : Text) : Prop :=
  (∃ kind, post.get? "PostType".toList = some (.text kind) ∧ name = typeBlock kind) ∨
    name ∈ post.keys ∧ name ≠ tagsKey

/-- The name is that of a variable that the post fills in: a key at any depth (`allKeys`), or that
of a time tag if the post `HasTime`. -/
def IsVariable (post : Fields) (name : Text) : Prop :=
  name ∈ Fields.allKeys post ∨ (∃ stamp, HasTime post stamp) ∧ ∃ tag : Time.Tag, name = tag.name

/-- There are no braces in the texts of the post and neither braces nor colons in its keys, at
any depth, and it has nothing under the empty key. -/
structure Orderly (post : Fields) : Prop where
  texts : ∀ content ∈ Fields.texts post, BraceFree content
  keys : ∀ key ∈ Fields.allKeys post, BraceFree key ∧ ':' ∉ key
  empty : ∀ value, ([], value) ∈ post → value = .text []

/-- The operation is `Harmless`, is about blocks that the post `Selects`, and fills in variables of
the post. -/
structure KeepsTo (post : Fields) (operation : Operation) : Prop where
  harmless : operation.Harmless
  selects : ∀ name ∈ operation.block?, Selects post name
  entries : ∀ entry ∈ operation.entries, IsVariable post entry.1

variable {post : Fields}

/-- The `typeBlock` has a name that ends where its tag does. -/
theorem typeBlock_spec {kind : Text} (hne : kind ≠ []) (hkind : BraceFree kind) :
    typeBlock kind ≠ [] ∧ '}' ∉ typeBlock kind := by
  cases kind with
  | nil => exact absurd rfl hne
  | cons c rest =>
    refine ⟨List.append_ne_nil_of_left_ne_nil (Unicode.upper_ne_nil c) rest, fun hmem => ?_⟩
    rcases List.mem_append.mp hmem with hfirst | hrest
    · exact hkind.2 (Unicode.eq_of_closeBrace_mem_upper hfirst ▸ List.mem_cons_self)
    · exact hkind.2 (List.mem_cons_of_mem c hrest)

theorem keepsTo_of_mem_typeOperations (h : Orderly post) :
    ∀ operation ∈ typeOperations post, KeepsTo post operation := by
  intro operation hoperation
  unfold typeOperations at hoperation
  split at hoperation
  next => cases hoperation
  next => cases hoperation
  next kind hne hkind =>
    obtain ⟨value, hvalue, htext⟩ := Option.bind_eq_some_iff.mp hkind
    obtain rfl : value = .text kind := by
      cases value with
      | text content => exact congrArg Value.text (Option.some.inj htext)
      | map | list => cases htext
    obtain rfl := List.mem_singleton.mp hoperation
    have hcontent : kind ∈ Fields.texts post :=
      (Fields.subset_of_mem (Keyed.mem_of_get?_eq_some hvalue)).1 (by simp [Value.texts])
    have hspec := typeBlock_spec hne (h.texts kind hcontent)
    refine ⟨⟨?_, ?_⟩, ?_, ?_⟩
    · rintro name ⟨⟩
      exact hspec
    · exact fun entry hentry => nomatch hentry
    · rintro name ⟨⟩
      exact Or.inl ⟨kind, hvalue, rfl⟩
    · exact fun entry hentry => nomatch hentry

/-- What `fieldOperations` do is about the blocks of their key, and fills in what the value stands
for. -/
theorem spec_of_mem_fieldOperations {key : Text} {value : Value} {operation : Operation}
    (h : operation ∈ fieldOperations key value) :
    (∀ name ∈ operation.block?, name = key) ∧ key ≠ tagsKey ∧ value ≠ .text [] ∧
      ∀ entry ∈ operation.entries, (entry.1 = key ∨ entry.1 ∈ value.allKeys) ∧
        entry.2 ∈ value.texts := by
  unfold fieldOperations at h
  split at h
  next => cases h
  next hkey =>
    split at h
    next rows =>
      obtain rfl := List.mem_singleton.mp h
      refine ⟨fun name hname => (Option.some.inj hname).symm, hkey, nofun, fun entry hentry => ?_⟩
      obtain ⟨row, hrow, hmem⟩ := List.mem_flatMap.mp hentry
      obtain ⟨hname, hcontent⟩ := Fields.mem_of_mem_entries row hmem
      obtain ⟨htexts, hkeys⟩ := subset_of_mem_rows hrow
      rw [Value.allKeys, Value.texts]
      exact ⟨Or.inr (hkeys hname), htexts hcontent⟩
    next row =>
      obtain rfl := List.mem_singleton.mp h
      refine ⟨fun name hname => (Option.some.inj hname).symm, hkey, nofun, fun entry hentry => ?_⟩
      obtain ⟨other, hother, hmem⟩ := List.mem_flatMap.mp hentry
      rw [List.mem_singleton.mp hother] at hmem
      obtain ⟨hname, hcontent⟩ := Fields.mem_of_mem_entries row hmem
      rw [Value.allKeys, Value.texts]
      exact ⟨Or.inr hname, hcontent⟩
    next => cases h
    next content hcontent =>
      have hne : Value.text content ≠ .text [] := fun heq => hcontent (Value.text.inj heq)
      rcases List.mem_cons.mp h with rfl | h
      · exact ⟨fun name hname => (Option.some.inj hname).symm, hkey, hne, nofun⟩
      · obtain rfl := List.mem_singleton.mp h
        refine ⟨nofun, hkey, hne, fun entry hentry => ?_⟩
        rw [List.mem_singleton.mp hentry, Value.texts]
        exact ⟨Or.inl rfl, List.mem_singleton.mpr rfl⟩

theorem keepsTo_of_mem_fieldOperations (h : Orderly post) {key : Text} {value : Value}
    (hmem : (key, value) ∈ post) :
    ∀ operation ∈ fieldOperations key value, KeepsTo post operation := by
  intro operation hoperation
  obtain ⟨hblock, htags, hvalue, hentries⟩ := spec_of_mem_fieldOperations hoperation
  obtain ⟨htexts, hkey, hkeys⟩ := Fields.subset_of_mem hmem
  have hname : ∀ entry ∈ operation.entries, entry.1 ∈ Fields.allKeys post := by
    intro entry hentry
    rcases (hentries entry hentry).1 with heq | hinner
    · exact heq ▸ hkey
    · exact hkeys hinner
  refine ⟨⟨fun name hname => ?_, fun entry hentry => ⟨h.keys _ (hname entry hentry), ?_⟩⟩,
    fun name hname => ?_, fun entry hentry => Or.inl (hname entry hentry)⟩
  · obtain rfl := hblock name hname
    refine ⟨?_, (h.keys name hkey).1.2⟩
    rintro rfl
    exact hvalue (h.empty value hmem)
  · exact (h.texts _ (htexts (hentries entry hentry).2)).1
  · obtain rfl := hblock name hname
    exact Or.inr ⟨List.mem_map.mpr ⟨_, hmem, rfl⟩, htags⟩

theorem keepsTo_of_mem_timeOperations (now : Int) :
    ∀ operation ∈ timeOperations post now, KeepsTo post operation := by
  intro operation hoperation
  unfold timeOperations at hoperation
  split at hoperation
  next => cases hoperation
  next stamp hstamp =>
    obtain ⟨tag, -, rfl⟩ := List.mem_map.mp hoperation
    have hcolon : ':' ∉ tag.name := by
      cases tag <;> decide
    refine ⟨⟨nofun, fun entry hentry => ?_⟩, nofun, fun entry hentry => ?_⟩
    · rw [List.mem_singleton.mp hentry]
      exact ⟨⟨tag.braceFree_name, hcolon⟩, tag.openBrace_not_mem_print stamp now⟩
    · rw [List.mem_singleton.mp hentry]
      exact Or.inr ⟨⟨stamp, timestamp?_eq_some_iff.mp hstamp⟩, tag, rfl⟩

/-- **All that is done for an orderly post keeps to it**: each of its `operations` satisfies
`KeepsTo`. -/
theorem keepsTo_of_mem_operations (h : Orderly post) (now : Int) :
    ∀ operation ∈ operations post now, KeepsTo post operation := by
  intro operation hoperation
  rcases List.mem_append.mp hoperation with hoperation | htime
  · rcases List.mem_append.mp hoperation with htype | hfields
    · exact keepsTo_of_mem_typeOperations h operation htype
    · obtain ⟨entry, hentry, hmem⟩ := List.mem_flatMap.mp hfields
      exact keepsTo_of_mem_fieldOperations h hentry operation hmem
  · exact keepsTo_of_mem_timeOperations now operation htime

/-! ## What it leaves alone -/

/-- A change of the blocks that a post `Selects`, or of the tags of its variables. -/
structure Within (post : Fields) (change : Forest.Change) : Prop where
  selects : ∀ name ∈ change.block?, Selects post name
  plain : ∀ lookup ∈ change.lookups, Forest.Plain lookup
  printed : ∀ lookup ∈ change.lookups, ∀ {inside printed : Text}, lookup inside = some printed →
    ∃ (name : Text) (form : Form), IsVariable post name ∧ form.Names name inside

/-- The change of an operation that `KeepsTo` the post is `Within` it. -/
theorem KeepsTo.within {operation : Operation} (h : KeepsTo post operation) :
    Within post operation.change where
  selects := by
    rw [Operation.block?_change]
    exact h.selects
  plain := h.harmless.plain
  printed lookup hlookup inside printed hprinted := by
    obtain ⟨transform, entries, hsubset, rfl⟩ := Operation.exists_entries_of_mem_lookups hlookup
    obtain ⟨entry, hentry, form, hnames, -⟩ :=
      Variable.exists_names_of_entriesPrint? hprinted
    exact ⟨entry.1, form, h.entries entry (hsubset hentry), hnames⟩

/-- To fill in the fields of a post is to make the `changes` to a forest, and all of them are
`Within` the post. -/
structure Confined (post : Fields) (now : Int) (forest : Forest) (cursor : Cursor)
    (changes : List Forest.Change) : Prop where
  within : ∀ change ∈ changes, Within post change
  wellFormed : (Forest.Change.applyAll changes forest).WellFormed
  filled : fillFields post now cursor
    = cursor.setCurrent (Forest.Change.applyAll changes forest).print
  /-- Blocks at the top level that are not selected stay there in their order, with the changes
  made to their children. -/
  topLevel : ∀ name, isName name → ¬ Selects post name →
    ((forest.topBodies name).map (Forest.Change.applyAll changes)).Sublist
      ((Forest.Change.applyAll changes forest).topBodies name)
  /-- They are regions of the text, with what filling in the post makes of each body alone. -/
  found : ∀ name, isName name → ¬ Selects post name →
    ((forest.topBodies name).map fun body =>
      ⟨name, (fillFields post now (.ofText body.print)).current⟩).Sublist
        (Block.regions (.ofTag name) (fillFields post now cursor).current).found
  bodies : ∀ name, ∀ body ∈ forest.topBodies name,
    (fillFields post now (.ofText body.print)).current
      = (Forest.Change.applyAll changes body).print

/-- **A post changes only what it selects.** Let a template be the print of a `WellFormed` forest
and a post be `Orderly`. Then what `fillFields` makes of it is `Confined` to the post for some
`changes`: each block at the top level whose name the post does not select is still a region of the
text, in the same order, and inside it as elsewhere only selected blocks and tags of variables have
changed. -/
theorem fillFields_keeps_unselected (h : Orderly post) (now : Int) {forest : Forest}
    (hwf : forest.WellFormed) {cursor : Cursor} (hcursor : cursor.current = forest.print) :
    ∃ changes : List Forest.Change, Confined post now forest cursor changes := by
  have hkeeps := keepsTo_of_mem_operations h now
  have hharmless : ∀ operation ∈ operations post now, operation.Harmless :=
    fun operation hoperation => (hkeeps operation hoperation).harmless
  let changes := (operations post now).map Operation.change
  have hwithin : ∀ change ∈ changes, Within post change := by
    intro change hchange
    obtain ⟨operation, hoperation, rfl⟩ := List.mem_map.mp hchange
    exact (hkeeps operation hoperation).within
  have hfilled : ∀ {part : Forest} {cursor : Cursor}, part.WellFormed →
      cursor.current = part.print →
        fillFields post now cursor
          = cursor.setCurrent (Forest.Change.applyAll changes part).print := by
    intro part cursor hpart hcursor
    rw [fillFields_eq_runAll, Operation.runAll_print hharmless hpart hcursor]
  have hafter : (Forest.Change.applyAll changes forest).WellFormed :=
    Forest.Change.wellFormed_applyAll (fun change hchange => (hwithin change hchange).plain) hwf
  have htop : ∀ name, ¬ Selects post name →
      ((forest.topBodies name).map (Forest.Change.applyAll changes)).Sublist
        ((Forest.Change.applyAll changes forest).topBodies name) := fun name hunselected =>
    Forest.Change.sublist_topBodies_applyAll (fun change hchange hblock =>
      hunselected ((hwithin change hchange).selects name hblock)) forest
  have hbodies : ∀ name, ∀ body ∈ forest.topBodies name,
      (fillFields post now (.ofText body.print)).current
        = (Forest.Change.applyAll changes body).print := by
    intro name body hbody
    rw [hfilled (Forest.wellFormed_of_mem_topBodies hwf hbody) rfl]
    rfl
  refine ⟨changes, hwithin, hafter, hfilled hwf hcursor, fun name _ => htop name, ?_, hbodies⟩
  intro name hname hunselected
  have hregions := (htop name hunselected).map fun body : Forest => (⟨name, body.print⟩ : Region)
  have hsame : (forest.topBodies name).map (fun body =>
      (⟨name, (fillFields post now (.ofText body.print)).current⟩ : Region))
        = (forest.topBodies name).map fun body =>
          ⟨name, (Forest.Change.applyAll changes body).print⟩ :=
    List.map_congr_left fun body hbody => by rw [hbodies name body hbody]
  rw [List.map_map] at hregions
  rw [hsame, hfilled hwf hcursor]
  exact hregions.trans (Forest.sublist_found_print hname hafter)

/-- **A field without a name changes more than that**: a text under the empty key, which `Orderly`
leaves out, takes the tags off a block of any name. -/
theorem not_fillFields_keeps_unselected :
    ¬ ∀ (post : Fields) (now : Int) (forest : Forest) (name : Text), forest.WellFormed →
      (∀ content ∈ Fields.texts post, BraceFree content) →
      (∀ key ∈ Fields.allKeys post, BraceFree key ∧ ':' ∉ key) →
      isName name → ¬ Selects post name → ∀ body ∈ forest.topBodies name,
        ∃ region ∈ (Block.regions (.ofTag name)
          (fillFields post now (.ofText forest.print)).current).found, region.name = name := by
  intro h
  let post : Fields := [([], .text ['x'])]
  let forest : Forest := .block ['A'] (.text ['a'] .nil) .nil
  have hunselected : ¬ Selects post ['A'] := by
    rintro (⟨kind, hkind, -⟩ | ⟨hmem, -⟩)
    · cases hkind
    · revert hmem
      decide
  obtain ⟨region, hregion, -⟩ := h post 0 forest ['A'] (by decide) (by decide) (by decide)
    (by decide) hunselected _ List.mem_cons_self
  have hfound : (Block.regions (.ofTag ['A'])
      (fillFields post 0 (.ofText forest.print)).current).found = [] := by decide +kernel
  rw [hfound] at hregion
  cases hregion

/-- A block that the post does not select, inside the block of its type and behind it, with a
field and a variable inside. -/
theorem fillFields_keeps_unselected_nested :
    let post : Fields :=
      [("PostType".toList, .text "note".toList), ([], .text []), ("x y".toList, .text ['s']),
        (['R'], .list [.map [(['k'], .text ['1'])], .text ['-'], .map []]),
        ("Tags".toList, .list [.text ['t']])]
    let inner : Forest := .block ['R'] (.tag ['k'] .nil) (.tag "PlaintextX Y".toList .nil)
    let forest : Forest :=
      .block "Note".toList (.block ['N'] (.text ['a'] .nil) .nil)
        (.block ['N'] inner (.block "Tags".toList .nil .nil))
    let found := (Block.regions (.ofTag ['N'])
      (fillFields post 0 (.ofText forest.print)).current).found
    Orderly post ∧ forest.WellFormed ∧ isName ['N'] ∧ ¬ Selects post ['N'] ∧
      [⟨['N'], ['1'] ++ Variable.tag ['k'] ++ ['s']⟩].Sublist found ∧ found.length = 2 := by
  intro post inner forest found
  have horderly : Orderly post := by
    refine ⟨by decide +kernel, by decide +kernel, fun value hmem => ?_⟩
    simpa [post] using hmem
  have hwf : forest.WellFormed := by decide +kernel
  have hname : isName ['N'] := by decide
  have hunselected : ¬ Selects post ['N'] := by
    rintro (⟨kind, hkind, heq⟩ | ⟨hmem, -⟩)
    · obtain rfl := Value.text.inj (Option.some.inj hkind)
      revert heq
      decide +kernel
    · revert hmem
      decide +kernel
  have hcursor : (Cursor.ofText forest.print).current = forest.print := rfl
  obtain ⟨changes, hconfined⟩ := fillFields_keeps_unselected horderly 0 hwf hcursor
  have hinner : (fillFields post 0 (.ofText inner.print)).current
      = ['1'] ++ Variable.tag ['k'] ++ ['s'] := by decide +kernel
  refine ⟨horderly, hwf, hname, hunselected, ?_, by decide +kernel⟩
  rw [← hinner]
  exact hconfined.found ['N'] hname hunselected

end Stencil.Post
