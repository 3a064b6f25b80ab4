import Mathlib.Data.List.Basic
import Stencil.Cursor.Basic
import Stencil.Proofs.Forest.Choice
import Stencil.Proofs.Forest.Substitute
import Stencil.Proofs.Variable.Fill

/-!
# Exchanging what is done to a cursor

On the print of a well-formed forest every operation on blocks or variables of a cursor
is a change of the forest (`Operation.run_print`): unwrapping and removing blocks are
repetitions, with one copy and with none (`unwrap_eq_repeatRows`,
`remove_eq_repeatRows`), and filling in is a pass. So two operations on different blocks
can be done in either order, if no tag of the forest belongs to variables of both
(`Operation.run_comm`).
-/

namespace Stencil

open Block (isName Pattern Region openMark closeMark)
open Variable (BraceFree Form slotsOf fillSlots entriesPrint? exists_names_of_entriesPrint?)

namespace Cursor

/-! ## Entries on the print of a forest -/

/-- The entry has the name of a variable by `Variable.isName`, and a value without an opening
brace. -/
def IsEntry (entry : Text × Text) : Prop :=
  Variable.isName entry.1 ∧ '{' ∉ entry.2

instance (entry : Text × Text) : Decidable (IsEntry entry) :=
  inferInstanceAs (Decidable (_ ∧ _))

/-- The entry has no brace and no colon in its name, and a value without an opening brace. -/
def IsHarmless (entry : Text × Text) : Prop :=
  (BraceFree entry.1 ∧ ':' ∉ entry.1) ∧ '{' ∉ entry.2

/-- An `IsEntry` is an `IsHarmless` one: the name of a variable has neither braces nor colons. -/
theorem IsEntry.isHarmless {entry : Text × Text} (h : IsEntry entry) : IsHarmless entry :=
  ⟨⟨Variable.braceFree_of_isName h.1, Variable.not_mem_name h.1 (by decide)⟩, h.2⟩

/-- Entries that are `IsHarmless` leave the tags of blocks alone, as there is no colon in their
names. -/
theorem plain_entriesPrint? {transform : Bool} {entries : List (Text × Text)}
    (hentries : ∀ entry ∈ entries, IsHarmless entry) :
    Forest.Plain (entriesPrint? transform entries) := by
  have hcolon : ∀ inside, ':' ∈ inside → entriesPrint? transform entries inside = none := by
    intro inside hinside
    refine Option.eq_none_iff_forall_ne_some.mpr fun printed hprint => ?_
    obtain ⟨entry, hentry, form, hnames, -⟩ := exists_names_of_entriesPrint? hprint
    have hmark : ':' ∉ form.mark := by
      cases form <;> decide
    have hname : ':' ∉ entry.1 := (hentries entry hentry).1.2
    exact hname ((hnames.mem_iff Unicode.uncased_colon hmark).mp hinside)
  refine ⟨fun name => hcolon _ ?_, fun name => hcolon _ ?_, fun {inside printed} hprint => ?_⟩
  · simp [openMark]
  · simp [closeMark]
  · obtain ⟨entry, hentry, form, -, rfl⟩ := exists_names_of_entriesPrint? hprint
    exact Variable.openBrace_not_mem_encode (hentries entry hentry).2 form

/-- To fill in entries by `fillSlots` is a pass `substitute` over the forest. -/
theorem fillSlots_print (transform : Bool) {entries : List (Text × Text)}
    (hentries : ∀ entry ∈ entries, IsHarmless entry) {forest : Forest}
    (hwf : forest.WellFormed) :
    fillSlots (entries.flatMap (slotsOf transform)) forest.print
      = (forest.substitute (entriesPrint? transform entries)).print := by
  have hfree : ∀ entry ∈ entries, BraceFree entry.1 ∧ '{' ∉ entry.2 :=
    fun entry hentry => ⟨(hentries entry hentry).1.1, (hentries entry hentry).2⟩
  rw [Variable.fillSlots_flatMap_slotsOf transform hfree (Forest.tagged_print hwf),
    Forest.substitute_print (plain_entriesPrint? hentries) hwf]

/-! ## Operations -/

/-- To `unwrap` blocks is to repeat them for one row without variables. -/
theorem unwrap_eq_repeatRows (tag : Text) : unwrap tag = repeatRows tag [[]] := by
  have hbody : (fun region : Region => region.body)
      = fun region => [[]].flatMap fun row => Variable.fillFields true row region.body := by
    funext region
    rw [List.flatMap_singleton, Variable.fillFields]
  rw [unwrap, repeatRows, ← hbody]
  rfl

/-- To `remove` blocks is to repeat them for no row. -/
theorem remove_eq_repeatRows (tag : Text) : remove tag = repeatRows tag [] :=
  rfl

/-- What can be done to the blocks of a name, or to the tags of variables. -/
inductive Operation where
  | unwrap (name : Text)
  | remove (name : Text)
  | repeatRows (name : Text) (rows : List Fields)
  | fill (name value : Text) (transform : Bool)

namespace Operation

variable {forest : Forest}

/-- The cursor after the operation, by the function of `Cursor` of its name. -/
def run : Operation → Cursor → Cursor
  | unwrap name => Cursor.unwrap name
  | remove name => Cursor.remove name
  | repeatRows name rows => Cursor.repeatRows name rows
  | fill name value transform => Cursor.fill name value transform

/-- The name of the blocks that the operation is about, `none` for `fill`. -/
def block? : Operation → Option Text
  | unwrap name | remove name | repeatRows name _ => some name
  | fill _ _ _ => none

/-- The names and values of the variables that the operation fills in. -/
def entries : Operation → List (Text × Text)
  | unwrap _ | remove _ => []
  | repeatRows _ rows => rows.flatMap Fields.entries
  | fill name value _ => [(name, value)]

/-- The tag `inside` is a form of the name of one of the `entries` of the operation. -/
def Names (operation : Operation) (inside : Text) : Prop :=
  ∃ entry ∈ operation.entries, ∃ form : Form, form.Names entry.1 inside

instance (operation : Operation) (inside : Text) : Decidable (operation.Names inside) :=
  inferInstanceAs (Decidable (∃ entry ∈ operation.entries, _))

/-- The names of the operation are well-formed, and each of its `entries` is an `IsEntry`, so that
no value opens a brace. -/
structure Proper (operation : Operation) : Prop where
  block : ∀ name ∈ operation.block?, isName name
  entries : ∀ entry ∈ operation.entries, IsEntry entry

/-- The operation is about the blocks of a name that ends where its tag does, and its `entries` are
no tags of blocks. -/
structure Harmless (operation : Operation) : Prop where
  block : ∀ name ∈ operation.block?, name ≠ [] ∧ '}' ∉ name
  entries : ∀ entry ∈ operation.entries, IsHarmless entry

/-- An operation that is `Proper` is `Harmless`. -/
theorem Proper.harmless {operation : Operation} (h : operation.Proper) : operation.Harmless where
  block name hname := by
    exact ⟨Block.ne_nil_of_isName (h.block name hname),
      Block.not_mem_name (h.block name hname) (by decide)⟩
  entries entry hentry := (h.entries entry hentry).isHarmless

/-- What the operation does to a forest: a `graft` or a `substitute`. -/
def change : Operation → Forest.Change
  | unwrap name => .graft name [entriesPrint? true []]
  | remove name => .graft name []
  | repeatRows name rows =>
    .graft name (rows.map fun row => entriesPrint? true (Fields.entries row))
  | fill name value transform => .substitute (entriesPrint? transform [(name, value)])

/-- The blocks that the `change` is about are those that the operation is about. -/
theorem block?_change (operation : Operation) : operation.change.block? = operation.block? := by
  cases operation <;> rfl

/-- The passes of the `change` of an operation print `entries` of its own. -/
theorem exists_entries_of_mem_lookups {operation : Operation} {lookup : Text → Option Text}
    (h : lookup ∈ operation.change.lookups) :
    ∃ transform entries, entries ⊆ operation.entries ∧
      lookup = entriesPrint? transform entries := by
  cases operation with
  | unwrap name => exact ⟨true, [], List.nil_subset _, List.mem_singleton.mp h⟩
  | remove name => cases h
  | repeatRows name rows =>
    obtain ⟨row, hrow, rfl⟩ := List.mem_map.mp h
    refine ⟨true, Fields.entries row, fun entry hentry => ?_, rfl⟩
    exact List.mem_flatMap.mpr ⟨row, hrow, hentry⟩
  | fill name value transform =>
    exact ⟨transform, [(name, value)], List.Subset.refl _, List.mem_singleton.mp h⟩

/-- The passes of a `Harmless` operation are `Plain`. -/
theorem Harmless.plain {operation : Operation} (h : operation.Harmless) :
    ∀ lookup ∈ operation.change.lookups, Forest.Plain lookup := by
  intro lookup hlookup
  obtain ⟨transform, entries, hsubset, rfl⟩ := exists_entries_of_mem_lookups hlookup
  exact plain_entriesPrint? fun entry hentry => h.entries entry (hsubset hentry)

/-- The passes of an operation print nothing for a tag that it does not have among its `Names`. -/
theorem eq_none_of_not_names {operation : Operation} {inside : Text}
    (h : ¬ operation.Names inside) {lookup : Text → Option Text}
    (hlookup : lookup ∈ operation.change.lookups) : lookup inside = none := by
  obtain ⟨transform, entries, hsubset, rfl⟩ := exists_entries_of_mem_lookups hlookup
  refine Option.eq_none_iff_forall_ne_some.mpr fun printed hprint => h ?_
  obtain ⟨entry, hentry, form, hnames, -⟩ := exists_names_of_entriesPrint? hprint
  exact ⟨entry, hsubset hentry, form, hnames⟩

/-- On the print of a forest `repeatRows` grafts a copy of the children for each row. -/
theorem repeatRows_print {name : Text} {rows : List Fields}
    (h : (Operation.repeatRows name rows).Harmless) (hwf : forest.WellFormed) {cursor : Cursor}
    (hcursor : cursor.current = forest.print) :
    cursor.repeatRows name rows
      = cursor.setCurrent ((Operation.repeatRows name rows).change.apply forest).print := by
  obtain ⟨hne, hcloses⟩ := h.block name rfl
  have hrows : ∀ row ∈ rows, ∀ entry ∈ Fields.entries row, IsHarmless entry :=
    fun row hrow entry hentry => h.entries entry (List.mem_flatMap.mpr ⟨row, hrow, hentry⟩)
  rw [Cursor.repeatRows, edit, hcursor, Block.ofTag_of_ne_nil hne]
  refine congrArg (cursor.setCurrent ·) (Forest.replace_print_named hcloses ?_ hwf)
  intro children hchildren
  rw [Forest.print_repeated, List.flatMap_map]
  refine List.flatMap_congr fun row hrow => ?_
  rw [Variable.fillFields_eq_fillSlots]
  exact fillSlots_print true (hrows row hrow) hchildren

/-- **On the print of a forest an operation is a change of the forest**: `run` leaves the print of
what `change` makes of it. -/
theorem run_print {operation : Operation} (h : operation.Harmless) (hwf : forest.WellFormed)
    {cursor : Cursor} (hcursor : cursor.current = forest.print) :
    operation.run cursor = cursor.setCurrent (operation.change.apply forest).print := by
  cases operation with
  | unwrap name =>
    have hrows : (Operation.repeatRows name [[]]).Harmless := ⟨h.block, h.entries⟩
    rw [run, unwrap_eq_repeatRows]
    exact repeatRows_print hrows hwf hcursor
  | remove name =>
    have hrows : (Operation.repeatRows name []).Harmless := ⟨h.block, h.entries⟩
    rw [run, remove_eq_repeatRows]
    exact repeatRows_print hrows hwf hcursor
  | repeatRows name rows => exact repeatRows_print h hwf hcursor
  | fill name value transform =>
    have hpass := fillSlots_print transform h.entries hwf
    rw [entries, List.flatMap_singleton, ← Variable.fill_eq_fillSlots] at hpass
    rw [run, Cursor.fill, edit, hcursor, hpass]
    rfl

/-- The cursor after a `run` of each of the operations in order. -/
def runAll (operations : List Operation) (cursor : Cursor) : Cursor :=
  operations.foldl (fun before operation => operation.run before) cursor

/-- On the print of a forest `runAll` makes the changes of the operations in order. -/
theorem runAll_print {operations : List Operation}
    (h : ∀ operation ∈ operations, operation.Harmless) (hwf : forest.WellFormed)
    {cursor : Cursor} (hcursor : cursor.current = forest.print) :
    runAll operations cursor
      = cursor.setCurrent (Forest.Change.applyAll (operations.map change) forest).print := by
  induction operations generalizing forest cursor with
  | nil => exact congrArg (cursor.setCurrent ·) hcursor
  | cons operation rest ih =>
    obtain ⟨hfirst, hothers⟩ := List.forall_mem_cons.mp h
    have hwf' : (operation.change.apply forest).WellFormed :=
      Forest.Change.wellFormed_apply hfirst.plain hwf
    show runAll rest (operation.run cursor) = _
    rw [run_print hfirst hwf hcursor]
    exact ih hothers hwf' rfl

/-- Two operations that are `Proper` make their changes in a row. -/
theorem run_run_print {first second : Operation} (hfirst : first.Proper) (hsecond : second.Proper)
    (hwf : forest.WellFormed) {cursor : Cursor} (hcursor : cursor.current = forest.print) :
    second.run (first.run cursor)
      = cursor.setCurrent (second.change.apply (first.change.apply forest)).print := by
  have hboth : ∀ operation ∈ [first, second], operation.Harmless :=
    List.forall_mem_cons.mpr
      ⟨hfirst.harmless, List.forall_mem_singleton.mpr hsecond.harmless⟩
  exact runAll_print hboth hwf hcursor

/-- **Independent operations may be exchanged.** Two operations that are `Proper`, on the print of a
`WellFormed` forest, leave the same cursor in either order, if they are not about blocks of one name
(`hblocks`) and no tag of the forest belongs to variables of both (`htags`). What they leave is the
print of the forest after both of their `change`s. -/
theorem run_comm (hwf : forest.WellFormed) {first second : Operation}
    (hfirst : first.Proper) (hsecond : second.Proper)
    (hblocks : ∀ name ∈ first.block?, name ∉ second.block?)
    (htags : ∀ inside ∈ forest.tags, ¬ (first.Names inside ∧ second.Names inside))
    {cursor : Cursor} (hcursor : cursor.current = forest.print) :
    second.run (first.run cursor) = first.run (second.run cursor) ∧
      second.run (first.run cursor)
        = cursor.setCurrent (second.change.apply (first.change.apply forest)).print := by
  have hblocks' : ∀ name ∈ first.change.block?, name ∉ second.change.block? := by
    rwa [block?_change, block?_change]
  have hapart : ∀ lookup ∈ first.change.lookups, ∀ lookup' ∈ second.change.lookups,
      forest.Apart lookup lookup' := by
    intro lookup hlookup lookup' hlookup' inside hinside
    by_cases hnames : first.Names inside
    · have hother : ¬ second.Names inside := fun h => htags inside hinside ⟨hnames, h⟩
      exact Or.inr (eq_none_of_not_names hother hlookup')
    · exact Or.inl (eq_none_of_not_names hnames hlookup)
  have hrun := run_run_print hfirst hsecond hwf hcursor
  refine ⟨?_, hrun⟩
  rw [hrun, run_run_print hsecond hfirst hwf hcursor, Forest.Change.apply_comm hblocks' hapart]

/-- Blocks with copies of their own inside repeated blocks, and a tag that stays because
the variable it belongs to is filled in elsewhere. -/
theorem run_comm_nested :
    let forest : Forest :=
      .block ['A'] (.tag ['j', 's', 'X'] (.block ['B'] (.tag ['y'] .nil) .nil))
        (.block ['B'] (.tag ['x'] .nil) (.text ['}'] .nil))
    let first : Operation := .repeatRows ['A']
      [[(['x'], .text ['1'])], [(['g'], .map [(['z'], .text []), (['x'], .text ['2'])])]]
    let second : Operation := .repeatRows ['B'] [[(['y'], .text ['3'])], []]
    let cursor : Cursor := Cursor.ofText forest.print
    forest.WellFormed ∧ first.Proper ∧ second.Proper ∧
      (∀ name ∈ first.block?, name ∉ second.block?) ∧
      (∀ inside ∈ forest.tags, ¬ (first.Names inside ∧ second.Names inside)) ∧
      second.run (first.run cursor) = first.run (second.run cursor) ∧
      (second.run (first.run cursor)).current
        = ['"', '1', '"', '3'] ++ Variable.tag ['y'] ++ ['"', '2', '"', '3'] ++ Variable.tag ['y']
          ++ Variable.tag ['x'] ++ Variable.tag ['x'] ++ ['}'] := by
  intro forest first second cursor
  have hwf : forest.WellFormed := by decide
  have hfirst : first.Proper := ⟨by decide, by decide +kernel⟩
  have hsecond : second.Proper := ⟨by decide, by decide +kernel⟩
  have hblocks : ∀ name ∈ first.block?, name ∉ second.block? := by decide
  have htags : ∀ inside ∈ forest.tags, ¬ (first.Names inside ∧ second.Names inside) := by
    decide +kernel
  refine ⟨hwf, hfirst, hsecond, hblocks, htags,
    (run_comm hwf hfirst hsecond hblocks htags rfl).1, ?_⟩
  decide +kernel

end Operation

end Cursor

end Stencil
