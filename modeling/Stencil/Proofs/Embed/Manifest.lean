import Stencil.Embed.Manifest
import Stencil.Pass.Language
import Stencil.Time.Tag
import Stencil.Proofs.Block.Seam
import Stencil.Proofs.Cursor.Agree
import Stencil.Proofs.Value.Level
import Stencil.Proofs.Text.Order
import Stencil.Proofs.Theme.History
import Stencil.Proofs.Variable.Names

/-!
# What a manifest says about rendering

A manifest lists names by reading tags one by one. Rendering pairs tags, goes on behind
what it found, and fills in one string after the other in a text that changes. The lists
are complete for it all the same (`agrees_ofText`): what is not listed is not there, and
asking for what is not there changes nothing.

For variables this has a limit. A variable whose name begins with a letter is listed under
its name, but the table of time tags has names that begin with a digit, and prefixes are
matched without regard to case, which lets in two characters outside ASCII. Tags of
either kind are filled in and not listed (`listed_iff_of_fill_ne`,
`fill_ne_of_not_listed`).

Theorems:
- `agrees_ofText`: the lists, and what they are complete for.
- `listed_iff_of_fill_ne`: which of the tags that a variable fills in are listed.
-/

namespace Stencil.Embed

open Text

/-! ## What is listed -/

/-- The tag of the variable of a string is the `stringMark`, the key and the closing brace. -/
theorem tag_variableName (key : Text) :
    Variable.tag (Language.variableName key) = stringMark ++ key ++ ['}'] :=
  rfl

/-- Behind the `stringMark` a key is read as far as `isInsideChar` holds. -/
theorem openString?_eq (text : Text) :
    openString? text = (stripPrefix? stringMark text).bind fun afterMark =>
      (stripPrefix? ['}'] (afterMark.dropWhile Variable.isInsideChar)).bind fun rest =>
        if (afterMark.takeWhile Variable.isInsideChar).isEmpty then none
        else some (afterMark.takeWhile Variable.isInsideChar, rest) := by
  have hdrop : ∀ afterMark : Text,
      afterMark.drop (afterMark.takeWhile Variable.isInsideChar).length
        = afterMark.dropWhile Variable.isInsideChar := by
    intro afterMark
    have hspan := List.takeWhile_append_dropWhile (p := Variable.isInsideChar) (l := afterMark)
    exact (congrArg (List.drop _) hspan.symm).trans List.drop_left
  simp only [← hdrop]
  rfl

/-- By `openString?` a tag of a language string is read exactly where one stands with a key inside,
which is any text that is `BraceFree` but not the empty one. -/
theorem openString?_eq_some_iff {text key rest : Text} :
    openString? text = some (key, rest) ↔
      (key ≠ [] ∧ Variable.BraceFree key) ∧
        text = Variable.tag (Language.variableName key) ++ rest := by
  rw [openString?_eq, tag_variableName, Variable.braceFree_iff]
  constructor
  · intro h
    simp only [Option.bind_eq_some_iff, stripPrefix?_eq_some_iff] at h
    obtain ⟨afterMark, rfl, last, hlast, hkey⟩ := h
    have hspan := List.takeWhile_append_dropWhile (p := Variable.isInsideChar) (l := afterMark)
    rw [hlast] at hspan
    split at hkey
    next => cases hkey
    next hne =>
      obtain ⟨rfl, rfl⟩ := Prod.mk.inj (Option.some.inj hkey)
      refine ⟨⟨fun hnil => hne (List.isEmpty_iff.mpr hnil), ?_⟩, ?_⟩
      · exact List.all_eq_true.mp List.all_takeWhile
      · rw [List.append_assoc, List.append_assoc, hspan]
  · intro h
    obtain ⟨⟨hne, hinside⟩, rfl⟩ := h
    -- The closing brace is what ends the key.
    have hend : Variable.isInsideChar '}' = false := by decide
    have hmark : stripPrefix? stringMark (stringMark ++ key ++ ['}'] ++ rest)
        = some (key ++ '}' :: rest) :=
      stripPrefix?_eq_some_iff.mpr (by simp)
    have htake : (key ++ '}' :: rest).takeWhile Variable.isInsideChar = key := by
      rw [List.takeWhile_append_of_pos hinside, List.takeWhile_cons_of_neg (by simp [hend]),
        List.append_nil]
    have hdrop : (key ++ '}' :: rest).dropWhile Variable.isInsideChar = '}' :: rest := by
      rw [List.dropWhile_append_of_pos hinside, List.dropWhile_cons_of_neg (by simp [hend])]
    rw [hmark, Option.bind_some, htake, hdrop]
    simp [stripPrefix?, hne]

/-- The `blockNames` are those with an `openTag` in the text. -/
theorem mem_blockNames_iff {name text : Text} :
    name ∈ (Manifest.ofText text).blockNames ↔
      Block.isName name ∧ Block.openTag name <:+: text := by
  have hbrace : ∀ name, Block.Pattern.any.admits name → ∃ inside, '{' ∉ inside ∧
      Block.openTag name = '{' :: inside := by
    intro name hname
    have hfree : '{' ∉ name := Block.not_mem_name hname (by decide)
    exact ⟨_, by simp [hfree], rfl⟩
  refine mem_eraseReps_mergeSort_iff.trans ?_
  exact mem_found_iff_infix '{' Block.openTag?_eq_some_iff hbrace

/-- The `variableNames` are those with a tag in the text whose inside `Variable.isName`. -/
theorem mem_variableNames_iff {name text : Text} :
    name ∈ (Manifest.ofText text).variableNames ↔
      Variable.isName name ∧ Variable.tag name <:+: text :=
  mem_eraseReps_mergeSort_iff.trans Variable.mem_tagNames_iff

/-- The `stringKeys` are those with a tag in the text. -/
theorem mem_stringKeys_iff {key text : Text} :
    key ∈ (Manifest.ofText text).stringKeys ↔
      (key ≠ [] ∧ Variable.BraceFree key) ∧
        Variable.tag (Language.variableName key) <:+: text := by
  refine mem_eraseReps_mergeSort_iff.trans ?_
  refine mem_found_iff_infix '{' openString?_eq_some_iff fun key hkey => ?_
  have hlang : '{' ∉ "lang:".toList := by decide
  have hfree : '{' ∉ Language.variableName key := fun hmem =>
    (List.mem_append.mp hmem).elim hlang hkey.2.1
  exact ⟨Language.variableName key ++ ['}'], by simp [hfree], rfl⟩

/-! ## What is not listed -/

/-- A `change` that leaves the text under work as it is leaves the cursor as it is. -/
theorem edit_eq_self {change : Text → Text} {cursor : Cursor}
    (h : change cursor.current = cursor.current) : cursor.edit change = cursor := by
  unfold Cursor.edit
  rw [h]
  rfl

/-- Asking for the blocks of `name` does nothing to the cursor, in whatever way they are asked for:
no text is put anywhere and no callback is called. -/
structure Untouched (name : Text) (cursor : Cursor) : Prop where
  unwrap : cursor.unwrap name = cursor
  remove : cursor.remove name = cursor
  repeatRows : ∀ rows, cursor.repeatRows name rows = cursor
  visitM : ∀ {m : Type → Type} [Monad m] [LawfulMonad m] (visit : Cursor → m Cursor),
    cursor.visitM name visit = pure cursor
  gatherM : ∀ {m : Type → Type} [Monad m] [LawfulMonad m] (visit : Template → m Template),
    cursor.gatherM name visit = pure cursor

/-- Blocks of a well-formed name without an `openTag` in the text are asked for in vain. -/
theorem untouched_of_not_infix {name : Text} (hname : Block.isName name) {cursor : Cursor}
    (h : ¬ Block.openTag name <:+: cursor.current) : Untouched name cursor := by
  have hregions : Block.regions (.ofTag name) cursor.current = ⟨[], cursor.current⟩ := by
    rw [Block.ofTag_of_isName hname]
    exact Block.regions_joined hname h (List.forall_mem_nil _)
  have hreplace : ∀ render : Block.Region → Text,
      cursor.edit (Block.replace (.ofTag name) render) = cursor := by
    intro render
    exact edit_eq_self (Block.replace_of_pieces_eq_nil (by rw [hregions]) render)
  have hbodies : ∀ {m : Type → Type} [Monad m] [LawfulMonad m] (render : Text → m Text),
      cursor.replaceBodiesM name render = pure cursor := by
    intro m _ _ render
    simp only [Cursor.replaceBodiesM, hregions, Split.assembleM, List.mapM_nil, pure_bind]
    rfl
  exact ⟨hreplace _, hreplace _, fun _ => hreplace _, fun _ => hbodies _, fun _ => hbodies _⟩

/-- The strings of the context, if it has any, have keys that are not `listed` but could be: texts
without braces, and not the empty one. -/
def OnlyUnlisted (listed : List Text) (context : Context) : Prop :=
  ∀ strings, context.get? Context.languageKey = some (.map strings) →
    ∀ key ∈ Keyed.keys strings, (key ≠ [] ∧ Variable.BraceFree key) ∧ key ∉ listed

/-- Strings that are not among the `stringKeys` are filled in nowhere. -/
theorem fill_of_onlyUnlisted {context : Context} {cursor : Cursor}
    (h : OnlyUnlisted (Manifest.ofText cursor.current).stringKeys context) :
    Language.fill context cursor = cursor := by
  unfold Language.fill
  split
  next => rfl
  next strings hstrings =>
    obtain ⟨value, hvalue, hmap⟩ := Option.bind_eq_some_iff.mp hstrings
    have hkeys := h strings (by rw [hvalue, Value.map?_eq_some_iff.mp hmap])
    clear hstrings hvalue hmap
    induction strings with
    | nil => rfl
    | cons entry strings ih =>
      obtain ⟨⟨hkey, hunlisted⟩, hrest⟩ := List.forall_mem_cons.mp hkeys
      rw [List.foldl_cons]
      cases hcontent : entry.2.text? with
      | none => exact ih hrest
      | some content =>
        have hfill : cursor.fill (Language.variableName entry.1) content false = cursor := by
          refine edit_eq_self (Variable.fill_of_unnamed (fun form inside hform hnames hin => ?_) _)
          obtain rfl : form = .bare := hform.resolve_left Bool.false_ne_true
          obtain rfl : inside = _ := hnames
          exact hunlisted (mem_stringKeys_iff.mpr ⟨hkey, hin⟩)
        dsimp only
        rw [hfill]
        exact ih hrest

/-- What the lists of a manifest have to do with the text: they are `Ascending`, they have the names
that the readers of tags find, which are those whose tags stand in the text, and what they leave out
is not there to be rendered. -/
structure Manifest.Agrees (manifest : Manifest) (text : Text) : Prop where
  ascending : Ascending manifest.blockNames ∧ Ascending manifest.variableNames ∧
    Ascending manifest.stringKeys
  blocks_found : ∀ name, name ∈ manifest.blockNames ↔ name ∈ (Block.openTags (.ofTag []) text).found
  variables_found : ∀ name, name ∈ manifest.variableNames ↔ name ∈ Variable.tagNames text
  blocks_occur : ∀ name, name ∈ manifest.blockNames ↔
    Block.isName name ∧ Block.openTag name <:+: text
  variables_occur : ∀ name, name ∈ manifest.variableNames ↔
    Variable.isName name ∧ Variable.tag name <:+: text
  strings_occur : ∀ key, key ∈ manifest.stringKeys ↔
    (key ≠ [] ∧ Variable.BraceFree key) ∧ Variable.tag (Language.variableName key) <:+: text
  regions : ∀ region ∈ (Block.regions (.ofTag []) text).found, region.name ∈ manifest.blockNames
  unlisted_block : ∀ name, Block.isName name → name ∉ manifest.blockNames →
    ∀ initial, Untouched name ⟨text, initial⟩
  unlisted_strings : ∀ context, OnlyUnlisted manifest.stringKeys context →
    ∀ (tree : FileTree) (language : Language) (initial : Text) {σ : Type} (shared : σ),
      Pass.renderOn context (Language.pass tree language) (⟨text, initial⟩, shared)
        = (.ok (), ⟨text, initial⟩, shared)

/-- **The manifest of a text agrees with rendering it**: `Manifest.ofText` satisfies `Agrees` for
every text. -/
theorem agrees_ofText (text : Text) : (Manifest.ofText text).Agrees text where
  ascending := ⟨ascending_eraseReps_mergeSort _, ascending_eraseReps_mergeSort _,
    ascending_eraseReps_mergeSort _⟩
  blocks_found _ := mem_eraseReps_mergeSort_iff
  variables_found _ := mem_eraseReps_mergeSort_iff
  blocks_occur _ := mem_blockNames_iff
  variables_occur _ := mem_variableNames_iff
  strings_occur _ := mem_stringKeys_iff
  regions region hregion := by
    obtain ⟨hname, hraw⟩ := Block.admits_of_mem_found hregion
    have hopen : Block.openTag region.name <:+: region.raw :=
      ⟨[], region.body ++ Block.closeTag region.name, by simp [Block.Region.raw]⟩
    exact mem_blockNames_iff.mpr ⟨hname, hopen.trans hraw⟩
  unlisted_block name hname hunlisted initial :=
    untouched_of_not_infix hname fun hin => hunlisted (mem_blockNames_iff.mpr ⟨hname, hin⟩)
  unlisted_strings context honly tree language initial σ shared := by
    show (Except.ok (), Language.fill context ⟨text, initial⟩, shared) = _
    rw [fill_of_onlyUnlisted honly]

/-! ## Variables that are filled in -/

/-- The names of the time tags satisfy `isWideName`: they are made like those of variables, but some
begin with a digit. -/
theorem isWideName_name (tag : Time.Tag) : Variable.isWideName tag.name := by
  cases tag <;> decide

/-- **Which tags of a variable are listed.** If `Variable.fill` for a time tag or any variable
changes a text (`hchanged`), then the text has a tag that is among the `Names` of the variable in
one of its forms. Each such tag is listed, in `variableNames` and in `tagNames`, exactly if it is
not `OutsideGrammar`: it begins with no digit and has neither the long s nor the Kelvin sign. -/
theorem listed_iff_of_fill_ne {name value text : Text}
    (hname : (∃ tag : Time.Tag, tag.name = name) ∨ Variable.isName name)
    (hchanged : Variable.fill name value true text ≠ text) :
    (∃ (form : Variable.Form) (inside : Text), form.Names name inside ∧
        Variable.tag inside <:+: text) ∧
      ∀ (form : Variable.Form) (inside : Text), form.Names name inside →
        Variable.tag inside <:+: text →
        (inside ∈ (Manifest.ofText text).variableNames ↔ ¬ Variable.OutsideGrammar inside) ∧
          (inside ∈ Variable.tagNames text ↔ ¬ Variable.OutsideGrammar inside) := by
  constructor
  · refine Classical.byContradiction fun hnone => hchanged (Variable.fill_of_unnamed ?_ value)
    exact fun form inside _ hnames hin => hnone ⟨form, inside, hnames, hin⟩
  · intro form inside hnames hin
    have hwide : Variable.isWideName name := by
      rcases hname with ⟨tag, rfl⟩ | hname
      · exact isWideName_name tag
      · exact Variable.isWideName_of_isName hname
    have hgrammar := Variable.isName_iff_of_names hwide hnames
    rw [mem_variableNames_iff, Variable.mem_tagNames_iff, and_iff_left hin]
    exact ⟨hgrammar, hgrammar⟩

/-- The hour of a time tag is filled in where `variableNames` and `tagNames` list nothing. -/
theorem fill_ne_of_not_listed :
    (∃ tag : Time.Tag, tag.name = "12Hour".toList) ∧
      Variable.fill "12Hour".toList ['7'] true (Variable.tag "12Hour".toList)
        ≠ Variable.tag "12Hour".toList ∧
      (Manifest.ofText (Variable.tag "12Hour".toList)).variableNames = [] ∧
      Variable.tagNames (Variable.tag "12Hour".toList) = [] := by
  refine ⟨⟨.hour12, rfl⟩, ?_, ?_, ?_⟩
  · decide +kernel
  · decide +kernel
  · decide +kernel

/-- A time tag in two forms, of which one is among the `variableNames`. -/
theorem listed_iff_of_fill_ne_hour :
    let text := Variable.tag "12Hour".toList ++ Variable.tag "plaintext12hour".toList
    Variable.fill "12Hour".toList ['7'] true text ≠ text ∧
      "12Hour".toList ∉ (Manifest.ofText text).variableNames ∧
      "plaintext12hour".toList ∈ (Manifest.ofText text).variableNames := by
  intro text
  have hchanged : Variable.fill "12Hour".toList ['7'] true text ≠ text := by decide +kernel
  obtain ⟨-, hlisted⟩ := listed_iff_of_fill_ne (Or.inl ⟨.hour12, rfl⟩) hchanged
  have hbare := (hlisted .bare "12Hour".toList rfl ⟨[], _, rfl⟩).1
  have hplain := (hlisted .plaintext "plaintext12hour".toList (by decide +kernel)
    ⟨Variable.tag "12Hour".toList, [], rfl⟩).1
  refine ⟨hchanged, fun h => hbare.mp h (by decide +kernel), hplain.mpr (by decide +kernel)⟩

end Stencil.Embed
