import Mathlib.Data.List.Nodup
import Stencil.Post
import Stencil.Proofs.Context.TopLevel
import Stencil.Proofs.Time.Tag
import Stencil.Proofs.Variable.Tagged

/-!
# The time of a post

A post has a time if there is a text under its key of the time that is the numeral of a
64-bit integer, and if the date of that timestamp can be told (`HasTime`). Then every time
tag that the type and the fields of the post have left is filled in with that one timestamp,
and no time tag is left. If the post has no time, for whatever reason, every time tag stays:
no other moment is told in the place of one that cannot be.

What the fields leave is a text in which each brace opens a tag again, whatever the keys of
the post are (`tagged_fillEntries`), and no tag is a form of two time tags
(`Time.Tag.eq_of_names`). So filling in the variables of a timestamp is one pass.

Theorems:
- `Time.Tag.openBrace_not_mem_print`: what time tags print has no brace.
- `Time.tagPrint?_eq_some_iff`: what is printed for a tag of a text.
- `timestamp?_eq_some_iff`: which posts have a time.
- `fillFields_time`: what becomes of the time tags.
-/

namespace Stencil

open Variable (Form Tagged BraceFree)

/-- The tags of a datum do not count for the value `toValue` that it makes. -/
theorem Yaml.Datum.toValue_untagged : ∀ datum : Yaml.Datum, datum.untagged.toValue = datum.toValue
  | .tagged _ content => by
    rw [toValue, ← toValue_untagged content]
    rfl
  | .mapping _ | .sequence _ | .scalar _ => rfl

/-! ## What time tags print -/

namespace Text

theorem openBrace_not_mem_decimal (n : Nat) : '{' ∉ decimal n := by
  intro h
  have hdigit := Nat.isDigit_of_mem_toDigits (by decide) (by decide) h
  revert hdigit
  decide

theorem openBrace_not_mem_signedDecimal (n : Int) : '{' ∉ signedDecimal n := by
  unfold signedDecimal
  split
  next => simp [openBrace_not_mem_decimal]
  next => exact openBrace_not_mem_decimal _

theorem openBrace_not_mem_zeroPadded {text : Text} (h : '{' ∉ text) (width : Nat) :
    '{' ∉ zeroPadded width text := by
  simp [zeroPadded, h]

end Text

namespace Time

theorem openBrace_not_mem_monthName (month : Nat) : '{' ∉ Date.monthName month := by
  unfold Date.monthName
  split <;> decide

theorem openBrace_not_mem_weekdayName (weekday : Nat) : '{' ∉ Date.weekdayName weekday := by
  unfold Date.weekdayName
  split <;> decide

theorem openBrace_not_mem_yearText (year : Int) : '{' ∉ Date.yearText year := by
  have hdigits : '{' ∉ Text.zeroPadded 4 (Text.decimal year.natAbs) :=
    Text.openBrace_not_mem_zeroPadded (Text.openBrace_not_mem_decimal _) 4
  unfold Date.yearText
  dsimp only
  split
  next => simp [hdigits]
  next =>
    split
    next => simp [hdigits]
    next => exact hdigits

theorem openBrace_not_mem_relative (stamp now : Int) : '{' ∉ relative stamp now := by
  unfold relative
  split
  next count unit _ =>
    have hunit : '{' ∉ unit.name := by
      cases unit <;> decide
    have hplural : '{' ∉ pluralEnding count := by
      unfold pluralEnding
      split <;> decide
    simp [Text.openBrace_not_mem_signedDecimal, hunit, hplural]
  next =>
    simp [Date.inWords, openBrace_not_mem_monthName, openBrace_not_mem_yearText,
      Text.openBrace_not_mem_decimal]

namespace Tag

/-- What a time tag prints by `Tag.print` has no opening brace. -/
theorem openBrace_not_mem_print (stamp now : Int) (tag : Tag) : '{' ∉ tag.print stamp now := by
  have htwo : ∀ n, '{' ∉ twoDigits n := fun n =>
    Text.openBrace_not_mem_zeroPadded (Text.openBrace_not_mem_decimal n) 2
  have hshort : ∀ {name : Text}, '{' ∉ name → '{' ∉ Date.abbreviated name :=
    fun hname hmem => hname (List.mem_of_mem_take hmem)
  cases tag with
  | dayOfMonth | dayOfWeekNumber | dayOfYear | monthNumber | hour12 | hour24 =>
    exact Text.openBrace_not_mem_decimal _
  | dayOfMonthWithZero | weekOfYear | monthNumberWithZero | shortYear | hour12WithZero
  | hour24WithZero | minutes | seconds => exact htwo _
  | dayOfWeek => exact openBrace_not_mem_weekdayName _
  | shortDayOfWeek => exact hshort (openBrace_not_mem_weekdayName _)
  | month => exact openBrace_not_mem_monthName _
  | shortMonth => exact hshort (openBrace_not_mem_monthName _)
  | year => exact openBrace_not_mem_yearText _
  | beats => exact Text.openBrace_not_mem_zeroPadded (Text.openBrace_not_mem_decimal _) 3
  | timestamp => exact Text.openBrace_not_mem_signedDecimal stamp
  | timeAgo => exact openBrace_not_mem_relative stamp now
  | dayOfMonthSuffix =>
    show '{' ∉ Date.ordinalSuffix _
    unfold Date.ordinalSuffix
    split
    next => decide
    next => split <;> decide
  | amPm | capitalAmPm =>
    unfold print
    dsimp only
    split <;> decide

/-! ## Which tags are time tags -/

theorem mem_all (tag : Tag) : tag ∈ all := by
  cases tag <;> decide

/-- There is no brace in the name of a time tag. -/
theorem braceFree_name (tag : Tag) : BraceFree tag.name := by
  cases tag <;> decide

/-- Which form of a time tag a folded text is, as its first letters show. -/
def shownForm : Text → Form
  | 'p' :: _ => .plaintext
  | 'u' :: _ => .urlEncoded
  | 'j' :: 's' :: 'p' :: _ => .jsPlaintext
  | 'j' :: _ => .js
  | _ => .bare

/-- The first letters show the form by `shownForm`: no name of a time tag begins as a `mark`
does. -/
theorem shownForm_fold (tag : Tag) (form : Form) :
    shownForm ((form.mark ++ tag.name).map Unicode.fold) = form := by
  have hall : ∀ form ∈ Form.bare :: Form.prefixed, ∀ tag ∈ all,
      shownForm ((form.mark ++ tag.name).map Unicode.fold) = form := by
    decide +kernel
  exact hall form (Variable.mem_forms form) tag (mem_all tag)

/-- The time tag whose `form` has the name `inside` is one alone, and so is the form. -/
theorem eq_of_names {tag other : Tag} {form form' : Form} {inside : Text}
    (h : form.Names tag.name inside) (h' : form'.Names other.name inside) :
    tag = other ∧ form = form' := by
  have hform : form = form' := by
    rw [← shownForm_fold tag form, ← shownForm_fold other form', ← h.fold_eq, h'.fold_eq]
  subst hform
  have hname : tag.name.map Unicode.fold = other.name.map Unicode.fold := by
    have heq := h.fold_eq.symm.trans h'.fold_eq
    rw [List.map_append, List.map_append] at heq
    exact List.append_cancel_left heq
  have hnodup : (all.map fun tag => tag.name.map Unicode.fold).Nodup := by decide +kernel
  exact ⟨List.inj_on_of_nodup_map hnodup (mem_all tag) (mem_all other) hname, rfl⟩

end Tag

/-- What is printed in the place of a tag of a text for the timestamp `stamp`: what `entriesPrint?`
has for its `fields`. -/
def tagPrint? (stamp now : Int) : Text → Option Text :=
  Variable.entriesPrint? true (Fields.entries (fields stamp now))

/-- The `entries` of a timestamp are its time tags. -/
theorem entries_fields (stamp now : Int) :
    Fields.entries (fields stamp now)
      = Tag.all.map fun tag => (tag.name, tag.print stamp now) := by
  unfold fields
  induction Tag.all with
  | nil => rfl
  | cons tag rest ih =>
    rw [List.map_cons, Fields.entries, Value.entries, ih]
    rfl

/-- Where a tag is among the `Names` of a form of a time tag, `tagPrint?` prints what the time tag
prints, in that form. -/
theorem tagPrint?_eq_some_iff {stamp now : Int} {inside printed : Text} :
    tagPrint? stamp now inside = some printed ↔
      ∃ (tag : Tag) (form : Form), form.Names tag.name inside ∧
        printed = form.encode (tag.print stamp now) := by
  have honce : Variable.NamedOnce (Fields.entries (fields stamp now)) inside := by
    intro a ha b hb form other hform hother
    rw [entries_fields] at ha hb
    obtain ⟨tag, -, rfl⟩ := List.mem_map.mp ha
    obtain ⟨tag', -, rfl⟩ := List.mem_map.mp hb
    rw [(Tag.eq_of_names hform hother).1]
  rw [tagPrint?, Variable.entriesPrint?_eq_some_iff_exists_mem honce, entries_fields]
  constructor
  · rintro ⟨entry, hentry, hprint⟩
    obtain ⟨tag, -, rfl⟩ := List.mem_map.mp hentry
    obtain ⟨form, hnames, hprinted⟩ := Variable.entryPrint?_eq_some_iff.mp hprint
    exact ⟨tag, form, hnames, hprinted⟩
  · rintro ⟨tag, form, hnames, hprinted⟩
    exact ⟨_, List.mem_map.mpr ⟨tag, tag.mem_all, rfl⟩,
      Variable.entryPrint?_eq_some_iff.mpr ⟨form, hnames, hprinted⟩⟩

/-- What `tagPrint?` prints has no opening brace. -/
theorem openBrace_not_mem_of_tagPrint? {stamp now : Int} {inside printed : Text}
    (h : tagPrint? stamp now inside = some printed) : '{' ∉ printed := by
  obtain ⟨tag, form, -, rfl⟩ := tagPrint?_eq_some_iff.mp h
  exact Variable.openBrace_not_mem_encode (tag.openBrace_not_mem_print stamp now) form

/-- The variables of a timestamp are filled in by the one pass `tagPrint?`. -/
theorem fillFields_fields (stamp now : Int) {text : Text} (htext : Tagged text) :
    Variable.fillFields true (fields stamp now) text
      = Variable.substitute (tagPrint? stamp now) text := by
  refine (Variable.fillFields_eq_substitute (fun entry hentry => ?_) htext).1
  rw [entries_fields] at hentry
  obtain ⟨tag, -, rfl⟩ := List.mem_map.mp hentry
  exact ⟨tag.braceFree_name, tag.openBrace_not_mem_print stamp now⟩

/-- No form of a time tag is left by the pass `tagPrint?`. -/
theorem not_infix_substitute {stamp now : Int} {text : Text} (htext : Tagged text) {tag : Tag}
    {form : Form} {inside : Text} (h : form.Names tag.name inside) :
    ¬ Variable.tag inside <:+: Variable.substitute (tagPrint? stamp now) text := by
  intro hin
  have hmem := Variable.mem_insides_iff.mpr ⟨h.braceFree tag.braceFree_name, hin⟩
  rw [Variable.insides_substitute openBrace_not_mem_of_tagPrint? htext, List.mem_filter,
    tagPrint?_eq_some_iff.mpr ⟨tag, form, h, rfl⟩] at hmem
  exact absurd hmem.2 (by simp)

end Time

namespace Post

/-! ## What the fields leave -/

/-- The cursor after the type and the fields of a post, before its time: `fillFields` without its
last step. -/
def fillEntries (post : Fields) (cursor : Cursor) : Cursor :=
  post.foldl (fun filled entry => fillField entry.1 entry.2 filled) (fillType post cursor)

/-- By `fillFields` the time of a post is filled in where `fillEntries` has filled in its type and
its fields. -/
theorem fillFields_eq (post : Fields) (now : Int) (cursor : Cursor) :
    fillFields post now cursor = fillTime post now (fillEntries post cursor) :=
  rfl

/-- To `unwrap` blocks leaves each brace opening a tag, as `Tagged` says. -/
theorem tagged_unwrap {cursor : Cursor} (h : Tagged cursor.current) (name : Text) :
    Tagged (cursor.unwrap name).current :=
  Block.tagged_replace (fun _ hbody => hbody) h

/-- To repeat blocks for rows whose texts open no brace leaves a text `Tagged`. -/
theorem tagged_repeatRows {cursor : Cursor} (h : Tagged cursor.current) (name : Text)
    {rows : List Fields} (hrows : ∀ row ∈ rows, ∀ content ∈ Fields.texts row, '{' ∉ content) :
    Tagged (cursor.repeatRows name rows).current := by
  have hcopies : ∀ region : Block.Region, Tagged region.body →
      Tagged (rows.flatMap fun row => Variable.fillFields true row region.body) := by
    intro region hbody
    induction rows with
    | nil => exact Variable.tagged_of_not_mem List.not_mem_nil
    | cons row rest ih =>
      obtain ⟨hfirst, hothers⟩ := List.forall_mem_cons.mp hrows
      exact (Variable.tagged_fillFields hfirst true hbody).append (ih hothers)
  exact Block.tagged_replace hcopies h

/-- The rows of a list, as `Value.map?` finds them, are maps that stand in it. -/
theorem subset_of_mem_rows {items : List Value} {row : Fields}
    (h : row ∈ items.filterMap Value.map?) :
    Fields.texts row ⊆ Value.textsOfList items ∧
      Fields.allKeys row ⊆ Value.allKeysOfList items := by
  obtain ⟨value, hvalue, hrow⟩ := List.mem_filterMap.mp h
  cases value with
  | map fields =>
    obtain rfl : fields = row := Option.some.inj hrow
    have hsubset := Value.subset_of_mem hvalue
    rwa [Value.texts, Value.allKeys] at hsubset
  | text | list => cases hrow

/-- One field leaves a text `Tagged`, whatever its key is. -/
theorem tagged_fillField {key : Text} {value : Value} {cursor : Cursor}
    (hvalue : ∀ content ∈ value.texts, '{' ∉ content) (h : Tagged cursor.current) :
    Tagged (fillField key value cursor).current := by
  unfold fillField
  split
  next => exact h
  next =>
    split
    next rows =>
      refine tagged_repeatRows h key fun row hrow content hcontent => hvalue content ?_
      rw [Value.texts]
      exact (subset_of_mem_rows hrow).1 hcontent
    next row =>
      rw [Value.texts] at hvalue
      refine tagged_repeatRows h key fun other hother => ?_
      rw [List.mem_singleton.mp hother]
      exact hvalue
    next => exact h
    next content _ =>
      have hcontent : '{' ∉ content := hvalue content (by simp [Value.texts])
      show Tagged (Variable.fill key content true (cursor.unwrap key).current)
      rw [Variable.fill_eq_fillSlots]
      refine Variable.tagged_fillSlots (fun slot hslot => ?_) (tagged_unwrap h key)
      obtain ⟨form, -, rfl⟩ := List.mem_map.mp hslot
      exact hcontent

/-- Fields one after the other leave a text `Tagged`. -/
theorem tagged_foldl_fillField {post : Fields} :
    ∀ {cursor : Cursor}, (∀ content ∈ Fields.texts post, '{' ∉ content) →
      Tagged cursor.current →
      Tagged
        (post.foldl (fun filled entry => fillField entry.1 entry.2 filled) cursor).current := by
  induction post with
  | nil => exact fun _ h => h
  | cons entry rest ih =>
    obtain ⟨key, value⟩ := entry
    intro cursor htexts h
    rw [Fields.texts] at htexts
    refine ih (fun content hmem => htexts content (List.mem_append_right _ hmem)) ?_
    exact tagged_fillField (fun content hmem => htexts content (List.mem_append_left _ hmem)) h

/-- The type and the fields of a post leave a text `Tagged`. -/
theorem tagged_fillEntries {post : Fields} (htexts : ∀ content ∈ Fields.texts post, '{' ∉ content)
    {cursor : Cursor} (h : Tagged cursor.current) : Tagged (fillEntries post cursor).current := by
  refine tagged_foldl_fillField htexts ?_
  unfold fillType
  split
  next => exact h
  next => exact h
  next => exact tagged_unwrap h _

/-! ## Posts that have a time -/

/-- The time of the post is the numeral of a timestamp `stamp` in 64 bits whose date can be told. -/
def HasTime (post : Fields) (stamp : Int) : Prop :=
  ∃ content, post.get? "Time".toList = some (.text content) ∧ Text.IsNumeral content stamp ∧
    (-9223372036854775808 ≤ stamp ∧ stamp ≤ 9223372036854775807) ∧ Time.isFormattable stamp

theorem timestamp?_eq_some_iff {post : Fields} {stamp : Int} :
    timestamp? post = some stamp ↔ HasTime post stamp := by
  simp only [timestamp?, Option.bind_eq_bind, Option.bind_eq_some_iff,
    Option.ite_none_right_eq_some, Option.some.injEq, Text.readInteger?_eq_some_iff, HasTime]
  constructor
  · rintro ⟨value, hvalue, content, htext, other, hnumeral, ⟨hlow, hhigh, hdate⟩, rfl⟩
    cases value with
    | text own =>
      obtain rfl : own = content := Option.some.inj htext
      exact ⟨own, hvalue, hnumeral, ⟨hlow, hhigh⟩, hdate⟩
    | map | list => cases htext
  · rintro ⟨content, hvalue, hnumeral, ⟨hlow, hhigh⟩, hdate⟩
    exact ⟨_, hvalue, content, rfl, stamp, hnumeral, ⟨hlow, hhigh, hdate⟩, rfl⟩

/-- An integer `n` of a data file makes a post have that time, and no other, if it
`isFormattable`. -/
theorem hasTime_toValue_iff {post : Fields} {datum : Yaml.Datum} {n : Int}
    (hdatum : datum.untagged = .scalar (.number (.integer n)))
    (hlow : -9223372036854775808 ≤ n) (hhigh : n ≤ 9223372036854775807)
    (htime : post.get? "Time".toList = some datum.toValue) (stamp : Int) :
    HasTime post stamp ↔ stamp = n ∧ Time.isFormattable n := by
  have hvalue : datum.toValue = .text (Text.signedDecimal n) := by
    rw [← datum.toValue_untagged, hdatum, Yaml.Datum.toValue]
    rfl
  have hread := Text.readInteger?_signedDecimal n
  constructor
  · rintro ⟨content, hcontent, hnumeral, -, hdate⟩
    rw [htime, hvalue] at hcontent
    obtain rfl : Text.signedDecimal n = content := Value.text.inj (Option.some.inj hcontent)
    rw [Text.readInteger?_eq_some_iff.mpr hnumeral] at hread
    obtain rfl := Option.some.inj hread
    exact ⟨rfl, hdate⟩
  · rintro ⟨rfl, hdate⟩
    exact ⟨_, htime.trans (congrArg some hvalue), Text.readInteger?_eq_some_iff.mp hread,
      ⟨hlow, hhigh⟩, hdate⟩

/-! ## What becomes of the time tags -/

/-- **The time tags of a post tell its time or stay.** Let `fillEntries` give the text after the
type and the fields of a post, for any keys and any texts that open no brace. The first part: if the
post `HasTime`, each form of a time tag in the text is replaced by what `tagPrint?` has for it,
which is what the tag prints for that `stamp`, in that form, and none is left. The second part: if
it has no time, `fillFields` leaves the text as it is. The third part: an integer `n` in the data is
the time of its post and no other, if its date can be told. -/
theorem fillFields_time {post : Fields} (htexts : ∀ content ∈ Fields.texts post, '{' ∉ content)
    {cursor : Cursor} (htemplate : Tagged cursor.current) (now : Int) :
    (∀ stamp, HasTime post stamp →
      fillFields post now cursor = (fillEntries post cursor).setCurrent
        (Variable.substitute (Time.tagPrint? stamp now) (fillEntries post cursor).current) ∧
      (∀ inside printed, Time.tagPrint? stamp now inside = some printed ↔
        ∃ (tag : Time.Tag) (form : Form), form.Names tag.name inside ∧
          printed = form.encode (tag.print stamp now)) ∧
      ∀ (tag : Time.Tag) (form : Form) (inside : Text), form.Names tag.name inside →
        ¬ Variable.tag inside <:+: (fillFields post now cursor).current) ∧
      ((∀ stamp, ¬ HasTime post stamp) →
        fillFields post now cursor = fillEntries post cursor) ∧
      ∀ (datum : Yaml.Datum) (n : Int), datum.untagged = .scalar (.number (.integer n)) →
        -9223372036854775808 ≤ n → n ≤ 9223372036854775807 →
        post.get? "Time".toList = some datum.toValue →
        ∀ stamp, HasTime post stamp ↔ stamp = n ∧ Time.isFormattable n := by
  have htagged := tagged_fillEntries htexts htemplate
  refine ⟨fun stamp htime => ?_, fun hnone => ?_, fun datum n hdatum hlow hhigh htime =>
    hasTime_toValue_iff hdatum hlow hhigh htime⟩
  · have hpass : fillFields post now cursor = (fillEntries post cursor).setCurrent
        (Variable.substitute (Time.tagPrint? stamp now) (fillEntries post cursor).current) := by
      rw [fillFields_eq, fillTime, timestamp?_eq_some_iff.mpr htime,
        ← Time.fillFields_fields stamp now htagged]
      rfl
    refine ⟨hpass, fun inside printed => Time.tagPrint?_eq_some_iff, fun tag form inside h => ?_⟩
    rw [hpass]
    exact Time.not_infix_substitute htagged h
  · have htime : timestamp? post = none := Option.eq_none_iff_forall_ne_some.mpr
      fun stamp hstamp => hnone stamp (timestamp?_eq_some_iff.mp hstamp)
    rw [fillFields_eq, fillTime, htime]

/-- The last second before 1970, with a key that closes a tag and opens another one. A post
with a fraction in the place of its time has none. -/
theorem fillFields_time_oddKey :
    let datum : Yaml.Datum := .tagged "!at".toList (.scalar (.number (.integer (-1))))
    let post : Fields := [(['a', '}', '{', 'b'], .text ['x']), ("Time".toList, datum.toValue)]
    let timeless : Fields := [("Time".toList, .text "1.5".toList)]
    let cursor := Cursor.ofText (Variable.tag ['a'] ++ Variable.tag ['b'] ++
      Variable.tag "Year".toList ++ Variable.tag "jsAMPM".toList ++ Variable.tag "year".toList)
    (∀ content ∈ Fields.texts post, '{' ∉ content) ∧
      (∀ content ∈ Fields.texts timeless, '{' ∉ content) ∧ Tagged cursor.current ∧
      HasTime post (-1) ∧
      (fillFields post 0 cursor).current
        = "x1969\"pm\"".toList ++ Variable.tag "year".toList ∧
      fillFields timeless 0 cursor = cursor := by
  intro datum post timeless cursor
  have htexts : ∀ content ∈ Fields.texts post, '{' ∉ content := by decide +kernel
  have htimeless : ∀ content ∈ Fields.texts timeless, '{' ∉ content := by decide +kernel
  have htemplate : Tagged cursor.current :=
    ((((Variable.tagged_tag (by decide)).append (Variable.tagged_tag (by decide))).append
      (Variable.tagged_tag (by decide))).append (Variable.tagged_tag (by decide))).append
      (Variable.tagged_tag (by decide))
  obtain ⟨hfilled, -, hinteger⟩ := fillFields_time htexts htemplate 0
  have htime : HasTime post (-1) :=
    (hinteger datum (-1) rfl (by decide) (by decide) rfl (-1)).mpr ⟨rfl, by decide⟩
  have hnone : ∀ stamp, ¬ HasTime timeless stamp := by
    intro stamp hstamp
    have hread : timestamp? timeless = none := by decide +kernel
    rw [timestamp?_eq_some_iff.mpr hstamp] at hread
    cases hread
  refine ⟨htexts, htimeless, htemplate, htime, ?_,
    ((fillFields_time htimeless htemplate 0).2.1 hnone).trans ?_⟩
  · rw [(hfilled (-1) htime).1]
    decide +kernel
  · decide +kernel

end Post

end Stencil
