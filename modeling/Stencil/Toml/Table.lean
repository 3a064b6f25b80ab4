import Stencil.Keyed
import Stencil.Toml.Scalar

/-!
# TOML tables

The tables of a document as headers and keys build them up. A table may come
about in three ways: by a header of its own, on the path of a longer header, or
by a key with dots. Which of them it was decides what may still be added to it:
a table is defined by at most one header and not by dotted keys as well, and a
value written in braces or brackets cannot be added to.
-/

namespace Stencil.Toml

/-- A value written behind a key: a `Scalar`, an array or the keys of an inline table. -/
inductive Value where
  | scalar (value : Scalar)
  | array (items : List Value)
  | inlineTable (keys : List Text)
  deriving Inhabited

/-- How a table has come about: by its own header, on the path of another one, or before the dots of
a key. -/
inductive Origin where
  | header
  | path
  | dotted
  deriving DecidableEq

/-- What stands under a key: a `Value`, a table with its `Origin`, or a row of tables. -/
inductive Item where
  | value (value : Value)
  | table (origin : Origin) (entries : List (Text × Item))
  | tables (rows : List (List (Text × Item)))
  deriving Inhabited

namespace Item

/-- The entries of a table, an `Item` under each key. -/
abbrev Entries := Keyed Item

/-- Makes a `change?` to the table that a header's path leads to, with new tables of `Origin.path`
where there are none. In a row of tables the path leads to the last one. -/
def within? (change? : Entries → Option Entries) : List Text → Entries → Option Entries
  | [], entries => change? entries
  | key :: rest, entries =>
    match entries.get? key with
    | none => (within? change? rest []).map fun inner => entries.put key (.table .path inner)
    | some (.table origin inner) =>
      (within? change? rest inner).map fun inner => entries.put key (.table origin inner)
    | some (.tables rows) =>
      (within? change? rest (rows.getLast?.getD [])).map fun inner =>
        entries.put key (.tables (rows.dropLast ++ [inner]))
    | some (.value _) => none

/-- Defines the table under `key` by its header; `none` if anything but a table of `Origin.path` is
there. -/
def defineTable? (key : Text) (entries : Entries) : Option Entries :=
  match entries.get? key with
  | none => some (entries.put key (.table .header []))
  | some (.table .path inner) => some (entries.put key (.table .header inner))
  | _ => none

/-- Adds a table to the row of tables under `key` by its header; `none` if another `Item` is
there. -/
def defineRow? (key : Text) (entries : Entries) : Option Entries :=
  match entries.get? key with
  | none => some (entries.put key (.tables [[]]))
  | some (.tables rows) => some (entries.put key (.tables (rows ++ [[]])))
  | _ => none

/-- Writes a `value` under a `key` behind the keys before its dots, which make tables of
`Origin.dotted`; `none` if the key is taken. -/
def assign? (key : Text) (value : Value) : List Text → Entries → Option Entries
  | [], entries =>
    if (entries.get? key).isSome then none else some (entries.put key (.value value))
  | dotted :: rest, entries =>
    match entries.get? dotted with
    | none => (assign? key value rest []).map fun inner => entries.put dotted (.table .dotted inner)
    | some (.table .dotted inner) =>
      (assign? key value rest inner).map fun inner => entries.put dotted (.table .dotted inner)
    | some (.table .path inner) =>
      if rest.isEmpty then none
      else (assign? key value rest inner).map fun inner => entries.put dotted (.table .path inner)
    | _ => none

end Item

end Stencil.Toml
