/-!
# `Introspect.Toml`: TOML values and the rules for defining tables

A document is a table of values. A table is defined once: by a header, by an inline value, or bit by
bit through dotted keys. What a header or a dotted key only passes through may be defined later. The
functions here add one definition to a document and answer `none` when it clashes with an earlier
one.

`define` puts a value under a dotted key, `openTable` and `openElement` follow the headers of tables
and of arrays of tables, and `update` changes the table that a header stands for. `lookup_define`
says that a plain key is found with the value it was defined with.
-/

set_option autoImplicit false

namespace Introspect

/-- How a table came about. -/
inductive TableForm
  /-- a value between braces, complete as it is -/
  | inline
  /-- a header of its own -/
  | header
  /-- passed through by the header of another table -/
  | implied
  /-- passed through by a dotted key -/
  | dotted
  deriving DecidableEq

/-- A TOML value. Numbers with a fraction and points in time only matter by their kind. -/
inductive Toml
  | string (s : String)
  | integer (n : Int)
  | float
  | bool (b : Bool)
  | dateTime
  | array (items : List Toml)
  | table (form : TableForm) (entries : List (String × Toml))
  /-- tables that share a header -/
  | tables (items : List (List (String × Toml)))

namespace Toml

/-- The content of a table. -/
abbrev Entries : Type := List (String × Toml)

/-- Replaces the value of a key that is there. -/
def replace (key : String) (v : Toml) : Entries → Entries
  | [] => []
  | (k, old) :: rest => if k = key then (k, v) :: rest else (k, old) :: replace key v rest

/-- Changes the last of several tables. -/
def changeLast (change : Entries → Option Entries) : List Entries → Option (List Entries)
  | [] => none
  | [last] => (change last).map fun changed => [changed]
  | first :: rest => (changeLast change rest).map fun changed => first :: changed

/-- Puts a value under a dotted key. The tables on the way must not have been defined in another
way. -/
def define : List String → String → Toml → Entries → Option Entries
  | [], key, v, entries =>
    if (entries.lookup key).isSome then none else some (entries ++ [(key, v)])
  | step :: path, key, v, entries =>
    match entries.lookup step with
    | none => (define path key v []).map fun inner => entries ++ [(step, .table .dotted inner)]
    | some (.table .dotted inner) =>
      (define path key v inner).map fun inner => replace step (.table .dotted inner) entries
    | some (.table .implied inner) =>
      if path.isEmpty then none
      else (define path key v inner).map fun inner => replace step (.table .implied inner) entries
    | some (.tables items) =>
      if path.isEmpty then none
      else (changeLast (define path key v) items).map fun items =>
        replace step (.tables items) entries
    | some _ => none

/-- Changes the table that a header leads to; of several tables the last one. Tables on the way come
into being. -/
def update (change : Entries → Option Entries) : List String → Entries → Option Entries
  | [], entries => change entries
  | step :: path, entries =>
    match entries.lookup step with
    | none => (update change path []).map fun inner => entries ++ [(step, .table .implied inner)]
    | some (.table .inline _) => none
    | some (.table form inner) =>
      (update change path inner).map fun inner => replace step (.table form inner) entries
    | some (.tables items) =>
      (changeLast (update change path) items).map fun items => replace step (.tables items) entries
    | some _ => none

/-- Opens the table of a header. -/
def openTable (key : String) (entries : Entries) : Option Entries :=
  match entries.lookup key with
  | none => some (entries ++ [(key, .table .header [])])
  -- A table that was only passed through can still get a header of its own.
  | some (.table .implied inner) => some (replace key (.table .header inner) entries)
  | some _ => none

/-- Opens one more table of a header that several tables share. -/
def openElement (key : String) (entries : Entries) : Option Entries :=
  match entries.lookup key with
  | none => some (entries ++ [(key, .tables [[]])])
  | some (.tables items) => some (replace key (.tables (items ++ [[]])) entries)
  | some _ => none

/-- A value inside braces, where nothing can be added any more. -/
def closed : Toml → Toml
  | table _ entries => table .inline entries
  | v => v

/-- The table between braces. -/
def ofInline (pairs : List (List String × String × Toml)) : Option Toml :=
  let entries? : Option Entries :=
    pairs.foldlM (fun entries (path, key, v) => define path key v entries) []
  entries?.map fun entries => table .inline (entries.map fun (key, v) => (key, v.closed))

/-- A plain key is found with the value it was defined with. -/
theorem lookup_define (key : String) (v : Toml) (before after : Entries)
    (h : define [] key v before = some after) : after.lookup key = some v := by
  simp only [define] at h
  split at h
  · simp at h
  · next hnone =>
    simp only [Option.some.injEq] at h
    subst h
    simp only [Bool.not_eq_true, Option.isSome_eq_false_iff, Option.isNone_iff_eq_none] at hnone
    rw [List.lookup_append, hnone]
    simp

end Toml

end Introspect
