/-!
# Toml

TOML documents: values, and tables that are put together line by line.

1. A table is made in one of four ways (`TableKind`), which decides what may be added to it later.
2. A line `a.b.c = v` adds to the table in which it stands (`Toml.assign`). The tables `a` and `a.b`
   on its path are made as dotted tables if they are missing; otherwise they may not have been
   written out with a header or in braces, and the last of them has to be dotted.
3. A header `[a.b.c]` opens a table that may so far only be known from longer headers
   (`Toml.openTable`); `[[a.b.c]]` opens a further table of a list of tables
   (`Toml.extendTables`). The path in front leads through tables of every kind but braces and
   through the last table of a list.
-/

namespace ShareLedger

/-- How a table was made. -/
inductive TableKind where
  /-- By a header of its own. -/
  | header
  /-- As a table on the path of a header. -/
  | path
  /-- As a table on the path of a line. -/
  | dotted
  /-- In braces. -/
  | braces
deriving DecidableEq

/-- A TOML value. Settings are texts, so nothing is kept of other single values but their kind. -/
inductive Toml where
  | text (s : String)
  | number
  | truth
  /-- A date, a time of day or both. -/
  | moment
  | array (items : List Toml)
  | table (kind : TableKind) (members : List (String × Toml))
  /-- A list of tables, each opened by a header. -/
  | tables (list : List (List (String × Toml)))

namespace Toml

/-- What is known under the names of a table. -/
abbrev Members := List (String × Toml)

/-- Replaces the value of a name that there is. -/
def replace (name : String) (v : Toml) (ms : Members) : Members :=
  ms.map fun m => if m.1 = name then (name, v) else m

/-- Changes the last of a list. -/
def changeLast {α : Type} (f : α → Option α) : List α → Option (List α)
  | [] => none
  | [a] => (f a).map fun a => [a]
  | a :: rest => (changeLast f rest).map (a :: ·)

/-- Adds a value under a name that is not taken. -/
def add (name : String) (v : Toml) (ms : Members) : Option Members :=
  match ms.lookup name with
  | none => some (ms ++ [(name, v)])
  | some _ => none

/-- What a line of a table does: it adds a value at the end of a path. -/
def assign (name : String) (v : Toml) : List String → Members → Option Members
  | [], ms => add name v ms
  | step :: path, ms =>
    match ms.lookup step with
    | none => (assign name v path []).map fun sub => ms ++ [(step, table .dotted sub)]
    | some (table kind sub) =>
      if kind = .dotted ∨ (kind = .path ∧ path ≠ []) then
        (assign name v path sub).map fun sub => replace step (table kind sub) ms
      else none
    | some (tables list) =>
      if path = [] then none
      else (changeLast (assign name v path) list).map fun list => replace step (tables list) ms
    | some _ => none

/-- Changes the table to which the path of a header leads. -/
def change (f : Members → Option Members) : List String → Members → Option Members
  | [], ms => f ms
  | step :: path, ms =>
    match ms.lookup step with
    | none => (change f path []).map fun sub => ms ++ [(step, table .path sub)]
    | some (table .braces _) => none
    | some (table kind sub) => (change f path sub).map fun sub => replace step (table kind sub) ms
    | some (tables list) =>
      (changeLast (change f path) list).map fun list => replace step (tables list) ms
    | some _ => none

/-- What a header of a table does in the table in front of its last name. -/
def openTable (name : String) (ms : Members) : Option Members :=
  match ms.lookup name with
  | none => some (ms ++ [(name, table .header [])])
  | some (table .path sub) => some (replace name (table .header sub) ms)
  | some _ => none

/-- What a header of a list of tables does in the table in front of its last name. -/
def extendTables (name : String) (ms : Members) : Option Members :=
  match ms.lookup name with
  | none => some (ms ++ [(name, tables [[]])])
  | some (tables list) => some (replace name (tables (list ++ [[]])) ms)
  | some _ => none

end Toml
end ShareLedger
