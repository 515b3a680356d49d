import ShareLedger.Text.Cut
import ShareLedger.Text.Width
/-!
# Table

Tables drawn as boxed text.

1. A column is as wide as its widest cell, measured in cells of the terminal.
2. A row may have fewer cells than the header, then the others are blank, or more, then the table
   has more columns.
3. The drawing is a rule, the header, a rule, the rows and a rule, each a line of its own. Every
   cell has a space on both sides and is filled with spaces to the width of its column.
-/

namespace ShareLedger

/-- A header and rows of text. -/
structure Table where
  header : List String
  rows : List (List String)
deriving DecidableEq

namespace Table

/-- The wider of two columns at every place; columns that only one side has stay. -/
def widen : List Nat → List Nat → List Nat
  | [], ws => ws
  | vs, [] => vs
  | v :: vs, w :: ws => max v w :: widen vs ws

/-- The widths of the columns. -/
def columnWidths (t : Table) : List Nat :=
  t.rows.foldl (fun ws row => widen ws (row.map Text.width)) (t.header.map Text.width)

/-- A character set several times. -/
def fill (n : Nat) (c : Char) : String := String.ofList (List.replicate n c)

/-- A rule with the given left end, crossing and right end. -/
def rule (left crossing right : String) (widths : List Nat) : String :=
  left ++ Text.joinWith crossing (widths.map fun w => fill (w + 2) '─') ++ right ++ "\n"

/-- A cell with its spaces. -/
def paddedCell (width : Nat) (cell : String) : String :=
  " " ++ cell ++ fill (width - Text.width cell) ' ' ++ " "

/-- The cells of a row with their spaces; missing cells are blank. -/
def paddedCells : List Nat → List String → List String
  | [], _ => []
  | w :: ws, [] => paddedCell w "" :: paddedCells ws []
  | w :: ws, c :: cs => paddedCell w c :: paddedCells ws cs

/-- A line of cells. -/
def line (widths : List Nat) (cells : List String) : String :=
  "│" ++ Text.joinWith "│" (paddedCells widths cells) ++ "│\n"

/-- The table as boxed text. -/
def render (t : Table) : String :=
  let widths := t.columnWidths
  rule "┌" "┬" "┐" widths ++ line widths t.header ++ rule "├" "┼" "┤" widths ++
    String.join (t.rows.map (line widths)) ++ rule "└" "┴" "┘" widths

end Table
end ShareLedger
