import ShareLedger.Text.Blank
import ShareLedger.Text.Cluster
import ShareLedger.Text.Width
/-!
# Screen

Rows of cells.

1. A cell holds the characters that are shown as one. Something that fills several cells stands in
   the first of them, and the others are blank.
2. A row of text is cut where it would pass the width. Control characters and what fills no cell are
   left out, and so is what is wider than the whole row.
-/

namespace ShareLedger

/-- A row of cells, each with what it shows. -/
abbrev Row := List (List Char)

/-- Rows from the top down. -/
abbrev Screen := List Row

namespace Screen

/-- The blank cell. -/
def blank : List Char := [' ']

/-- Whether a character is a control character. -/
def isControl (c : Char) : Bool := c.toNat < 32 || (127 ≤ c.toNat && c.toNat < 160)

/-- What can be shown of a text, one piece for each sign. -/
def glyphs (cs : List Char) : List (List Char) :=
  (Text.clusters cs).filter fun g => !g.any isControl

/-- Signs set in the cells of a row of which some are used. -/
def place (width used : Nat) : List (List Char) → Row
  | [] => List.replicate (width - used) blank
  | g :: gs =>
    let w := Text.widthOf g
    if width < w then place width used gs
    else if width < used + w then List.replicate (width - used) blank
    else if w = 0 then place width used gs
    else g :: List.replicate (w - 1) blank ++ place width (used + w) gs

/-- A text as a row. -/
def row (width : Nat) (cs : List Char) : Row := place width 0 (glyphs cs)

/-- Texts as the rows of an area, from the top; what does not fit below is left out. -/
def area (width height : Nat) (texts : List (List Char)) : Screen :=
  (texts.take height).map (row width) ++ List.replicate (height - texts.length) (row width [])

/-! ## Frames -/

/-- A character as a cell. -/
def mark (c : Char) : List Char := [c]

/-- A row between two marks; where there is no room for both, the left one counts. -/
def between (width : Nat) (left right : Char) (inner : Row) : Row :=
  (mark left :: inner ++ [mark right]).take width

/-- The line above a frame with a title in it. -/
def topEdge (width : Nat) (title : String) : Row :=
  let inner := (title.toList.map mark ++ List.replicate width (mark '─')).take (width - 2)
  between width '╭' '╮' inner

/-- The line below a frame. -/
def bottomEdge (width : Nat) : Row :=
  between width '╰' '╯' (List.replicate (width - 2) (mark '─'))

/-- Texts in a frame with a title. -/
def framed (width height : Nat) (title : String) (texts : List (List Char)) : Screen :=
  let inner := (area (width - 2) (height - 2) texts).map (between width '│' '│')
  if height < 2 then [topEdge width title].take height
  else topEdge width title :: inner ++ [bottomEdge width]

/-! ## Reading -/

/-- The text of a row, without the blanks at its end. -/
def rowText (r : Row) : String := Text.trimEnd (String.ofList r.flatten)

/-- The texts of the rows. -/
def texts (s : Screen) : List String := s.map rowText

end Screen
end ShareLedger
