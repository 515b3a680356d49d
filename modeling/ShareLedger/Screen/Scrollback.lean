import ShareLedger.Screen
import ShareLedger.Screen.Event
import ShareLedger.Text.Wrap
/-!
# Screen.Scrollback

Everything that was typed and answered, newest at the bottom.

1. The 2000 newest entries are kept. Every new one brings the bottom back into view.
2. Entries are set in rows of the width of the screen, tables aside, whose rows are cut off
   (`Scrollback.rows`).
3. How far the view is scrolled is counted in rows from the bottom. It is brought back into its
   bounds whenever the screen is drawn (`Scrollback.settle`); scrolling moves it inside the bounds
   of the last drawing.
-/

namespace ShareLedger

/-- A line that was typed or answered. -/
inductive ScrollEntry where
  | command (text : String)
  | feedback (line : String)
deriving DecidableEq

/-- The entries and the view of them. -/
structure Scrollback where
  /-- Oldest first. -/
  entries : List ScrollEntry
  /-- How many rows lie below the view. -/
  back : Nat
  /-- The height of the last drawing. -/
  page : Nat
  /-- How far the view of the last drawing could be scrolled. -/
  reach : Nat
deriving DecidableEq

namespace Scrollback

/-- How many entries are kept. -/
def capacity : Nat := 2000

/-- Nothing yet. -/
def empty : Scrollback := ⟨[], 0, 10, 0⟩

/-! ## Entries -/

/-- Adds an entry. -/
def push (s : Scrollback) (e : ScrollEntry) : Scrollback :=
  let entries := s.entries ++ [e]
  { s with entries := entries.drop (entries.length - capacity), back := 0 }

/-- Adds a line that was typed. -/
def pushCommand (s : Scrollback) (line : String) : Scrollback := s.push (.command line)

/-- Adds the lines of an answer; blanks at its end do not count. -/
def pushFeedback (s : Scrollback) (text : String) : Scrollback :=
  (Text.lines (Text.trimEnd text)).foldl (fun s line => s.push (.feedback line)) s

/-! ## Rows -/

/-- Whether a line belongs to a table. -/
def isTableRow (line : String) : Bool :=
  match line.toList with
  | c :: _ => c == '┌' || c == '│' || c == '├' || c == '└'
  | [] => false

/-- The rows of an entry on a screen of a width. -/
def rowsOf (width : Nat) : ScrollEntry → List (List Char)
  | .command text => Text.wrap width ("> " ++ text)
  | .feedback line => if isTableRow line then [line.toList] else Text.wrap width line

/-- The rows of all entries. -/
def rows (s : Scrollback) (width : Nat) : List (List Char) :=
  s.entries.flatMap (rowsOf (max width 1))

/-- How many rows there are, counted in 16 bits. -/
def rowCount (s : Scrollback) (width : Nat) : Nat := (s.rows width).length % 65536

/-! ## View -/

/-- The view in the bounds of a screen. -/
def settle (s : Scrollback) (width height : Nat) : Scrollback :=
  let reach := s.rowCount width - height
  { s with page := max height 1, reach, back := min s.back reach }

/-- The rows in view, once it is settled. -/
def draw (s : Scrollback) (width height : Nat) : Screen :=
  Screen.area width height ((s.rows width).drop (s.reach - s.back))

/-- Moves the view up, or down by a negative count of rows. -/
def scroll (s : Scrollback) (up : Int) : Scrollback :=
  { s with back := (max 0 (min ((s.back : Int) + up) s.reach)).toNat }

/-- What an event does; nothing when it is not about scrolling. -/
def handle (s : Scrollback) : Event → Option Scrollback
  | .scrollUp => some (s.scroll 1)
  | .scrollDown => some (s.scroll (-1))
  | .pageUp => some (s.scroll s.page)
  | .pageDown => some (s.scroll (-s.page))
  | _ => none

end Scrollback
end ShareLedger
