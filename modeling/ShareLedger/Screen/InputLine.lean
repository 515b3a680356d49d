import ShareLedger.Screen
import ShareLedger.Screen.Event
import ShareLedger.Text.Place
/-!
# Screen.InputLine

The line in which commands are typed.

1. The cursor stands between two characters; its place is counted in the bytes in front of it, and
   every edit happens there.
2. Submitted lines are kept in a history, oldest first, each only once in a row. Going back in it
   parks the line that is being typed, which comes back behind the newest entry.
3. Where the line is longer than the screen is wide, characters are dropped on the left until the
   cursor can be seen (`InputLine.scrolled?`).
-/

namespace ShareLedger

/-- The line, the place of the cursor, and the history. -/
structure InputLine where
  buffer : List Char
  /-- How many bytes stand in front of the cursor. -/
  cursor : Nat
  /-- The submitted lines, oldest first. -/
  history : List String
  /-- The place in the history of the entry that is shown, if one is. -/
  browsing : Option Nat
  /-- The line that is parked meanwhile. -/
  draft : List Char
deriving DecidableEq

/-- What an event does to the line. -/
inductive InputResult where
  | changed
  /-- A line is submitted. -/
  | submitted (line : String)
deriving DecidableEq

namespace InputLine

/-- An empty line with a history. -/
def ofHistory (history : List String) : InputLine := ⟨[], 0, history, none, []⟩

/-- The characters in front of the cursor and behind it. -/
def parts? (l : InputLine) : Option (List Char × List Char) := Text.cutBytes l.cursor l.buffer

/-! ## Editing -/

/-- The line replaced, with the cursor at its end. -/
def withBuffer (l : InputLine) (cs : List Char) : InputLine :=
  { l with buffer := cs, cursor := Text.byteCount cs }

/-- Puts characters in front of the cursor. -/
def insert? (l : InputLine) (cs : List Char) : Option (InputLine × Option InputResult) :=
  (Text.putIn? l.buffer l.cursor cs).map fun buffer =>
    ({ l with buffer, cursor := l.cursor + Text.byteCount cs }, some .changed)

/-- Drops the character in front of the cursor. -/
def backspace? (l : InputLine) : Option (InputLine × Option InputResult) :=
  if 0 < l.cursor then do
    let cursor ← Text.placeBefore? l.buffer l.cursor
    let buffer ← Text.dropBetween? l.buffer cursor l.cursor
    return ({ l with buffer, cursor }, some .changed)
  else some (l, none)

/-- Drops the character behind the cursor. -/
def delete? (l : InputLine) : Option (InputLine × Option InputResult) :=
  if l.cursor < Text.byteCount l.buffer then do
    let behind ← Text.placeBehind? l.buffer l.cursor
    let buffer ← Text.dropBetween? l.buffer l.cursor behind
    return ({ l with buffer }, some .changed)
  else some (l, none)

/-- Moves the cursor over the character in front of it. -/
def left? (l : InputLine) : Option (InputLine × Option InputResult) :=
  if 0 < l.cursor then
    (Text.placeBefore? l.buffer l.cursor).map fun cursor => ({ l with cursor }, some .changed)
  else some (l, none)

/-- Moves the cursor over the character behind it. -/
def right? (l : InputLine) : Option (InputLine × Option InputResult) :=
  if l.cursor < Text.byteCount l.buffer then
    (Text.placeBehind? l.buffer l.cursor).map fun cursor => ({ l with cursor }, some .changed)
  else some (l, none)

/-- Moves the cursor to a place. -/
def moveTo (l : InputLine) (place : Nat) : InputLine × Option InputResult :=
  if l.cursor = place then (l, none) else ({ l with cursor := place }, some .changed)

/-- Drops everything. -/
def clear (l : InputLine) : InputLine × Option InputResult :=
  if l.buffer.isEmpty then (l, none) else (l.withBuffer [], some .changed)

/-! ## History -/

/-- Shows the entry of the history at a place. -/
def openAt? (l : InputLine) (place : Nat) : Option (InputLine × Option InputResult) :=
  l.history[place]?.map fun entry =>
    ({ l with browsing := some place }.withBuffer entry.toList, some .changed)

/-- Shows the entry before, or the newest one if none is shown. -/
def older? (l : InputLine) : Option (InputLine × Option InputResult) :=
  match l.browsing with
  | some 0 => some (l, none)
  | some (place + 1) => l.openAt? place
  | none =>
    if l.history.isEmpty then some (l, none)
    else { l with draft := l.buffer }.openAt? (l.history.length - 1)

/-- Shows the entry behind, or the parked line behind the newest one. -/
def newer? (l : InputLine) : Option (InputLine × Option InputResult) :=
  match l.browsing with
  | none => some (l, none)
  | some place =>
    if place + 1 < l.history.length then l.openAt? (place + 1)
    else some ({ l with browsing := none, draft := [] }.withBuffer l.draft, some .changed)

/-- The history with a submitted line. -/
def remember (history : List String) (line : String) : List String :=
  if history.getLast? = some line then history else history ++ [line]

/-- Empties the line, and submits it without the blanks around it if anything is left. -/
def submit (l : InputLine) : InputLine × Option InputResult :=
  let line := String.ofList (Text.trimChars l.buffer)
  let emptied := ofHistory l.history
  if line = "" then (emptied, none)
  else ({ emptied with history := remember l.history line }, some (.submitted line))

/-! ## Events -/

/-- What an event does, unless the cursor is no place of the text or the entry that is shown is none
of the history. -/
def handle? (l : InputLine) : Event → Option (InputLine × Option InputResult)
  | .char c => l.insert? [c]
  | .paste s => l.insert? s.toList
  | .submit => some l.submit
  | .backspace => l.backspace?
  | .delete => l.delete?
  | .left => l.left?
  | .right => l.right?
  | .home => some (l.moveTo 0)
  | .toEnd => some (l.moveTo (Text.byteCount l.buffer))
  | .clear => some l.clear
  | .older => l.older?
  | .newer => l.newer?
  | .scrollUp | .scrollDown | .pageUp | .pageDown | .resize | .quit => some (l, none)

/-- What an event does; what cannot be done changes nothing. -/
def handle (l : InputLine) (e : Event) : InputLine × Option InputResult :=
  (l.handle? e).getD (l, none)

/-! ## Drawing -/

/-- What stands in front of the line. -/
def prompt : List Char := ['>', ' ']

/-- Drops characters on the left until the column of the cursor is one of the columns, or none is
left; the column that is left and what is left of the text.  A column is never below zero: there is
nothing to show when a character has to be dropped that is wider than the column that is left. -/
def scrollTo? (columns : Nat) : Nat → List Char → Option (Nat × List Char)
  | column, [] => some (column, [])
  | column, c :: cs =>
    if columns ≤ column then
      if Text.widthOf [c] ≤ column then scrollTo? columns (column - Text.widthOf [c]) cs else none
    else some (column, c :: cs)

/-- The column of the cursor and the text that are shown between the edges of a frame. -/
def scrolled? (l : InputLine) (width : Nat) : Option (Nat × List Char) := do
  let (front, _) ← l.parts?
  scrollTo? (max (width - 2) 1) (Text.widthOf (prompt ++ front)) (prompt ++ l.buffer)

/-- A column between the edges as a column of the frame; frames count their columns in sixteen bits. -/
def columnInFrame? (column : Nat) : Option Nat :=
  let place := column % 65536 + 1
  if place < 65536 then some place else none

/-- The framed line, and the column and the row of the cursor in the frame. -/
def draw? (l : InputLine) (width height : Nat) : Option (Screen × (Nat × Nat)) := do
  let (column, text) ← l.scrolled? width
  let column ← columnInFrame? column
  let rows := (Text.lines (String.ofList text)).map String.toList
  return (Screen.framed width height "Command (help for usage)" rows, (column, 1))

end InputLine
end ShareLedger
