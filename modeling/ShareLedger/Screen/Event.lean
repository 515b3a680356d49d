/-!
# Screen.Event

What the person at the keyboard does.
-/

namespace ShareLedger

/-- A key that is pressed, text that is pasted, or a turn of the wheel. -/
inductive Event where
  | char (c : Char)
  | paste (s : String)
  | submit
  | backspace
  | delete
  | left
  | right
  | home
  | toEnd
  | clear
  /-- To the line before in the history. -/
  | older
  /-- To the line behind in the history. -/
  | newer
  | scrollUp
  | scrollDown
  | pageUp
  | pageDown
  | resize
  | quit
deriving DecidableEq

end ShareLedger
