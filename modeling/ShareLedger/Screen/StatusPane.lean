import ShareLedger.Screen
import ShareLedger.StatusBar
import ShareLedger.Text.Cut
/-!
# Screen.StatusPane

The bar at the top of the screen: the name of the open game and its status.

The name goes in front of the round and is packed with it. Without a status that tells of the bank
nothing but the name and the round is shown.
-/

namespace ShareLedger

/-- The name of the open game and its status. -/
structure StatusPane where
  name : Option String
  status : Option StatusBar
deriving DecidableEq

namespace StatusPane

/-- The name and the round. -/
def title (p : StatusPane) : String :=
  let name := p.name.getD "sharebook (no game)"
  match p.status.bind (·.round) with
  | some round => name ++ StatusBar.gap ++ round
  | none => name

/-- The lines of a width. -/
def lines (p : StatusPane) (width : Nat) : List String :=
  match p.status with
  | some bar => if bar.bank = "" then [p.title] else { bar with round := some p.title }.lines width
  | none => [p.title]

/-- How many rows the bar takes. -/
def height (p : StatusPane) (width : Nat) : Nat := max (p.lines width).length 1

/-- The bar in an area. -/
def draw (p : StatusPane) (width height : Nat) : Screen :=
  Screen.area width height
    ((Text.lines (Text.joinWith "\n" (p.lines width))).map String.toList)

end StatusPane
end ShareLedger
