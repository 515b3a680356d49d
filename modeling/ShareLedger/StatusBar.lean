import ShareLedger.Ledger
import ShareLedger.Text.Width
/-!
# StatusBar

The state of a game in a few short items: the round, the bank, every player's money and worth, and
every floated company's treasury.

1. While the size of the bank is not set, the bank's item tells the total of the cash instead.
2. The items are packed into lines in order: an item joins the line before it, four spaces behind,
   if the line then fits the width (`StatusBar.packAfter`).
-/

namespace ShareLedger

/-- The items of the status bar. -/
structure StatusBar where
  round : Option String
  bank : String
  players : List String
  companies : List String
deriving DecidableEq

namespace StatusBar

/-- The status bar of a ledger. -/
def ofLedger (l : Ledger) : StatusBar :=
  let roster := l.roster
  { round := l.round.map (·.text)
    bank :=
      match l.bankRemains with
      | some n => "BANK " ++ l.money n
      | none => "TOTAL " ++ l.money l.totalCash
    players := roster.players.map fun player =>
      player ++ " " ++ l.money (l.cashOf player) ++ " (" ++ l.money (l.worth player) ++ ")"
    companies := roster.companies.filterMap fun company =>
      (l.treasury? company).map fun n => company ++ " " ++ l.money n }

/-- The items in the order in which they are shown. -/
def items (bar : StatusBar) : List String :=
  bar.round.toList ++ bar.bank :: bar.players ++ bar.companies

/-- Four spaces. -/
def gap : String := "    "

/-- Packs items behind a line that has begun; an empty line has not begun. -/
def packAfter (width : Nat) (line : String) : List String → List String
  | [] => if line = "" then [] else [line]
  | item :: rest =>
    if line = "" then packAfter width item rest
    else if width < Text.width line + 4 + Text.width item then line :: packAfter width item rest
    else packAfter width (line ++ gap ++ item) rest

/-- The items packed into lines of a width. -/
def lines (bar : StatusBar) (width : Nat) : List String := packAfter width "" bar.items

end StatusBar
end ShareLedger
