import ShareLedger.Ledger
import ShareLedger.Table
/-!
# Report

The three tables of a ledger. Their rows and columns follow the roster: every player and every
company has a row or a column, in the order of the names.
-/

namespace ShareLedger.Report

/-- The players with their cash and their shares. -/
def holdings (l : Ledger) : Table :=
  let roster := l.roster
  { header := "Player" :: "Cash" :: roster.companies
    rows := roster.players.map fun player =>
      player :: l.money (l.cashOf player) ::
        roster.companies.map fun company => (l.holding player company).text }

/-- The worth of a player's shares of one company. -/
def shareWorth (l : Ledger) (player company : String) : Amount :=
  l.holding player company * l.valueOf company

/-- The players with their cash, the worth of their shares, and the worth of it all. -/
def values (l : Ledger) : Table :=
  let roster := l.roster
  { header := "Player" :: "Cash" :: roster.companies ++ ["Total"]
    rows := roster.players.map fun player =>
      player :: l.money (l.cashOf player) ::
        (roster.companies.map fun company => l.money (shareWorth l player company)) ++
        [l.money (l.worth player)] }

/-- The companies with their treasuries, their values and who holds their shares. -/
def companies (l : Ledger) : Table :=
  let roster := l.roster
  { header := "Company" :: "Treasury" :: "Value" :: roster.players
    rows := roster.companies.map fun company =>
      company ::
        (match l.treasury? company with
        | some n => l.money n
        | none => "-") ::
        (l.valueOf company).text ::
        roster.players.map fun player => (l.holding player company).text }

end ShareLedger.Report
