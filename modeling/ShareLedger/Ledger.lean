import ShareLedger.Amount
import ShareLedger.Book
import ShareLedger.Refusal
import ShareLedger.Round
import ShareLedger.Rounding
import ShareLedger.Text.Shortest
/-!
# Ledger

What a game knows at one moment: money, shares, values, incomes, the bank and the round.

1. A company is *floated* while it has a treasury. A floated company's money is its treasury; every
   other party's money is its cash.
2. Nobody's part in the game is stored. Whoever is floated, or is a company in somebody's share
   list, is a company; everybody else with cash or a share list is a player (`Ledger.roster`).
3. A holding is never negative: who sells more than is held sells everything.
4. Every operation returns the new ledger and the line that tells the operator what happened
   (`Posting`). The only refusals are arguments that are no numbers.
-/

namespace ShareLedger

/-- The size of the bank, if it is set, and the symbol in front of amounts of money. -/
structure Bank where
  size : Option Amount
  currency : String
deriving DecidableEq

/-- What a game knows at one moment. -/
structure Ledger where
  /-- The money of players, and of companies from before they floated. -/
  cash : Book Amount
  /-- Who holds how many shares of which company. -/
  shares : Book (Book Amount)
  /-- The money of floated companies. -/
  treasuries : Book Amount
  /-- The price of one share of a company. -/
  values : Book Amount
  /-- What a party receives at the start of every operating round. -/
  incomes : Book Amount
  bank : Bank
  round : Option Round
  rounding : Rounding
  /-- Whether treasuries are funded from outside the bank. -/
  companyCredits : Bool
  /-- The currency that a bank size without a symbol sets. -/
  defaultCurrency : String
deriving DecidableEq

/-- A new ledger and the text that reports the change. -/
structure Posting where
  ledger : Ledger
  text : String

/-- One change after another, the reports in order. -/
def Posting.andThen (p : Posting) (next : Ledger → Posting) : Posting :=
  let q := next p.ledger
  ⟨q.ledger, p.text ++ q.text⟩

/-- The parties of a game: two lists of names in order. -/
structure Roster where
  players : List String
  companies : List String
deriving DecidableEq

namespace Roster

/-- Whether a name is a company's. -/
def isCompany (r : Roster) (name : String) : Bool := r.companies.contains name

/-- All parties, the players first. -/
def parties (r : Roster) : List String := r.players ++ r.companies

end Roster

namespace Ledger

/-- The ledger of a game that has not begun. -/
def empty (currency : String) : Ledger where
  cash := ∅
  shares := ∅
  treasuries := ∅
  values := ∅
  incomes := ∅
  bank := ⟨none, currency⟩
  round := none
  rounding := .down
  companyCredits := false
  defaultCurrency := currency

/-! ## Looking up -/

/-- Money outside a treasury. -/
def cashOf (l : Ledger) (party : String) : Amount := (l.cash.get? party).getD 0

/-- The treasury of a floated company. -/
def treasury? (l : Ledger) (company : String) : Option Amount := l.treasuries.get? company

/-- Whether a company is floated. -/
def isFloated (l : Ledger) (company : String) : Bool := (l.treasury? company).isSome

/-- The money a party can spend. -/
def balance (l : Ledger) (party : String) : Amount := (l.treasury? party).getD (l.cashOf party)

/-- The share list of an owner. -/
def portfolio (l : Ledger) (owner : String) : Book Amount := (l.shares.get? owner).getD ∅

/-- The number of shares of a company that an owner holds. -/
def holding (l : Ledger) (owner company : String) : Amount :=
  ((l.portfolio owner).get? company).getD 0

/-- Everyone who holds shares of a company, with the number of them. -/
def holders (l : Ledger) (company : String) : List (String × Amount) :=
  l.shares.entries.filterMap fun (owner, owned) =>
    match owned.get? company with
    | some n => if n = 0 then none else some (owner, n)
    | none => none

/-- Whether a company stands in anybody's share list, be it with no share. -/
def hasShareEntry (l : Ledger) (company : String) : Bool :=
  l.shares.values.any (·.contains company)

/-- The price of one share. -/
def valueOf (l : Ledger) (company : String) : Amount := (l.values.get? company).getD 0

/-- The income of a party. -/
def incomeOf (l : Ledger) (party : String) : Amount := (l.incomes.get? party).getD 0

/-- An amount with the currency in front. -/
def money (l : Ledger) (n : Amount) : String := l.bank.currency ++ n.text

/-! ## The roster -/

/-- The names of all companies, in order. -/
def companyNames (l : Ledger) : List String :=
  Book.sortNames (l.treasuries.names ++ l.shares.values.flatMap (·.names))

/-- The players and companies of the game. -/
def roster (l : Ledger) : Roster :=
  let companies := l.companyNames
  { companies
    players :=
      (Book.sortNames (l.cash.names ++ l.shares.names)).filter (!companies.contains ·) }

/-! ## Sums -/

/-- All money outside treasuries. -/
def totalCash (l : Ledger) : Amount := Amount.total l.cash.values

/-- All money in treasuries. -/
def totalTreasuries (l : Ledger) : Amount := Amount.total l.treasuries.values

/-- The worth of a party: what it can spend and its shares at their values. -/
def worth (l : Ledger) (party : String) : Amount :=
  l.balance party +
    Amount.total ((l.portfolio party).entries.map fun (company, n) => n * l.valueOf company)

/-- The money left in the bank, once its size is set. -/
def bankRemains (l : Ledger) : Option Amount :=
  l.bank.size.map fun size =>
    if l.companyCredits then size - l.totalCash else size - l.totalCash - l.totalTreasuries

/-- The line that tells what is left in the bank. -/
def bankReport (l : Ledger) : String :=
  match l.bankRemains with
  | some n => "Bank has " ++ l.money n ++ ".\n"
  | none => "Bank size is not set.\n"

/-! ## Shares -/

/-- Sets a holding. -/
def setHolding (l : Ledger) (owner company : String) (n : Amount) : Ledger :=
  { l with shares := l.shares.insert owner ((l.portfolio owner).insert company n) }

/-- Adds shares to a holding or takes them away. Who would be left with less than none is left with
none. -/
def changeShares (l : Ledger) (owner company : String) (delta : Amount) : Posting :=
  let had := l.holding owner company
  let now := had + delta
  if now < 0 then
    ⟨l.setHolding owner company 0, owner ++ " only has " ++ had.text ++ ", selling all.\n"⟩
  else
    ⟨l.setHolding owner company now,
      if 0 < delta then
        owner ++ " buys " ++ delta.text ++ " " ++ company ++ " and now has " ++ now.text ++ ".\n"
      else if delta < 0 then
        owner ++ " sells " ++ Nat.repr delta.toInt.natAbs ++ " " ++ company ++ " and now has " ++
          now.text ++ ".\n"
      else ""⟩

/-! ## Money -/

/-- Adds money to a party's account: the treasury of a floated company, else the cash. -/
def credit (l : Ledger) (party : String) (sum : Amount) : Ledger :=
  match l.treasury? party with
  | some n => { l with treasuries := l.treasuries.insert party (n + sum) }
  | none => { l with cash := l.cash.insert party (l.cashOf party + sum) }

/-- Adds money to a party's account and tells what it has then. -/
def changeCash (l : Ledger) (party : String) (sum : Amount) : Posting :=
  let l' := l.credit party sum
  ⟨l', party ++ " now has " ++ l'.money (l'.balance party) ++ ".\n"⟩

/-- Moves money from one party to another. -/
def moveCash (l : Ledger) (giver receiver : String) (sum : Amount) : Posting :=
  (l.changeCash giver (-sum)).andThen (·.changeCash receiver sum)

/-! ## Trades -/

/-- Buys shares. With a seller the shares and a price above zero pass between the two; without one
the shares are new and the price leaves the game. -/
def buyShares (l : Ledger) (buyer company : String) (n price : Amount)
    (seller : Option String) : Posting :=
  let bought := l.changeShares buyer company n
  let cost := price * n
  match seller with
  | some seller =>
    let sold := bought.andThen (·.changeShares seller company (-n))
    if 0 < price then sold.andThen (·.moveCash buyer seller cost) else sold
  | none => if 0 < price then bought.andThen (·.changeCash buyer (-cost)) else bought

/-- Sells shares out of the game, for a price above zero. -/
def sellShares (l : Ledger) (seller company : String) (n price : Amount) : Posting :=
  let sold := l.changeShares seller company (-n)
  if 0 < price then sold.andThen (·.changeCash seller (price * n)) else sold

/-! ## Dividends -/

/-- What a holder receives: the whole part of the holding's share in an amount. -/
def payout (n numerator : Amount) (denominator : Nat) : Amount :=
  (n * numerator).floorDiv denominator

/-- Pays one holder, unless the payout is zero. -/
def payHolder (company : String) (numerator : Amount) (denominator : Nat) (p : Posting)
    (holder : String × Amount) : Posting :=
  let sum := payout holder.2 numerator denominator
  if sum = 0 then p
  else
    ⟨p.ledger.credit holder.1 sum,
      p.text ++ company ++ " pays " ++ holder.1 ++ " " ++ p.ledger.money sum ++ " for " ++
        holder.2.text ++ " shares.\n"⟩

/-- Pays every holder of a company. -/
def distribute (l : Ledger) (company : String) (numerator : Amount) (denominator : Nat) : Posting :=
  let paid := (l.holders company).foldl (payHolder company numerator denominator) ⟨l, ""⟩
  if paid.text = "" then ⟨paid.ledger, company ++ " pays nothing.\n"⟩ else paid

/-- Pays an amount for every share. -/
def payDividends (l : Ledger) (company : String) (perShare : Amount) : Posting :=
  l.distribute company perShare 1

/-- The company keeps a part of the total and pays the rest over ten shares. -/
def payHalfDividends (l : Ledger) (company : String) (total : Amount) : Posting :=
  let kept := l.rounding.retained total
  let paid := total - kept
  let told := company ++ " retains " ++ l.money kept ++ " and pays " ++ Text.tenth paid.toInt ++
    " per share.\n"
  Posting.andThen ⟨l.credit company kept, told⟩ (·.distribute company paid 10)

/-! ## Companies -/

/-- Sets the price of one share. -/
def setValue (l : Ledger) (company : String) (value : Option Amount) : Except Refusal Posting :=
  match value with
  | none => .error (.notANumber "value")
  | some n =>
    .ok ⟨{ l with values := l.values.insert company n },
      company ++ " value set to " ++ n.text ++ ".\n"⟩

/-- Floats a company with the given treasury. -/
def float (l : Ledger) (company : String) (treasury : Amount) : Posting :=
  ⟨{ l with treasuries := l.treasuries.insert company treasury },
    company ++ " floats with " ++ l.money treasury ++ ".\n"⟩

/-- The number of shares of a company in all share lists. -/
def sharesOut (l : Ledger) (company : String) : Amount :=
  l.shares.values.foldl (fun n owned => (owned.get? company).getD 0 + n) 0

/-- Takes a company's money and every share of it out of the game. -/
def close (l : Ledger) (company : String) : Posting :=
  ⟨{ l with
      treasuries := l.treasuries.erase company
      cash := l.cash.erase company
      shares := l.shares.map (·.erase company) },
    company ++ " closed, " ++ (l.sharesOut company).text ++ " shares removed from play.\n"⟩

/-! ## Bank, income, rounds and rules -/

/-- Sets the size of the bank, and the currency to the symbol or else to the default. -/
def setBankSize (l : Ledger) (size : Amount) (symbol : Option String) : Except Refusal Posting :=
  if size = 0 then .error (.notANumber "bank size")
  else
    let l' := { l with bank := ⟨some size, symbol.getD l.defaultCurrency⟩ }
    .ok ⟨l', "Bank size set to " ++ l'.money size ++ ".\n"⟩

/-- Sets a party's income. -/
def setIncome (l : Ledger) (party : String) (income : Option Amount) : Except Refusal Posting :=
  match income with
  | none => .error (.notANumber "income")
  | some n =>
    .ok ⟨{ l with incomes := l.incomes.insert party n },
      party ++ " income set to " ++ l.money n ++ ".\n"⟩

/-- The parties in play whose income is above zero, with their incomes. -/
def incomesDue (l : Ledger) : List (String × Amount) :=
  (l.roster.parties.map fun party => (party, l.incomeOf party)).filter fun due => 0 < due.2

/-- Pays one income. -/
def payOneIncome (p : Posting) (due : String × Amount) : Posting :=
  ⟨p.ledger.credit due.1 due.2,
    p.text ++ due.1 ++ " receives " ++ p.ledger.money due.2 ++ " income.\n"⟩

/-- Pays every income that is due. -/
def payIncome (l : Ledger) : Posting := l.incomesDue.foldl payOneIncome ⟨l, ""⟩

/-- Begins the next round; an operating round pays the incomes. -/
def nextRound (l : Ledger) (kind : RoundKind) : Posting :=
  let round := Round.next l.round kind
  let begun : Posting := ⟨{ l with round := some round }, round.announcement ++ "\n"⟩
  match kind with
  | .stock => begun
  | .operating => begun.andThen payIncome

/-- Sets how half dividends are rounded. -/
def setRounding (l : Ledger) (word : String) : Posting :=
  ⟨{ l with rounding := .ofWord word }, "Rounding set to " ++ word ++ ".\n"⟩

/-- Has treasuries funded from outside the bank. -/
def enableCompanyCredits (l : Ledger) : Posting :=
  ⟨{ l with companyCredits := true },
    "Company credits on: treasuries are funded outside the bank.\n"⟩

end Ledger
end ShareLedger
