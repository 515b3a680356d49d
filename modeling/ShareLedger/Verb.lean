/-!
# Verb

What a command line can ask for. Every verb has one word, and the verbs that change a ledger are
the ones whose lines are kept in a game's log.
-/

namespace ShareLedger

/-- What a command line asks for. -/
inductive Verb where
  /-- Ask for the players' cash and shares. -/
  | holdings
  /-- Ask for the players' cash and the worth of their shares. -/
  | values
  /-- Ask for the companies' treasuries, values and owners. -/
  | companies
  /-- Ask for the money left in the bank. -/
  | bank
  /-- Ask for the games in the store. -/
  | listGames
  | openGame
  | deleteGame
  | startGame
  | companyCredits
  | bankSize
  | close
  | nextRound
  | rounding
  | buy
  | sell
  | dividend
  | halfDividend
  | value
  | float
  | cash
  | income
  | give
  | comment
deriving DecidableEq, Repr

namespace Verb

/-- The word that stands for the verb in a log entry. -/
def word : Verb → String
  | holdings => "holdings"
  | values => "values"
  | companies => "companies"
  | bank => "bank"
  | listGames => "listGames"
  | openGame => "open"
  | deleteGame => "delete"
  | startGame => "start"
  | companyCredits => "companycredits"
  | bankSize => "banksize"
  | close => "close"
  | nextRound => "next"
  | rounding => "rounding"
  | buy => "buy"
  | sell => "sell"
  | dividend => "dividend"
  | halfDividend => "halfdividend"
  | value => "value"
  | float => "float"
  | cash => "cash"
  | income => "income"
  | give => "give"
  | comment => "#"

/-- Whether the verb changes a ledger, so that its lines are kept in the log. -/
def isLogged : Verb → Bool
  | holdings | values | companies | bank | listGames | openGame | deleteGame | startGame => false
  | _ => true

end Verb
end ShareLedger
