import ShareLedger.Amount
import ShareLedger.Verb
import ShareLedger.Text.Blank
import ShareLedger.Text.Cut
/-!
# Action

One command line, taken apart, and the one form in which it is written to a game's log.

1. An action has the same seven fields whichever verb it has; a line that could not be read has no
   verb.
2. A missing quantity means that the argument was there and was no number; a line without a quantity
   has the one its verb implies.
3. `Action.entry` writes the log entry. Queries and game commands have none.
4. `PREV`, which may be cut down to `PR`, stands for the last dividend of a company and is written
   to the log as it is.
-/

namespace ShareLedger

/-- One command line, taken apart. -/
structure Action where
  /-- What is asked for; missing when the line could not be read. -/
  verb : Option Verb
  /-- Who acts: the name in front of the verb. -/
  subject : Option String := none
  /-- A company, a recipient, a game, a round or a currency symbol. -/
  object : Option String := none
  /-- A number of shares or an amount of money; missing when the argument was no number. -/
  quantity : Option Amount := some 0
  /-- The price of one share; zero when none was given. -/
  price : Amount := 0
  /-- Who sells to a buyer. -/
  source : Option String := none
  /-- What follows the first `#`. -/
  comment : Option String := none
deriving DecidableEq

namespace Action

/-- The word that stands for the amount of the last dividend. -/
def previousWord : String := "PREV"

/-- Whether a word is `PREV` or one of its beginnings of at least two letters. -/
def isPrevious (s : String) : Bool :=
  2 ≤ s.utf8ByteSize && Text.startsWith previousWord s

/-- Whether the action repeats the last dividend. -/
def refersToPrevious (a : Action) : Bool := a.object.any isPrevious

/-- The amount of a dividend as the log has it. A word pays nothing and is written as zero. -/
def dividendToken (a : Action) : String :=
  if a.refersToPrevious then previousWord
  else
    match a.object, a.quantity with
    | none, some n => n.text
    | _, _ => "0"

/-- The log entry without its comment; empty for a line that is all comment. -/
def entryHead (a : Action) (verb : Verb) : String :=
  let subject := a.subject.getD ""
  let object := a.object.getD ""
  let quantity := (a.quantity.getD 0).text
  let word := verb.word
  let priced := if a.price = 0 then "" else " @" ++ a.price.text
  match verb with
  | .buy =>
    subject ++ " " ++ word ++ " " ++ quantity ++ " " ++ object ++ priced ++
      (match a.source with
      | some source => " from " ++ source
      | none => "")
  | .sell => subject ++ " " ++ word ++ " " ++ quantity ++ " " ++ object ++ priced
  | .dividend | .halfDividend => subject ++ " " ++ word ++ " " ++ a.dividendToken
  | .value | .cash | .float | .income => subject ++ " " ++ word ++ " " ++ quantity
  | .give => subject ++ " " ++ word ++ " " ++ quantity ++ " to " ++ object
  | .close | .nextRound | .rounding => word ++ " " ++ object
  | .bankSize => word ++ " " ++ object ++ quantity
  | .companyCredits => word
  | _ => ""

/-- The line that is written to the log, for the verbs that change a ledger. -/
def entry (a : Action) : Option String :=
  match a.verb with
  | none => none
  | some verb =>
    if verb.isLogged then
      let note :=
        match a.comment with
        | some c => " # " ++ c
        | none => ""
      some (Text.trim (a.entryHead verb ++ note))
    else none

end Action
end ShareLedger
