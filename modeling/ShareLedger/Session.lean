import ShareLedger.Grammar
import ShareLedger.Ledger
/-!
# Session

One open game: the log of its entries and the ledger that they lead to.

1. The ledger is what applying the entries of the log, in order, to an empty ledger gives
   (`Session.replay`); an entry that cannot be applied stays in the log and changes nothing.
2. A command that is carried out appends its log entry (`Session.perform`); a refused one changes
   nothing.
3. Undoing drops the last entry and replays the others (`Session.undo`).
4. `PREV` stands for the latest amount that the log has for the same company and the same kind of
   dividend (`previousAmount`).
-/

namespace ShareLedger

/-! ## Arguments of an action -/

namespace Action

/-- The subject, which the action must have. -/
def needSubject (a : Action) : Except Refusal String :=
  match a.subject with
  | some s => .ok s
  | none => .error (.missing "name")

/-- The object, which the action must have; `what` is what to call it. -/
def needObject (a : Action) (what : String) : Except Refusal String :=
  match a.object with
  | some s => .ok s
  | none => .error (.missing what)

/-- The quantity, which must be a number; `what` is what to call it. -/
def needQuantity (a : Action) (what : String) : Except Refusal Amount :=
  match a.quantity with
  | some n => .ok n
  | none => .error (.notANumber what)

end Action

/-! ## The last dividend -/

/-- The amount of a log entry that has the company, the verb's word and an amount and nothing else
in front of a comment. -/
def dividendIn (company : String) (verb : Verb) (entry : String) : Option Amount :=
  match Text.words (Action.commandPart entry) with
  | [subject, word, amount] =>
    if subject = company ∧ word = verb.word then Amount.read? amount else none
  | _ => none

/-- The latest amount of a dividend of the company. Entries that say `PREV` have no amount and are
passed over. -/
def previousAmount (log : List String) (company : String) (verb : Verb) : Option Amount :=
  log.reverse.findSome? (dividendIn company verb)

/-- The amount of a dividend: `PREV` is looked up in the log, and another word pays nothing. -/
def dividendAmount (log : List String) (verb : Verb) (a : Action) : Except Refusal Amount := do
  let company ← a.needSubject
  if a.refersToPrevious then return (previousAmount log company verb).getD 0
  else if a.object.isSome then return 0
  else a.needQuantity "dividend"

/-! ## Carrying out an action -/

/-- What an action with the given verb does to a ledger, the log being `log` so far. -/
def Ledger.carryOut (l : Ledger) (log : List String) (verb : Verb) (a : Action) :
    Except Refusal Posting := do
  match verb with
  | .buy =>
    let company ← a.needObject "company"
    let n ← a.needQuantity "quantity"
    let buyer ← a.needSubject
    return l.buyShares buyer company n a.price a.source
  | .sell =>
    let company ← a.needObject "company"
    let n ← a.needQuantity "quantity"
    let seller ← a.needSubject
    return l.sellShares seller company n a.price
  | .dividend =>
    let n ← dividendAmount log verb a
    let company ← a.needSubject
    return l.payDividends company n
  | .halfDividend =>
    let n ← dividendAmount log verb a
    let company ← a.needSubject
    return l.payHalfDividends company n
  | .value =>
    let company ← a.needSubject
    l.setValue company a.quantity
  | .float =>
    let n ← a.needQuantity "cash"
    let company ← a.needSubject
    return l.float company n
  | .cash =>
    let n ← a.needQuantity "cash"
    let party ← a.needSubject
    return l.changeCash party n
  | .income =>
    let party ← a.needSubject
    l.setIncome party a.quantity
  | .give =>
    let n ← a.needQuantity "amount"
    let receiver ← a.needObject "recipient"
    let giver ← a.needSubject
    return l.moveCash giver receiver n
  | .close =>
    let company ← a.needObject "company"
    return l.close company
  | .nextRound =>
    let word ← a.needObject "round"
    match RoundKind.read? word with
    | some kind => return l.nextRound kind
    | none => throw (.unknownRound word)
  | .rounding =>
    let word ← a.needObject "rounding"
    return l.setRounding word
  | .bankSize =>
    let n ← a.needQuantity "bank size"
    l.setBankSize n a.object
  | .companyCredits => return l.enableCompanyCredits
  | .comment => return ⟨l, "Noted: " ++ a.comment.getD "" ++ "\n"⟩
  | .holdings | .values | .companies | .bank | .listGames | .openGame | .deleteGame | .startGame =>
    throw .unrecognized

/-- What an action does to a ledger, the log being `log` so far. -/
def Ledger.apply (l : Ledger) (log : List String) (a : Action) : Except Refusal Posting :=
  match a.verb with
  | none => .error .unrecognized
  | some verb => l.carryOut log verb a

/-! ## Sessions -/

/-- One open game. -/
structure Session where
  name : String
  /-- The log, oldest entry first. -/
  events : List String
  ledger : Ledger
  /-- The currency that the game began with. -/
  currency : String
deriving DecidableEq

namespace Session

/-- A game without entries. -/
def new (name currency : String) : Session := ⟨name, [], .empty currency, currency⟩

/-- Appends an entry to the log and applies it. An entry that cannot be applied is kept. -/
def replayEntry (s : Session) (entry : String) : Session :=
  { s with
    events := s.events ++ [entry]
    ledger :=
      match s.ledger.apply s.events (Action.read entry) with
      | .ok p => p.ledger
      | .error _ => s.ledger }

/-- The session of a log. -/
def replay (name : String) (events : List String) (currency : String) : Session :=
  events.foldl replayEntry (new name currency)

/-- Carries out an action and logs it; the answer is the session after it and the report. -/
def perform (s : Session) (a : Action) : Except Refusal (Session × String) :=
  match s.ledger.apply s.events a with
  | .error e => .error e
  | .ok p => .ok ({ s with events := s.events ++ a.entry.toList, ledger := p.ledger }, p.text)

/-- Takes back the last entry; the answer is the session without it and the entry. -/
def undo (s : Session) : Except Refusal (Session × String) :=
  match s.events.getLast? with
  | none => .error .nothingToUndo
  | some entry => .ok (replay s.name s.events.dropLast s.currency, entry)

end Session
end ShareLedger
