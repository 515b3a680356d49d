import ShareLedger.Proofs.Undo
/-!
# Proofs.InPlace

Commands that change a game where it stands.

1. Carried out in place, a command looks at its arguments and changes the ledger as it goes, and
   what it has changed stays changed when it is refused half way (`InPlace`).  Nothing is put back.
2. No command is ever refused half way: every argument is looked at before the first change
   (`Ledger.carryOutInPlace_eq`).
3. Taking back takes the log out of the session before it knows whether there is an entry.  It is
   refused only when the log that it took out was empty, so that nothing is missing
   (`Session.undoInPlace_eq`).
4. So a turn in place is the turn, and a refused one leaves everything as it was
   (`Session.attemptInPlace_eq`).
-/

namespace ShareLedger

/-- A change in place with its answer.  When it is refused, what was changed up to there stays. -/
abbrev InPlace (σ α : Type) := EStateM Refusal σ α

/-- What a change in place comes to when it either makes the new state or leaves the old one. -/
def InPlace.allOrNothing {σ : Type} (old : σ) :
    Except Refusal (σ × String) → EStateM.Result Refusal σ String
  | .ok (new, report) => .ok report new
  | .error e => .error e old

namespace InPlace

variable {σ : Type} {old new : σ} {attempt : Except Refusal (σ × String)} {e : Refusal}
  {report : String}

theorem refused (h : allOrNothing old attempt = .error e new) : attempt = .error e ∧ new = old := by
  cases attempt with
  | error e' =>
      cases h
      exact ⟨rfl, rfl⟩
  | ok result => cases h

theorem accepted (h : allOrNothing old attempt = .ok report new) : attempt = .ok (new, report) := by
  cases attempt with
  | error e' => cases h
  | ok result =>
      cases h
      rfl

end InPlace

namespace Ledger

/-! ## Operations -/

/-- A change that is never refused. -/
def post (f : Ledger → Posting) : InPlace Ledger String := modifyGet fun l => ((f l).text, (f l).ledger)

/-- Sets the price of one share in place. -/
def setValueInPlace (company : String) (value : Option Amount) : InPlace Ledger String := do
  match value with
  | none => throw (.notANumber "value")
  | some n =>
    modify fun l => { l with values := l.values.insert company n }
    return company ++ " value set to " ++ n.text ++ ".\n"

/-- Sets a party's income in place. -/
def setIncomeInPlace (party : String) (income : Option Amount) : InPlace Ledger String := do
  match income with
  | none => throw (.notANumber "income")
  | some n =>
    modify fun l => { l with incomes := l.incomes.insert party n }
    return party ++ " income set to " ++ (← get).money n ++ ".\n"

/-- Sets the size of the bank in place, and then its currency. -/
def setBankSizeInPlace (size : Amount) (symbol : Option String) : InPlace Ledger String := do
  if size = 0 then throw (.notANumber "bank size")
  else
    modify fun l => { l with bank := { l.bank with size := some size } }
    modify fun l => { l with bank := { l.bank with currency := symbol.getD l.defaultCurrency } }
    return "Bank size set to " ++ (← get).money size ++ ".\n"

/-- An argument that has to be there. -/
def require {α : Type} (argument : Except Refusal α) : InPlace Ledger α :=
  MonadExcept.ofExcept argument

/-- Carries out an action with the given verb in place, the log being `log` so far. -/
def carryOutInPlace (log : List String) (verb : Verb) (a : Action) : InPlace Ledger String := do
  match verb with
  | .buy =>
    let company ← require (a.needObject "company")
    let n ← require (a.needQuantity "quantity")
    let buyer ← require a.needSubject
    post (·.buyShares buyer company n a.price a.source)
  | .sell =>
    let company ← require (a.needObject "company")
    let n ← require (a.needQuantity "quantity")
    let seller ← require a.needSubject
    post (·.sellShares seller company n a.price)
  | .dividend =>
    let n ← require (dividendAmount log verb a)
    let company ← require a.needSubject
    post (·.payDividends company n)
  | .halfDividend =>
    let n ← require (dividendAmount log verb a)
    let company ← require a.needSubject
    post (·.payHalfDividends company n)
  | .value =>
    let company ← require a.needSubject
    setValueInPlace company a.quantity
  | .float =>
    let n ← require (a.needQuantity "cash")
    let company ← require a.needSubject
    post (·.float company n)
  | .cash =>
    let n ← require (a.needQuantity "cash")
    let party ← require a.needSubject
    post (·.changeCash party n)
  | .income =>
    let party ← require a.needSubject
    setIncomeInPlace party a.quantity
  | .give =>
    let n ← require (a.needQuantity "amount")
    let receiver ← require (a.needObject "recipient")
    let giver ← require a.needSubject
    post (·.moveCash giver receiver n)
  | .close =>
    let company ← require (a.needObject "company")
    post (·.close company)
  | .nextRound =>
    let word ← require (a.needObject "round")
    match RoundKind.read? word with
    | some kind => post (·.nextRound kind)
    | none => throw (.unknownRound word)
  | .rounding =>
    let word ← require (a.needObject "rounding")
    post (·.setRounding word)
  | .bankSize =>
    let n ← require (a.needQuantity "bank size")
    setBankSizeInPlace n a.object
  | .companyCredits => post (·.enableCompanyCredits)
  | .comment => return "Noted: " ++ a.comment.getD "" ++ "\n"
  | .holdings | .values | .companies | .bank | .listGames | .openGame | .deleteGame | .startGame =>
    throw .unrecognized

/-- The ledger and the report of a posting. -/
def Posted (l : Ledger) (posted : Except Refusal Posting) : EStateM.Result Refusal Ledger String :=
  InPlace.allOrNothing l (posted.map fun p => (p.ledger, p.text))

/-- An argument that is missing ends the change before anything is changed. -/
theorem require_bind {α : Type} {l : Ledger} {argument : Except Refusal α}
    {f : α → InPlace Ledger String} {g : α → Except Refusal Posting}
    (h : ∀ x, f x l = l.Posted (g x)) :
    (require argument >>= f) l = l.Posted (argument >>= g) := by
  cases argument with
  | error e => rfl
  | ok x => exact h x

/-- **Every command is accepted or refused before it changes anything.** -/
theorem carryOutInPlace_eq (l : Ledger) (log : List String) (verb : Verb) (a : Action) :
    carryOutInPlace log verb a l = l.Posted (l.carryOut log verb a) := by
  cases verb with
  | buy | sell | give =>
      exact require_bind fun _ => require_bind fun _ => require_bind fun _ => rfl
  | dividend | halfDividend | float | cash =>
      exact require_bind fun _ => require_bind fun _ => rfl
  | close | rounding => exact require_bind fun _ => rfl
  | value | income =>
      refine require_bind fun _ => ?_
      cases a.quantity <;> rfl
  | nextRound =>
      refine require_bind fun word => ?_
      cases RoundKind.read? word <;> rfl
  | bankSize =>
      refine require_bind fun n => ?_
      unfold setBankSizeInPlace setBankSize
      split <;> rfl
  | _ => rfl

end Ledger

/-! ## Turns -/

namespace Session

/-- Changes the ledger of a session in place, which may look at the log. -/
def onLedger (change : List String → InPlace Ledger String) : InPlace Session String := fun s =>
  match change s.events s.ledger with
  | .ok report l => .ok report { s with ledger := l }
  | .error e l => .error e { s with ledger := l }

/-- Carries out an action in place: first the ledger is changed, then the log. -/
def performInPlace (a : Action) : InPlace Session String := do
  match a.verb with
  | none => throw .unrecognized
  | some verb =>
    let report ← onLedger fun log => Ledger.carryOutInPlace log verb a
    modify fun s => { s with events := s.events ++ a.entry.toList }
    return report

/-- Takes back the last entry in place; the log is taken out first. -/
def undoInPlace : InPlace Session String := do
  let s ← get
  set { s with events := [] }
  match s.events.getLast? with
  | none => throw .nothingToUndo
  | some entry =>
    set (replay s.name s.events.dropLast s.currency)
    return entry

/-- Takes a turn in place. -/
def attemptInPlace : Turn → InPlace Session String
  | .act a => performInPlace a
  | .undo => undoInPlace

/-- A change that is all or nothing for the ledger is so for the session. -/
theorem onLedger_eq {s : Session} (change : List String → InPlace Ledger String)
    {posted : Except Refusal Posting} (h : change s.events s.ledger = s.ledger.Posted posted) :
    onLedger change s =
      InPlace.allOrNothing s (posted.map fun p => ({ s with ledger := p.ledger }, p.text)) := by
  unfold onLedger
  rw [h]
  cases posted <;> rfl

/-- A command in place is the command. -/
theorem performInPlace_eq (s : Session) (a : Action) :
    performInPlace a s = InPlace.allOrNothing s (s.perform a) := by
  unfold performInPlace perform Ledger.apply
  cases a.verb with
  | none => rfl
  | some verb =>
      have hledger := onLedger_eq (fun log => Ledger.carryOutInPlace log verb a)
        (s.ledger.carryOutInPlace_eq s.events verb a)
      dsimp only
      simp only [bind, EStateM.bind, hledger]
      cases s.ledger.carryOut s.events verb a <;> rfl

/-- Taking back in place is taking back. -/
theorem undoInPlace_eq (s : Session) : undoInPlace s = InPlace.allOrNothing s s.undo := by
  obtain ⟨name, events, ledger, currency⟩ := s
  have hget (s : Session) : (EStateM.get : InPlace Session Session) s = .ok s s := rfl
  unfold undo
  cases hlast : events.getLast? with
  | some entry =>
      simp only [undoInPlace, bind, EStateM.bind, get, getThe, MonadStateOf.get, hget, hlast]
      rfl
  | none =>
      -- The log that was taken out is the empty one that is left.
      obtain rfl := List.getLast?_eq_none_iff.1 hlast
      rfl

/-- **A turn in place is the turn**, and one that is refused leaves the session as it was. -/
theorem attemptInPlace_eq (s : Session) (t : Turn) :
    attemptInPlace t s = InPlace.allOrNothing s (s.attempt t) := by
  cases t with
  | act a => exact s.performInPlace_eq a
  | undo => exact s.undoInPlace_eq

end Session
end ShareLedger
