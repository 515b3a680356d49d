import ShareLedger.Session
/-!
# Proofs.Operation

The changes a ledger can undergo, as values, and the one form they all have.

1. `Action.operation` turns an action into the operation it asks for; the ledger has no say in
   that, only the log has, where `PREV` is looked up.  Applying an action is carrying out its
   operation (`Ledger.apply_eq`).
2. Whatever an operation does, it does in three stages (`Ledger.run_stages`): it trades shares
   (`Operation.trades`), it credits accounts (`Ledger.credits`), and it sets one thing
   (`Operation.settle`).  Most operations have only one of the stages.
3. What a stage keeps is stated once, beside the stage.  Laws about operations are derived from the
   stages and never unfold an operation.
-/

namespace ShareLedger

/-- A change of a ledger with its arguments. -/
inductive Operation where
  | changeShares (owner company : String) (delta : Amount)
  | buy (buyer company : String) (n price : Amount) (seller : Option String)
  | sell (seller company : String) (n price : Amount)
  | changeCash (party : String) (sum : Amount)
  | moveCash (giver receiver : String) (sum : Amount)
  | payDividends (company : String) (perShare : Amount)
  | payHalfDividends (company : String) (total : Amount)
  | setValue (company : String) (value : Option Amount)
  | float (company : String) (treasury : Amount)
  | close (company : String)
  | setBankSize (size : Amount) (symbol : Option String)
  | setIncome (party : String) (income : Option Amount)
  | payIncome
  | nextRound (kind : RoundKind)
  | setRounding (word : String)
  | enableCompanyCredits
  /-- Take note of a text, which changes nothing. -/
  | note (text : String)
deriving DecidableEq

/-! ## From actions to operations -/

/-- Carries out an operation. -/
def Ledger.run (l : Ledger) : Operation → Except Refusal Posting
  | .changeShares owner company delta => .ok (l.changeShares owner company delta)
  | .buy buyer company n price seller => .ok (l.buyShares buyer company n price seller)
  | .sell seller company n price => .ok (l.sellShares seller company n price)
  | .changeCash party sum => .ok (l.changeCash party sum)
  | .moveCash giver receiver sum => .ok (l.moveCash giver receiver sum)
  | .payDividends company perShare => .ok (l.payDividends company perShare)
  | .payHalfDividends company total => .ok (l.payHalfDividends company total)
  | .setValue company value => l.setValue company value
  | .float company treasury => .ok (l.float company treasury)
  | .close company => .ok (l.close company)
  | .setBankSize size symbol => l.setBankSize size symbol
  | .setIncome party income => l.setIncome party income
  | .payIncome => .ok l.payIncome
  | .nextRound kind => .ok (l.nextRound kind)
  | .setRounding word => .ok (l.setRounding word)
  | .enableCompanyCredits => .ok l.enableCompanyCredits
  | .note text => .ok ⟨l, "Noted: " ++ text ++ "\n"⟩

/-- The operation that an action asks for, the log being `log` so far. -/
def Action.operation (log : List String) (a : Action) : Except Refusal Operation := do
  match a.verb with
  | some .buy =>
    let company ← a.needObject "company"
    let n ← a.needQuantity "quantity"
    let buyer ← a.needSubject
    return .buy buyer company n a.price a.source
  | some .sell =>
    let company ← a.needObject "company"
    let n ← a.needQuantity "quantity"
    let seller ← a.needSubject
    return .sell seller company n a.price
  | some .dividend =>
    let n ← dividendAmount log .dividend a
    let company ← a.needSubject
    return .payDividends company n
  | some .halfDividend =>
    let n ← dividendAmount log .halfDividend a
    let company ← a.needSubject
    return .payHalfDividends company n
  | some .value =>
    let company ← a.needSubject
    return .setValue company a.quantity
  | some .float =>
    let n ← a.needQuantity "cash"
    let company ← a.needSubject
    return .float company n
  | some .cash =>
    let n ← a.needQuantity "cash"
    let party ← a.needSubject
    return .changeCash party n
  | some .income =>
    let party ← a.needSubject
    return .setIncome party a.quantity
  | some .give =>
    let n ← a.needQuantity "amount"
    let receiver ← a.needObject "recipient"
    let giver ← a.needSubject
    return .moveCash giver receiver n
  | some .close =>
    let company ← a.needObject "company"
    return .close company
  | some .nextRound =>
    let word ← a.needObject "round"
    match RoundKind.read? word with
    | some kind => return .nextRound kind
    | none => throw (.unknownRound word)
  | some .rounding =>
    let word ← a.needObject "rounding"
    return .setRounding word
  | some .bankSize =>
    let n ← a.needQuantity "bank size"
    return .setBankSize n a.object
  | some .companyCredits => return .enableCompanyCredits
  | some .comment => return .note (a.comment.getD "")
  | _ => throw .unrecognized

/-- What was accepted goes on to the next step. -/
theorem ok_bind {ε α β : Type} (x : α) (f : α → Except ε β) : Except.ok x >>= f = f x := rfl

/-- A refusal ends what follows. -/
theorem error_bind {ε α β : Type} (e : ε) (f : α → Except ε β) :
    Except.error e >>= f = Except.error e := rfl

/-- What is accepted in the end was accepted at every step. -/
theorem bind_eq_ok {ε α β : Type} {x : Except ε α} {f : α → Except ε β} {r : β} :
    x >>= f = .ok r ↔ ∃ a, x = .ok a ∧ f a = .ok r := by
  cases x with
  | error e => simp [error_bind]
  | ok a => simp [ok_bind]

theorem Action.needObject_eq_ok {a : Action} {what s : String} :
    a.needObject what = .ok s ↔ a.object = some s := by
  unfold needObject
  cases a.object <;> simp

theorem Action.needQuantity_eq_ok {a : Action} {what : String} {n : Amount} :
    a.needQuantity what = .ok n ↔ a.quantity = some n := by
  unfold needQuantity
  cases a.quantity <;> simp

/-- The verb of the actions that ask for an operation.  No action asks for shares to be changed or
for incomes to be paid by itself. -/
def Operation.verb : Operation → Option Verb
  | changeShares _ _ _ | payIncome => none
  | buy _ _ _ _ _ => some .buy
  | sell _ _ _ _ => some .sell
  | changeCash _ _ => some .cash
  | moveCash _ _ _ => some .give
  | payDividends _ _ => some .dividend
  | payHalfDividends _ _ => some .halfDividend
  | setValue _ _ => some .value
  | float _ _ => some .float
  | close _ => some .close
  | setBankSize _ _ => some .bankSize
  | setIncome _ _ => some .income
  | nextRound _ => some .nextRound
  | setRounding _ => some .rounding
  | enableCompanyCredits => some .companyCredits
  | note _ => some .comment

/-- What an action asks for is an operation of its verb. -/
theorem Action.verb_eq_of_operation {a : Action} {log : List String} {op : Operation}
    (h : a.operation log = .ok op) : a.verb = op.verb := by
  unfold Action.operation at h
  cases hverb : a.verb with
  | none => rw [hverb] at h; cases h
  | some verb =>
      rw [hverb] at h
      cases verb with
      | buy | sell | give =>
          obtain ⟨_, -, h⟩ := bind_eq_ok.1 h
          obtain ⟨_, -, h⟩ := bind_eq_ok.1 h
          obtain ⟨_, -, h⟩ := bind_eq_ok.1 h
          obtain rfl := Except.ok.inj h
          rfl
      | dividend | halfDividend | float | cash =>
          obtain ⟨_, -, h⟩ := bind_eq_ok.1 h
          obtain ⟨_, -, h⟩ := bind_eq_ok.1 h
          obtain rfl := Except.ok.inj h
          rfl
      | value | income | rounding | bankSize | close =>
          obtain ⟨_, -, h⟩ := bind_eq_ok.1 h
          obtain rfl := Except.ok.inj h
          rfl
      | nextRound =>
          obtain ⟨word, -, h⟩ := bind_eq_ok.1 h
          cases hkind : RoundKind.read? word with
          | none => rw [hkind] at h; cases h
          | some kind =>
              rw [hkind] at h
              obtain rfl := Except.ok.inj h
              rfl
      | companyCredits | comment => obtain rfl := Except.ok.inj h; rfl
      | _ => cases h

/-- Applying an action is carrying out the operation it asks for. -/
theorem Ledger.apply_eq (l : Ledger) (log : List String) (a : Action) :
    l.apply log a = a.operation log >>= l.run := by
  obtain ⟨verb, subject, object, quantity, price, source, comment⟩ := a
  cases verb with
  | none => rfl
  | some verb =>
      cases verb <;> simp only [apply, carryOut, Action.operation, bind_assoc, pure_bind] <;> try rfl
      -- What is left is the word for a round, which is read before anything is carried out.
      cases object with
      | none => rfl
      | some word =>
          simp only [Action.needObject, ok_bind]
          cases RoundKind.read? word with
          | none => rfl
          | some kind => rfl

/-- An accepted action asks for an operation, and that operation is carried out. -/
theorem Ledger.exists_operation_of_apply {l : Ledger} {log : List String} {a : Action} {p : Posting}
    (h : l.apply log a = .ok p) : ∃ op, a.operation log = .ok op ∧ l.run op = .ok p := by
  rw [Ledger.apply_eq] at h
  cases hop : a.operation log with
  | error e => rw [hop] at h; cases h
  | ok op => exact ⟨op, rfl, by rw [hop] at h; exact h⟩

/-! ## First stage: trades -/

/-- Shares of a company that an owner receives, or gives away when there are less than none. -/
structure Trade where
  owner : String
  company : String
  delta : Amount

namespace Ledger

/-- Makes a trade.  Who would be left with less than no share is left with none. -/
def trade (l : Ledger) (t : Trade) : Ledger :=
  let now := l.holding t.owner t.company + t.delta
  l.setHolding t.owner t.company (if now < 0 then 0 else now)

/-- Makes trades one after another. -/
def tradeAll (l : Ledger) (ts : List Trade) : Ledger := ts.foldl trade l

@[simp] theorem tradeAll_nil (l : Ledger) : l.tradeAll [] = l := rfl

@[simp] theorem tradeAll_cons (l : Ledger) (t : Trade) (ts : List Trade) :
    l.tradeAll (t :: ts) = (l.trade t).tradeAll ts := rfl

theorem changeShares_ledger (l : Ledger) (owner company : String) (delta : Amount) :
    (l.changeShares owner company delta).ledger = l.trade ⟨owner, company, delta⟩ := by
  simp only [changeShares, trade]
  split <;> rfl

/-- Trades touch nothing but the share lists. -/
theorem tradeAll_eq (l : Ledger) (ts : List Trade) :
    l.tradeAll ts = { l with shares := (l.tradeAll ts).shares } := by
  induction ts generalizing l with
  | nil => rfl
  | cons t ts ih => rw [tradeAll_cons, ih]; rfl

/-! ## Second stage: credits -/

/-- Credits accounts one after another. -/
def creditAll (l : Ledger) (cs : List (String × Amount)) : Ledger :=
  cs.foldl (fun l c => l.credit c.1 c.2) l

@[simp] theorem creditAll_nil (l : Ledger) : l.creditAll [] = l := rfl

@[simp] theorem creditAll_cons (l : Ledger) (c : String × Amount) (cs : List (String × Amount)) :
    l.creditAll (c :: cs) = (l.credit c.1 c.2).creditAll cs := rfl

/-- A credit looks at the two books of money and touches nothing else: a ledger with the same books
is credited in the same way. -/
theorem credit_of_books {l l' : Ledger} (hcash : l'.cash = l.cash)
    (htreasuries : l'.treasuries = l.treasuries) (party : String) (sum : Amount) :
    l'.credit party sum =
      { l' with
        cash := (l.credit party sum).cash
        treasuries := (l.credit party sum).treasuries } := by
  unfold credit treasury? cashOf
  rw [hcash, htreasuries]
  split <;> simp [← hcash, ← htreasuries]

/-- Credits look at the two books of money and touch nothing else. -/
theorem creditAll_of_books {l l' : Ledger} (hcash : l'.cash = l.cash)
    (htreasuries : l'.treasuries = l.treasuries) (cs : List (String × Amount)) :
    l'.creditAll cs =
      { l' with
        cash := (l.creditAll cs).cash
        treasuries := (l.creditAll cs).treasuries } := by
  induction cs generalizing l l' with
  | nil => simp [← hcash, ← htreasuries]
  | cons c cs ih =>
      have hfirst := credit_of_books hcash htreasuries c.1 c.2
      have hcash' : (l'.credit c.1 c.2).cash = (l.credit c.1 c.2).cash := by rw [hfirst]
      have htreasuries' : (l'.credit c.1 c.2).treasuries = (l.credit c.1 c.2).treasuries := by
        rw [hfirst]
      rw [creditAll_cons, creditAll_cons, ih hcash' htreasuries', hfirst]

theorem creditAll_eq (l : Ledger) (cs : List (String × Amount)) :
    l.creditAll cs =
      { l with cash := (l.creditAll cs).cash, treasuries := (l.creditAll cs).treasuries } :=
  creditAll_of_books rfl rfl cs

@[simp] theorem creditAll_round (l : Ledger) (cs : List (String × Amount)) :
    (l.creditAll cs).round = l.round := by
  rw [creditAll_eq]

@[simp] theorem creditAll_shares (l : Ledger) (cs : List (String × Amount)) :
    (l.creditAll cs).shares = l.shares := by
  rw [creditAll_eq]

/-- What the holders of a company receive, those left out who would receive nothing. -/
def payouts (l : Ledger) (company : String) (numerator : Amount) (denominator : Nat) :
    List (String × Amount) :=
  ((l.holders company).map fun h => (h.1, payout h.2 numerator denominator)).filter fun c => c.2 ≠ 0

theorem foldl_payHolder_ledger (company : String) (numerator : Amount) (denominator : Nat)
    (hs : List (String × Amount)) (p : Posting) :
    (hs.foldl (payHolder company numerator denominator) p).ledger =
      p.ledger.creditAll
        ((hs.map fun h => (h.1, payout h.2 numerator denominator)).filter fun c => c.2 ≠ 0) := by
  induction hs generalizing p with
  | nil => rfl
  | cons h hs ih =>
      rw [List.foldl_cons, ih, List.map_cons, payHolder]
      by_cases hz : payout h.2 numerator denominator = 0
      · simp [hz]
      · simp [hz]

/-- Distributing an amount credits the holders with their payouts. -/
theorem distribute_ledger (l : Ledger) (company : String) (numerator : Amount) (denominator : Nat) :
    (l.distribute company numerator denominator).ledger =
      l.creditAll (l.payouts company numerator denominator) := by
  have h := foldl_payHolder_ledger company numerator denominator (l.holders company) ⟨l, ""⟩
  simp only [distribute]
  split <;> exact h

/-- Paying the incomes credits the parties with them. -/
theorem payIncome_ledger (l : Ledger) : l.payIncome.ledger = l.creditAll l.incomesDue := by
  have h (dues : List (String × Amount)) (p : Posting) :
      (dues.foldl payOneIncome p).ledger = p.ledger.creditAll dues := by
    induction dues generalizing p with
    | nil => rfl
    | cons due dues ih => rw [List.foldl_cons, ih]; rfl
  exact h l.incomesDue ⟨l, ""⟩

end Ledger

/-! ## What an operation does in each stage -/

namespace Operation

/-- The trades of an operation. -/
def trades : Operation → List Trade
  | changeShares owner company delta => [⟨owner, company, delta⟩]
  | buy buyer company n _ (some seller) => [⟨buyer, company, n⟩, ⟨seller, company, -n⟩]
  | buy buyer company n _ none => [⟨buyer, company, n⟩]
  | sell seller company n _ => [⟨seller, company, -n⟩]
  | _ => []

/-- The one thing that an operation sets, or takes out of the game. -/
def settle (op : Operation) (l : Ledger) : Ledger :=
  match op with
  | setValue company (some n) => { l with values := l.values.insert company n }
  | float company treasury => { l with treasuries := l.treasuries.insert company treasury }
  | close company =>
    { l with
      treasuries := l.treasuries.erase company
      cash := l.cash.erase company
      shares := l.shares.map (·.erase company) }
  | setBankSize size symbol => { l with bank := ⟨some size, symbol.getD l.defaultCurrency⟩ }
  | setIncome party (some n) => { l with incomes := l.incomes.insert party n }
  | nextRound kind => { l with round := some (Round.next l.round kind) }
  | setRounding word => { l with rounding := .ofWord word }
  | enableCompanyCredits => { l with companyCredits := true }
  | _ => l

end Operation

namespace Ledger

/-- The credits of an operation, in the order in which they are made. -/
def credits (l : Ledger) : Operation → List (String × Amount)
  | .buy buyer _ n price (some seller) =>
    if 0 < price then [(buyer, -(price * n)), (seller, price * n)] else []
  | .buy buyer _ n price none => if 0 < price then [(buyer, -(price * n))] else []
  | .sell seller _ n price => if 0 < price then [(seller, price * n)] else []
  | .changeCash party sum => [(party, sum)]
  | .moveCash giver receiver sum => [(giver, -sum), (receiver, sum)]
  | .payDividends company perShare => l.payouts company perShare 1
  | .payHalfDividends company total =>
    let kept := l.rounding.retained total
    (company, kept) :: l.payouts company (total - kept) 10
  | .payIncome | .nextRound .operating => l.incomesDue
  | _ => []

/-- Putting the round forward does not disturb the credits made after it. -/
theorem creditAll_setRound (l : Ledger) (round : Option Round) (cs : List (String × Amount)) :
    { l with round }.creditAll cs = { l.creditAll cs with round } := by
  have hbooks : { l with round }.creditAll cs =
      { { l with round } with
        cash := (l.creditAll cs).cash
        treasuries := (l.creditAll cs).treasuries } :=
        creditAll_of_books (l := l) (by rfl) (by rfl) cs
  rw [hbooks, creditAll_eq l]

/-- **The three stages**: an operation that is carried out trades, then credits, then settles. -/
theorem run_stages {l : Ledger} {op : Operation} {p : Posting} (h : l.run op = .ok p) :
    p.ledger = op.settle ((l.tradeAll op.trades).creditAll (l.credits op)) := by
  cases op with
  | changeShares owner company delta =>
      obtain rfl := Except.ok.inj h
      exact changeShares_ledger l owner company delta
  | buy buyer company n price seller =>
      obtain rfl := Except.ok.inj h
      cases seller with
      | none =>
          by_cases hp : 0 < price <;>
            simp [buyShares, Posting.andThen, changeCash, changeShares_ledger, Operation.trades,
              credits, Operation.settle, hp]
      | some seller =>
          by_cases hp : 0 < price <;>
            simp [buyShares, moveCash, Posting.andThen, changeCash, changeShares_ledger,
              Operation.trades, credits, Operation.settle, hp]
  | sell seller company n price =>
      obtain rfl := Except.ok.inj h
      by_cases hp : 0 < price <;>
        simp [sellShares, Posting.andThen, changeCash, changeShares_ledger, Operation.trades,
          credits, Operation.settle, hp]
  | changeCash party sum => obtain rfl := Except.ok.inj h; rfl
  | moveCash giver receiver sum => obtain rfl := Except.ok.inj h; rfl
  | payDividends company perShare =>
      obtain rfl := Except.ok.inj h
      exact distribute_ledger l company perShare 1
  | payHalfDividends company total =>
      obtain rfl := Except.ok.inj h
      -- The holders are looked up after the company has kept its part, which changes no share list.
      have hpay : (l.credit company (l.rounding.retained total)).payouts company
            (total - l.rounding.retained total) 10 =
          l.payouts company (total - l.rounding.retained total) 10 := by
        rw [credit_of_books (l := l) rfl rfl]; rfl
      simp only [payHalfDividends, Posting.andThen, distribute_ledger, hpay]
      rfl
  | setValue company value =>
      cases value with
      | none => cases h
      | some n => obtain rfl := Except.ok.inj h; rfl
  | float company treasury => obtain rfl := Except.ok.inj h; rfl
  | close company => obtain rfl := Except.ok.inj h; rfl
  | setBankSize size symbol =>
      simp only [run, setBankSize] at h
      split at h
      · cases h
      · obtain rfl := Except.ok.inj h; rfl
  | setIncome party income =>
      cases income with
      | none => cases h
      | some n => obtain rfl := Except.ok.inj h; rfl
  | payIncome => obtain rfl := Except.ok.inj h; exact payIncome_ledger l
  | nextRound kind =>
      obtain rfl := Except.ok.inj h
      cases kind with
      | stock => rfl
      | operating =>
          -- The roster and the incomes do not depend on the round.
          have hdues : { l with round := some (Round.next l.round .operating) }.incomesDue =
              l.incomesDue := rfl
          simp only [nextRound, Posting.andThen, payIncome_ledger, hdues, creditAll_setRound,
            Operation.trades, Operation.settle, credits, tradeAll_nil, creditAll_round]
  | setRounding word => obtain rfl := Except.ok.inj h; rfl
  | enableCompanyCredits => obtain rfl := Except.ok.inj h; rfl
  | note text => obtain rfl := Except.ok.inj h; rfl

/-! ## Runs -/

/-- The ledger after an operation, which is the ledger before it when the operation is refused. -/
def after (l : Ledger) (op : Operation) : Ledger :=
  match l.run op with
  | .ok p => p.ledger
  | .error _ => l

/-- The ledger after operations in order. -/
def afterAll (l : Ledger) (ops : List Operation) : Ledger := ops.foldl after l

/-- What every operation that is carried out keeps is kept by every run. -/
theorem afterAll_induction {Inv : Ledger → Prop}
    (step : ∀ {l op p}, l.run op = .ok p → Inv l → Inv p.ledger) {l : Ledger} (h : Inv l)
    (ops : List Operation) : Inv (l.afterAll ops) := by
  induction ops generalizing l with
  | nil => exact h
  | cons op ops ih =>
      apply ih
      unfold after
      cases hrun : l.run op with
      | ok p => exact step hrun h
      | error e => exact h

end Ledger
end ShareLedger
