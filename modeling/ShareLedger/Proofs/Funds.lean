import ShareLedger.Proofs.BookSum
import ShareLedger.Proofs.Exactness
import ShareLedger.Proofs.Operation
/-!
# Proofs.Funds

The accounting law of money.

1. The funds of a ledger are all cash and all treasuries together, as an exact integer.
2. `Ledger.inflow` says what every operation adds to the funds.
3. The law holds as long as no product, difference or sum that an operation forms on the way
   (`Ledger.moneyResults`) passes the bounds of an amount; beyond the bounds money is lost.
4. A run moves the funds by the inflows of its operations (`funds_afterAll`).
5. A credit raises the funds by its sum, whether the party is floated or not (`funds_credit`).  The
   credits of an operation add up to its inflow (`sum_credits`), and the only operations that touch
   an account otherwise are floating and closing a company.
-/

namespace ShareLedger.Ledger

open Amount (Fits)

/-! ## Definitions -/

/-- All money outside treasuries and in them. -/
def funds (l : Ledger) : Int := l.cash.sum Amount.toInt + l.treasuries.sum Amount.toInt

/-- What an operation adds to the funds. -/
def inflow (l : Ledger) : Operation → Int
  | .buy _ _ n price none => if 0 < price then -(price.toInt * n.toInt) else 0
  | .sell _ _ n price => if 0 < price then price.toInt * n.toInt else 0
  | .changeCash _ sum => sum.toInt
  | .float company treasury => treasury.toInt - ((l.treasury? company).getD 0).toInt
  | .close company => -(((l.treasury? company).getD 0).toInt + (l.cashOf company).toInt)
  | .payDividends company perShare =>
    ((l.holders company).map fun h => h.2.toInt * perShare.toInt).sum
  | .payHalfDividends company total =>
    let kept := (l.rounding.retained total).toInt
    kept + ((l.holders company).map fun h => h.2.toInt * (total.toInt - kept) / 10).sum
  | .payIncome | .nextRound .operating =>
    (((l.roster.parties.map l.incomeOf).filter fun n => 0 < n).map Amount.toInt).sum
  | _ => 0

/-- The exact balances that credits, made one after another, lead to. -/
def creditSums : Ledger → List (String × Amount) → List Int
  | _, [] => []
  | l, (party, sum) :: cs =>
    ((l.balance party).toInt + sum.toInt) :: (l.credit party sum).creditSums cs

/-- The exact products and differences that an operation forms before it credits accounts. -/
def products (l : Ledger) : Operation → List Int
  | .buy _ _ n price _ =>
    if 0 < price then [price.toInt * n.toInt, -(price.toInt * n.toInt)] else []
  | .sell _ _ n price => if 0 < price then [price.toInt * n.toInt] else []
  | .moveCash _ _ sum => [-sum.toInt]
  | .payDividends company perShare => (l.holders company).map fun h => h.2.toInt * perShare.toInt
  | .payHalfDividends company total =>
    let paid := total.toInt - (l.rounding.retained total).toInt
    paid :: (l.holders company).map fun h => h.2.toInt * paid
  | _ => []

/-- All exact results that an operation's dealings with money go through. -/
def moneyResults (l : Ledger) (op : Operation) : List Int :=
  l.products op ++ l.creditSums (l.credits op)

/-- What operations in order add to the funds. -/
def inflowAll : Ledger → List Operation → Int
  | _, [] => 0
  | l, op :: ops => l.inflow op + (l.after op).inflowAll ops

/-- All exact results that the dealings of operations in order go through. -/
def moneyResultsAll : Ledger → List Operation → List Int
  | _, [] => []
  | l, op :: ops => l.moneyResults op ++ (l.after op).moneyResultsAll ops

/-- The exact results that working out what is left in the bank goes through, treasuries included. -/
def bankResults (l : Ledger) (size : Amount) : List Int :=
  let inHand := l.cash.sum Amount.toInt
  Amount.runningSums 0 l.cash.values ++ Amount.runningSums 0 l.treasuries.values ++
    [size.toInt - inHand, size.toInt - inHand - l.treasuries.sum Amount.toInt]

/-! ## Credits -/

theorem part_treasuries (l : Ledger) (company : String) :
    l.treasuries.part Amount.toInt company = ((l.treasury? company).getD 0).toInt := by
  unfold Book.part treasury?
  cases l.treasuries.get? company <;> rfl

theorem part_cash (l : Ledger) (party : String) :
    l.cash.part Amount.toInt party = (l.cashOf party).toInt := by
  unfold Book.part cashOf
  cases l.cash.get? party <;> rfl

/-- A credit raises the funds by its sum. -/
theorem funds_credit {l : Ledger} {party : String} {sum : Amount}
    (h : Fits ((l.balance party).toInt + sum.toInt)) :
    (l.credit party sum).funds = l.funds + sum.toInt := by
  unfold credit
  cases ht : l.treasury? party with
  | some n =>
      rw [balance, ht, Option.getD_some] at h
      simp only [funds, Book.sum_insert, part_treasuries, ht, Option.getD_some,
        Amount.toInt_add_of_fits h]
      omega
  | none =>
      rw [balance, ht, Option.getD_none] at h
      simp only [funds, Book.sum_insert, part_cash, Amount.toInt_add_of_fits h]
      omega

/-- Credits raise the funds by all their sums. -/
theorem funds_creditAll (l : Ledger) (cs : List (String × Amount))
    (h : ∀ n ∈ l.creditSums cs, Fits n) :
    (l.creditAll cs).funds = l.funds + (cs.map fun c => c.2.toInt).sum := by
  induction cs generalizing l with
  | nil => simp
  | cons c cs ih =>
      have hfirst := funds_credit (h _ List.mem_cons_self)
      have hrest := ih _ fun n hn => h n (List.mem_cons_of_mem _ hn)
      rw [creditAll_cons, hrest, hfirst, List.map_cons, List.sum_cons]
      omega

/-- The balances that credits lead to depend on the two books of money only. -/
theorem creditSums_of_books {l l' : Ledger} (hcash : l'.cash = l.cash)
    (htreasuries : l'.treasuries = l.treasuries) (cs : List (String × Amount)) :
    l'.creditSums cs = l.creditSums cs := by
  induction cs generalizing l l' with
  | nil => rfl
  | cons c cs ih =>
      have hcredit := credit_of_books hcash htreasuries c.1 c.2
      have hbalance : l'.balance c.1 = l.balance c.1 := by
        unfold balance treasury? cashOf
        rw [hcash, htreasuries]
      have hcash' : (l'.credit c.1 c.2).cash = (l.credit c.1 c.2).cash := by rw [hcredit]
      have htreasuries' : (l'.credit c.1 c.2).treasuries = (l.credit c.1 c.2).treasuries := by
        rw [hcredit]
      rw [creditSums, creditSums, hbalance, ih hcash' htreasuries']

/-! ## The credits of an operation -/

/-- The payouts of a company add up to what its holders are due, rounded down for each of them. -/
theorem sum_payouts (l : Ledger) (company : String) (numerator : Amount) {denominator : Nat}
    (hd : 0 < denominator)
    (h : ∀ n ∈ (l.holders company).map fun h => h.2.toInt * numerator.toInt, Fits n) :
    ((l.payouts company numerator denominator).map fun c => c.2.toInt).sum =
      ((l.holders company).map fun h => h.2.toInt * numerator.toInt / denominator).sum := by
  unfold payouts
  generalize l.holders company = holders at h ⊢
  induction holders with
  | nil => rfl
  | cons holder hs ih =>
      have hrest := ih fun n hn => h n (List.mem_cons_of_mem _ hn)
      have hpay : (payout holder.2 numerator denominator).toInt =
          holder.2.toInt * numerator.toInt / denominator := by
        rw [payout, Amount.toInt_floorDiv _ hd, Amount.toInt_mul_of_fits (h _ List.mem_cons_self)]
      rw [List.map_cons, List.map_cons, List.sum_cons, ← hpay, ← hrest]
      by_cases hz : payout holder.2 numerator denominator = 0
      · simp [hz]
      · simp [hz]

/-- The incomes that are due add up to the positive incomes of the roster. -/
theorem sum_incomesDue (l : Ledger) :
    (l.incomesDue.map fun c => c.2.toInt).sum =
      (((l.roster.parties.map l.incomeOf).filter fun n => 0 < n).map Amount.toInt).sum := by
  simp only [incomesDue, List.filter_map, List.map_map]
  rfl

/-- What an operation adds to the funds otherwise than by credits: floating a company puts a
treasury in the place of another one, and closing it takes its accounts away. -/
def settledFunds (l : Ledger) : Operation → Int
  | .float company treasury => l.inflow (.float company treasury)
  | .close company => l.inflow (.close company)
  | _ => 0

/-- The credits of an operation add up to its inflow, less what it settles. -/
theorem sum_credits {l : Ledger} {op : Operation} (h : ∀ n ∈ l.products op, Fits n) :
    ((l.credits op).map fun c => c.2.toInt).sum = l.inflow op - l.settledFunds op := by
  cases op with
  | buy buyer company n price seller =>
      by_cases hp : 0 < price
      · simp only [products, if_pos hp, List.mem_cons, List.not_mem_nil, or_false,
          forall_eq_or_imp, forall_eq] at h
        have hcost := Amount.toInt_mul_of_fits h.1
        have hneg : (-(price * n)).toInt = -(price * n).toInt :=
          Amount.toInt_neg_of_fits (hcost ▸ h.2)
        cases seller <;> simp [credits, inflow, settledFunds, hp, hneg, hcost]
      · cases seller <;> simp [credits, inflow, settledFunds, hp]
  | sell seller company n price =>
      by_cases hp : 0 < price
      · simp only [products, if_pos hp, List.mem_singleton, forall_eq] at h
        simp [credits, inflow, settledFunds, hp, Amount.toInt_mul_of_fits h]
      · simp [credits, inflow, settledFunds, hp]
  | moveCash giver receiver sum =>
      have hneg := Amount.toInt_neg_of_fits (h _ List.mem_cons_self)
      simp [credits, inflow, settledFunds, hneg]
  | payDividends company perShare =>
      have hsum := sum_payouts l company perShare Nat.one_pos h
      simpa [credits, inflow, settledFunds] using hsum
  | payHalfDividends company total =>
      have hpaid := Amount.toInt_sub_of_fits (h _ List.mem_cons_self)
      have hsum := sum_payouts l company (total - l.rounding.retained total) (Nat.succ_pos 9)
        fun n hn => h n (List.mem_cons_of_mem _ (hpaid ▸ hn))
      rw [hpaid] at hsum
      simp only [credits, inflow, settledFunds, List.map_cons, List.sum_cons, hsum]
      simp
  | payIncome => simp [credits, inflow, settledFunds, sum_incomesDue]
  | nextRound kind => cases kind <;> simp [credits, inflow, settledFunds, sum_incomesDue]
  | changeCash party sum => simp [credits, inflow, settledFunds]
  | float company treasury => simp [credits, settledFunds]
  | close company => simp [credits, settledFunds]
  | changeShares _ _ _ | setValue _ _ | setBankSize _ _ | setIncome _ _ | setRounding _
  | enableCompanyCredits | note _ => rfl

/-! ## The law -/

theorem funds_settle (op : Operation) (l : Ledger) :
    (op.settle l).funds = l.funds + l.settledFunds op := by
  cases op with
  | float company treasury =>
      simp only [Operation.settle, settledFunds, inflow, funds, Book.sum_insert, part_treasuries]
      omega
  | close company =>
      simp only [Operation.settle, settledFunds, inflow, funds, Book.sum_erase, part_treasuries,
        part_cash]
      omega
  | setValue _ value | setIncome _ value =>
      cases value <;> exact (Int.add_zero _).symm
  | _ => exact (Int.add_zero _).symm

/-- **The funds after an operation** are the funds before it and its inflow. -/
theorem funds_run {l : Ledger} {op : Operation} {p : Posting} (h : l.run op = .ok p)
    (hfits : ∀ n ∈ l.moneyResults op, Fits n) : p.ledger.funds = l.funds + l.inflow op := by
  have hproducts := sum_credits fun n hn => hfits n (List.mem_append_left _ hn)
  have htraded : (l.tradeAll op.trades).funds = l.funds := by
    rw [tradeAll_eq]; rfl
  have hsums : (l.tradeAll op.trades).creditSums (l.credits op) = l.creditSums (l.credits op) := by
    rw [tradeAll_eq]
    exact creditSums_of_books (by rfl) (by rfl) _
  have hcredited := funds_creditAll (l.tradeAll op.trades) (l.credits op) fun n hn =>
    hfits n (List.mem_append_right _ (hsums ▸ hn))
  have hsettled : ((l.tradeAll op.trades).creditAll (l.credits op)).settledFunds op =
      l.settledFunds op := by
    -- Nothing is traded or credited before a company is floated or closed.
    cases op <;> rfl
  rw [run_stages h, funds_settle, hcredited, htraded, hproducts, hsettled]
  omega

/-- An operation that is refused brings nothing in, so the law holds of it, too. -/
theorem funds_after {l : Ledger} {op : Operation} (hfits : ∀ n ∈ l.moneyResults op, Fits n) :
    (l.after op).funds = l.funds + l.inflow op := by
  unfold after
  cases hrun : l.run op with
  | ok p => exact funds_run hrun hfits
  | error e =>
      have hnothing : l.inflow op = 0 := by
        cases op with
        | setValue _ _ | setBankSize _ _ | setIncome _ _ => rfl
        | _ => cases hrun
      rw [hnothing, Int.add_zero]

/-- **The funds after a run** are the funds before it and everything that was brought in. -/
theorem funds_afterAll {l : Ledger} {ops : List Operation}
    (hfits : ∀ n ∈ l.moneyResultsAll ops, Fits n) :
    (l.afterAll ops).funds = l.funds + l.inflowAll ops := by
  induction ops generalizing l with
  | nil => exact (Int.add_zero _).symm
  | cons op ops ih =>
      have hfirst := funds_after fun n hn => hfits n (List.mem_append_left _ hn)
      have hrest := ih fun n hn => hfits n (List.mem_append_right _ hn)
      rw [inflowAll, ← Int.add_assoc, ← hfirst, ← hrest]
      rfl

/-- What is left in the bank is its size less the funds, unless treasuries are funded from outside. -/
theorem toInt_bankRemains {l : Ledger} {size : Amount} (hsize : l.bank.size = some size)
    (hcredits : l.companyCredits = false) (hfits : ∀ n ∈ l.bankResults size, Fits n) :
    ∃ left, l.bankRemains = some left ∧ left.toInt = size.toInt - l.funds := by
  simp only [bankResults, List.forall_mem_append, List.forall_mem_cons] at hfits
  obtain ⟨⟨hcash, htreasuries⟩, hless, hleft, -⟩ := hfits
  have hcash : l.totalCash.toInt = l.cash.sum Amount.toInt := Amount.toInt_total hcash
  have htreasuries : l.totalTreasuries.toInt = l.treasuries.sum Amount.toInt :=
    Amount.toInt_total htreasuries
  rw [← hcash] at hless hleft
  have hless := Amount.toInt_sub_of_fits hless
  rw [← hless, ← htreasuries] at hleft
  refine ⟨size - l.totalCash - l.totalTreasuries, ?_, ?_⟩
  · simp [bankRemains, hsize, hcredits]
  · rw [Amount.toInt_sub_of_fits hleft, hless, hcash, htreasuries, funds]
    omega

/-- **The accounting law of money**: an accepted command asks for an operation, and unless a result
passes the bounds on the way, it moves the funds by the inflow of that operation, and what is left
in a bank whose size stays and that funds all treasuries by the opposite. -/
theorem funds_apply {l : Ledger} {log : List String} {a : Action} {p : Posting}
    (h : l.apply log a = .ok p) :
    ∃ op, a.operation log = .ok op ∧ l.run op = .ok p ∧
      ((∀ n ∈ l.moneyResults op, Fits n) →
        p.ledger.funds = l.funds + l.inflow op ∧
        ∀ size, l.bank.size = some size → p.ledger.bank.size = some size →
          l.companyCredits = false → p.ledger.companyCredits = false →
          (∀ n ∈ l.bankResults size, Fits n) → (∀ n ∈ p.ledger.bankResults size, Fits n) →
          ∃ before after, l.bankRemains = some before ∧ p.ledger.bankRemains = some after ∧
            after.toInt = before.toInt - l.inflow op) := by
  obtain ⟨op, hop, hrun⟩ := exists_operation_of_apply h
  refine ⟨op, hop, hrun, fun hfits => ?_⟩
  have hfunds := funds_run hrun hfits
  refine ⟨hfunds, fun size hsize hsize' hoff hoff' hbank hbank' => ?_⟩
  obtain ⟨before, hbefore, hb⟩ := toInt_bankRemains hsize hoff hbank
  obtain ⟨after, hafter, ha⟩ := toInt_bankRemains hsize' hoff' hbank'
  exact ⟨before, after, hbefore, hafter, by rw [ha, hb, hfunds]; omega⟩

/-- The law at a half dividend: the company keeps 40, its holders receive 15 and 10, and the bank
pays all of it. -/
theorem funds_apply_halfDividend :
    let l := (empty "$").afterAll
      [.setBankSize 1000 none, .float "CR" 100, .buy "MIKKO" "CR" 3 0 none,
        .buy "NOOA" "CR" 2 0 none]
    ∃ p, l.apply [] (Action.read "CR halfdividend 90") = .ok p ∧ p.ledger.funds = l.funds + 65 ∧
      ∃ before after, l.bankRemains = some before ∧ p.ledger.bankRemains = some after ∧
        after.toInt = before.toInt - 65 := by
  intro l
  have happly : l.apply [] (Action.read "CR halfdividend 90") =
      .ok (l.payHalfDividends "CR" 90) := by rfl
  obtain ⟨op, hop, -, hlaw⟩ := funds_apply happly
  obtain rfl : Operation.payHalfDividends "CR" 90 = op := Except.ok.inj hop
  obtain ⟨hfunds, hbank⟩ := hlaw (by decide +kernel)
  exact ⟨_, happly, hfunds, hbank 1000 (by decide +kernel) (by decide +kernel) (by decide +kernel)
    (by decide +kernel) (by decide +kernel) (by decide +kernel)⟩

end ShareLedger.Ledger
