import ShareLedger.Proofs.BookSum
import ShareLedger.Proofs.Exactness
import ShareLedger.Proofs.Operation
/-!
# Proofs.Shares

The accounting law of shares.

1. No holding is ever negative (`Ledger.Covered`), because a trade that would leave less than no
   share leaves none.
2. For the same reason a purchase from a seller who holds too little is no mere transfer: the buyer
   receives everything asked for and the seller gives up only what is held.
3. Shares of a company move only in operations that trade them and when the company is closed
   (`Operation.tradedCompany`).
-/

namespace ShareLedger

open Amount (Fits)

/-- The company whose shares an operation trades or takes out of the game. -/
def Operation.tradedCompany : Operation → Option String
  | changeShares _ company _ | buy _ company _ _ _ | sell _ company _ _ | close company =>
    some company
  | _ => none

namespace Ledger

/-- The number of shares of a company that all owners hold together. -/
def sharesInPlay (l : Ledger) (company : String) : Int :=
  l.shares.sum fun owned => ((owned.get? company).getD 0).toInt

/-- No owner holds less than no share of any company. -/
def Covered (l : Ledger) : Prop := ∀ owner company, 0 ≤ l.holding owner company

/-! ## One holding -/

theorem holding_setHolding (l : Ledger) (owner company owner' company' : String) (n : Amount) :
    (l.setHolding owner company n).holding owner' company' =
      if owner' = owner ∧ company' = company then n else l.holding owner' company' := by
  unfold holding portfolio setHolding
  by_cases ho : owner' = owner
  · by_cases hc : company' = company <;> simp [Book.get?_insert, ho, hc, portfolio]
  · simp [Book.get?_insert, ho]

/-- Setting a holding adds the new number of shares and takes off the old one. -/
theorem sharesInPlay_setHolding (l : Ledger) (owner company : String) (n : Amount) :
    (l.setHolding owner company n).sharesInPlay company =
      l.sharesInPlay company - (l.holding owner company).toInt + n.toInt := by
  have hpart : l.shares.part (fun owned => ((owned.get? company).getD 0).toInt) owner =
      (l.holding owner company).toInt := by
    unfold Book.part holding portfolio
    cases l.shares.get? owner <;> rfl
  unfold sharesInPlay setHolding
  rw [Book.sum_insert, hpart, Book.get?_insert, if_pos rfl, Option.getD_some]

/-! ## One trade -/

theorem holding_trade (l : Ledger) (t : Trade) (owner company : String) :
    (l.trade t).holding owner company =
      if owner = t.owner ∧ company = t.company then
        (if l.holding t.owner t.company + t.delta < 0 then 0
          else l.holding t.owner t.company + t.delta)
      else l.holding owner company :=
  holding_setHolding l t.owner t.company owner company _

theorem Covered.trade {l : Ledger} (h : l.Covered) (t : Trade) : (l.trade t).Covered := by
  intro owner company
  rw [holding_trade]
  split
  · split
    · exact Int.le_refl _
    · next hge => exact Int.not_lt.1 hge
  · exact h owner company

/-- Receiving shares adds them. -/
theorem sharesInPlay_receive {l : Ledger} {owner company : String} {n : Amount} (h : l.Covered)
    (hn : 0 ≤ n) (hfits : Fits ((l.holding owner company).toInt + n.toInt)) :
    (l.trade ⟨owner, company, n⟩).holding owner company = l.holding owner company + n ∧
      (l.trade ⟨owner, company, n⟩).sharesInPlay company = l.sharesInPlay company + n.toInt := by
  have hadd := Amount.toInt_add_of_fits hfits
  have hge : ¬ l.holding owner company + n < 0 := by
    have := h owner company
    simp only [Amount.le_iff, Amount.lt_iff, Amount.toInt_zero] at *
    omega
  constructor
  · simp [holding_trade, hge]
  · simp only [trade, hge, if_false, sharesInPlay_setHolding]
    omega

/-- Giving up shares takes away those that are held. -/
theorem sharesInPlay_giveUp {l : Ledger} {n : Amount} (h : l.Covered) (hn : 0 ≤ n)
    (owner company : String) :
    (l.trade ⟨owner, company, -n⟩).sharesInPlay company =
      l.sharesInPlay company - min n.toInt (l.holding owner company).toInt := by
  have hheld := h owner company
  have hbound := (l.holding owner company).le_greatest
  have hnbound := n.le_greatest
  rw [Amount.le_iff, Amount.toInt_zero] at hheld hn
  have hneg : (-n).toInt = -n.toInt := Amount.toInt_neg_of_fits ⟨by omega, by omega⟩
  have hadd : (l.holding owner company + -n).toInt = (l.holding owner company).toInt + -n.toInt := by
    rw [← hneg]
    exact Amount.toInt_add_of_fits ⟨by omega, by omega⟩
  simp only [trade, sharesInPlay_setHolding, Amount.lt_iff, Amount.toInt_zero, hadd]
  split
  · rw [Amount.toInt_zero]; omega
  · rw [hadd]; omega

/-- A trade leaves the shares of other companies where they are. -/
theorem holding_trade_of_ne {l : Ledger} {t : Trade} {company : String} (h : t.company ≠ company)
    (owner : String) : (l.trade t).holding owner company = l.holding owner company := by
  rw [holding_trade, if_neg]
  exact fun hsame => h hsame.2.symm

/-! ## The stages of an operation -/

theorem Covered.tradeAll {l : Ledger} (h : l.Covered) (ts : List Trade) : (l.tradeAll ts).Covered := by
  induction ts generalizing l with
  | nil => exact h
  | cons t ts ih => exact ih (h.trade t)

theorem holding_tradeAll_of_ne {l : Ledger} {ts : List Trade} {company : String}
    (h : ∀ t ∈ ts, t.company ≠ company) (owner : String) :
    (l.tradeAll ts).holding owner company = l.holding owner company := by
  induction ts generalizing l with
  | nil => rfl
  | cons t ts ih =>
      rw [tradeAll_cons, ih fun t ht => h t (List.mem_cons_of_mem _ ht)]
      exact holding_trade_of_ne (h t List.mem_cons_self) owner

@[simp] theorem holding_creditAll (l : Ledger) (cs : List (String × Amount)) (owner company : String) :
    (l.creditAll cs).holding owner company = l.holding owner company := by
  rw [holding, portfolio, creditAll_shares]; rfl

@[simp] theorem sharesInPlay_creditAll (l : Ledger) (cs : List (String × Amount)) (company : String) :
    (l.creditAll cs).sharesInPlay company = l.sharesInPlay company := by
  rw [sharesInPlay, creditAll_shares]; rfl

/-- Closing a company takes every share of it and leaves the other shares. -/
theorem holding_close (l : Ledger) (company owner company' : String) :
    ((Operation.close company).settle l).holding owner company' =
      if company' = company then 0 else l.holding owner company' := by
  simp only [holding, portfolio, Operation.settle, Book.get?_map]
  cases l.shares.get? owner with
  | none => simp
  | some owned => by_cases hc : company' = company <;> simp [Book.get?_erase, hc]

/-- Settling touches holdings only when a company is closed. -/
theorem holding_settle {op : Operation} (h : ∀ company, op ≠ .close company) (l : Ledger)
    (owner company : String) : (op.settle l).holding owner company = l.holding owner company := by
  cases op with
  | close company => exact absurd rfl (h company)
  | setValue _ value | setIncome _ value => cases value <;> rfl
  | _ => rfl

theorem Covered.settle {l : Ledger} (h : l.Covered) (op : Operation) : (op.settle l).Covered := by
  intro owner company
  by_cases hclose : ∃ closed, op = .close closed
  · obtain ⟨closed, rfl⟩ := hclose
    rw [holding_close]
    split
    · exact Int.le_refl _
    · exact h owner company
  · rw [holding_settle fun closed hop => hclose ⟨closed, hop⟩]
    exact h owner company

/-! ## Operations and runs -/

/-- No operation takes more than is held. -/
theorem Covered.run {l : Ledger} {op : Operation} {p : Posting} (hrun : l.run op = .ok p)
    (h : l.Covered) : p.ledger.Covered := by
  rw [run_stages hrun]
  apply Covered.settle
  intro owner company
  rw [holding_creditAll]
  exact h.tradeAll op.trades owner company

/-- In every ledger that operations lead to, no holding is negative. -/
theorem Covered.afterAll (currency : String) (ops : List Operation) :
    ((empty currency).afterAll ops).Covered := by
  have hempty : (empty currency).Covered := fun _ _ => Int.le_refl 0
  exact afterAll_induction Covered.run hempty ops

theorem trades_company {op : Operation} {t : Trade} (ht : t ∈ op.trades) :
    op.tradedCompany = some t.company := by
  cases op with
  | buy buyer company n price seller =>
      cases seller with
      | none => rw [List.mem_singleton.1 ht]; rfl
      | some seller =>
          obtain rfl | ht := List.mem_cons.1 ht
          · rfl
          · rw [List.mem_singleton.1 ht]; rfl
  | changeShares _ _ _ | sell _ _ _ _ => rw [List.mem_singleton.1 ht]; rfl
  | _ => cases ht

/-- An operation that does not trade a company leaves all holdings of it alone. -/
theorem holding_run_of_ne {l : Ledger} {op : Operation} {p : Posting} {company : String}
    (hrun : l.run op = .ok p) (h : op.tradedCompany ≠ some company) (owner : String) :
    p.ledger.holding owner company = l.holding owner company := by
  have htrades : (l.tradeAll op.trades).holding owner company = l.holding owner company :=
    holding_tradeAll_of_ne (fun t ht hc => h (by rw [trades_company ht, hc])) owner
  rw [run_stages hrun]
  by_cases hclose : ∃ closed, op = .close closed
  · obtain ⟨closed, rfl⟩ := hclose
    rw [holding_close, if_neg fun hc => h (congrArg some hc.symm), holding_creditAll, htrades]
  · rw [holding_settle fun closed hop => hclose ⟨closed, hop⟩, holding_creditAll, htrades]

/-- An action trades the company that it names, and only when it buys, sells or closes. -/
theorem tradedCompany_operation {log : List String} {a : Action} {op : Operation} {company : String}
    (hop : a.operation log = .ok op) (h : op.tradedCompany = some company) :
    (a.verb = some .buy ∨ a.verb = some .sell ∨ a.verb = some .close) ∧ a.object = some company := by
  have hverb := Action.verb_eq_of_operation hop
  unfold Action.operation at hop
  cases op with
  | buy buyer traded n price seller =>
      obtain rfl := Option.some.inj h
      rw [show a.verb = some .buy from hverb] at hop
      obtain ⟨_, hobject, hop⟩ := bind_eq_ok.1 hop
      obtain ⟨_, -, hop⟩ := bind_eq_ok.1 hop
      obtain ⟨_, -, hop⟩ := bind_eq_ok.1 hop
      cases hop
      exact ⟨.inl hverb, Action.needObject_eq_ok.1 hobject⟩
  | sell seller traded n price =>
      obtain rfl := Option.some.inj h
      rw [show a.verb = some .sell from hverb] at hop
      obtain ⟨_, hobject, hop⟩ := bind_eq_ok.1 hop
      obtain ⟨_, -, hop⟩ := bind_eq_ok.1 hop
      obtain ⟨_, -, hop⟩ := bind_eq_ok.1 hop
      cases hop
      exact ⟨.inr (.inl hverb), Action.needObject_eq_ok.1 hobject⟩
  | close closed =>
      obtain rfl := Option.some.inj h
      rw [show a.verb = some .close from hverb] at hop
      obtain ⟨_, hobject, hop⟩ := bind_eq_ok.1 hop
      cases hop
      exact ⟨.inr (.inr hverb), Action.needObject_eq_ok.1 hobject⟩
  | changeShares owner traded delta =>
      -- No action changes shares by itself.
      rw [show a.verb = none from hverb] at hop
      cases hop
  | _ => cases h

/-! ## Single operations -/

theorem sharesInPlay_buy (l : Ledger) (buyer company : String) (n price : Amount)
    (seller : Option String) :
    (l.buyShares buyer company n price seller).ledger.sharesInPlay company =
      (l.tradeAll (Operation.buy buyer company n price seller).trades).sharesInPlay company := by
  have hrun : l.run (.buy buyer company n price seller) = .ok _ := rfl
  rw [run_stages hrun]
  exact sharesInPlay_creditAll _ _ company

/-- Buying from oneself moves no shares. -/
theorem sharesInPlay_buy_self {l : Ledger} {buyer company : String} {n : Amount} (price : Amount)
    (h : l.Covered) (hn : 0 ≤ n) (hfits : Fits ((l.holding buyer company).toInt + n.toInt)) :
    (l.buyShares buyer company n price (some buyer)).ledger.sharesInPlay company =
      l.sharesInPlay company := by
  obtain ⟨hholding, hreceive⟩ := sharesInPlay_receive h hn hfits
  have hgive := sharesInPlay_giveUp (h.trade ⟨buyer, company, n⟩) hn buyer company
  have hheld := h buyer company
  rw [hholding, Amount.toInt_add_of_fits hfits] at hgive
  rw [Amount.le_iff, Amount.toInt_zero] at hheld
  rw [sharesInPlay_buy]
  simp only [Operation.trades, tradeAll_cons, tradeAll_nil, hgive, hreceive]
  omega

/-- Buying from somebody else brings new shares into play where the seller holds too little. -/
theorem sharesInPlay_buy_other {l : Ledger} {buyer seller company : String} {n : Amount}
    (price : Amount) (h : l.Covered) (hn : 0 ≤ n) (hne : seller ≠ buyer)
    (hfits : Fits ((l.holding buyer company).toInt + n.toInt)) :
    (l.buyShares buyer company n price (some seller)).ledger.sharesInPlay company =
      l.sharesInPlay company + (n.toInt - min n.toInt (l.holding seller company).toInt) := by
  obtain ⟨-, hreceive⟩ := sharesInPlay_receive h hn hfits
  have hgive := sharesInPlay_giveUp (h.trade ⟨buyer, company, n⟩) hn seller company
  have hseller : (l.trade ⟨buyer, company, n⟩).holding seller company = l.holding seller company := by
    rw [holding_trade, if_neg fun hsame => hne hsame.1]
  rw [hseller] at hgive
  rw [sharesInPlay_buy]
  simp only [Operation.trades, tradeAll_cons, tradeAll_nil, hgive, hreceive]
  omega

theorem sharesInPlay_sell {l : Ledger} {seller company : String} {n : Amount} (price : Amount)
    (h : l.Covered) (hn : 0 ≤ n) :
    (l.sellShares seller company n price).ledger.sharesInPlay company =
      l.sharesInPlay company - min n.toInt (l.holding seller company).toInt := by
  have hrun : l.run (.sell seller company n price) = .ok _ := rfl
  rw [run_stages hrun, ← sharesInPlay_giveUp h hn seller company]
  exact sharesInPlay_creditAll _ _ company

/-- No share of a closed company stays in play. -/
theorem sharesInPlay_close (l : Ledger) (company : String) :
    (l.close company).ledger.sharesInPlay company = 0 := by
  simp only [sharesInPlay, close, Book.sum_map]
  apply Book.sum_eq_zero
  intro owned
  rw [Book.get?_erase, if_pos rfl]
  rfl

/-! ## The law -/

/-- **The accounting law of shares**: no run leaves a negative holding, and in a ledger without
negative holdings every operation changes the number of shares of a company by a known number. -/
theorem share_accounting :
    (∀ currency ops owner company, 0 ≤ ((empty currency).afterAll ops).holding owner company) ∧
    ∀ (l : Ledger), (∀ owner company, 0 ≤ l.holding owner company) →
      ∀ (company : String) (n price : Amount), 0 ≤ n →
        (∀ buyer, Fits ((l.holding buyer company).toInt + n.toInt) →
          (l.buyShares buyer company n price none).ledger.sharesInPlay company =
              l.sharesInPlay company + n.toInt ∧
            (l.buyShares buyer company n price (some buyer)).ledger.sharesInPlay company =
              l.sharesInPlay company ∧
            ∀ seller, seller ≠ buyer →
              (l.buyShares buyer company n price (some seller)).ledger.sharesInPlay company =
                l.sharesInPlay company +
                  (n.toInt - min n.toInt (l.holding seller company).toInt)) ∧
        (∀ seller, (l.sellShares seller company n price).ledger.sharesInPlay company =
          l.sharesInPlay company - min n.toInt (l.holding seller company).toInt) ∧
        (l.close company).ledger.sharesInPlay company = 0 ∧
        (∀ op p, l.run op = .ok p → op.tradedCompany ≠ some company →
          ∀ owner, p.ledger.holding owner company = l.holding owner company) ∧
        ∀ log a p, l.apply log a = .ok p →
          ¬ ((a.verb = some .buy ∨ a.verb = some .sell ∨ a.verb = some .close) ∧
            a.object = some company) →
          ∀ owner, p.ledger.holding owner company = l.holding owner company := by
  refine ⟨Covered.afterAll, fun l hl company n price hn => ⟨fun buyer hfits => ⟨?_, ?_, ?_⟩, ?_, ?_,
    fun op p hrun => holding_run_of_ne hrun, ?_⟩⟩
  · rw [sharesInPlay_buy]
    exact (sharesInPlay_receive hl hn hfits).2
  · exact sharesInPlay_buy_self price hl hn hfits
  · exact fun seller hne => sharesInPlay_buy_other price hl hn hne hfits
  · exact fun seller => sharesInPlay_sell price hl hn
  · exact sharesInPlay_close l company
  · intro log a p happly hother owner
    obtain ⟨op, hop, hrun⟩ := exists_operation_of_apply happly
    exact holding_run_of_ne hrun (fun htraded => hother (tradedCompany_operation hop htraded)) owner

/-- Whoever buys five shares from an owner of two brings three new ones into play. -/
theorem sharesInPlay_oversold :
    let l := (empty "$").afterAll [.buy "MIKKO" "CR" 4 0 none, .buy "NOOA" "CR" 2 0 none]
    (l.buyShares "MIKKO" "CR" 5 0 (some "NOOA")).ledger.sharesInPlay "CR" =
      l.sharesInPlay "CR" + 3 := by
  intro l
  have hcovered := share_accounting.1 "$"
    [.buy "MIKKO" "CR" 4 0 none, .buy "NOOA" "CR" 2 0 none]
  have hlaw := share_accounting.2 l hcovered "CR" 5 0 (by decide)
  exact ((hlaw.1 "MIKKO" (by decide +kernel)).2.2 "NOOA" (by decide)).trans (by decide +kernel)

end Ledger
end ShareLedger
