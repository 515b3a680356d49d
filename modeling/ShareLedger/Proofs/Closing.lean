import ShareLedger.Proofs.Balance
/-!
# Proofs.Closing

What becomes of a company that is closed.

1. It is floated no more and nobody has an entry of its shares, and over further rounds that stays
   so (`Ledger.ClosedOut`).  It is therefore no company any more, and its balance is zero.
2. Closing leaves the share list that the company owns itself, even an empty one.  Whoever has ever
   traded has such a list (`Ledger.contains_shares_afterAll`), and a name that has one and is no
   company is a player, whose income is paid.
3. So a closed company is out of play exactly when it never traded (`Ledger.close_out_of_play`).
-/

namespace ShareLedger

/-- Whether a party buys or sells shares in an operation, or is the one they are bought from. -/
def Operation.isTrader (op : Operation) (party : String) : Bool :=
  op.trades.any fun t => t.owner = party

namespace Ledger

variable {l : Ledger} {op : Operation} {p : Posting} {company : String}

/-! ## Share lists -/

theorem contains_shares_tradeAll (l : Ledger) (ts : List Trade) (party : String) :
    (l.tradeAll ts).shares.contains party =
      (l.shares.contains party || ts.any fun t => t.owner = party) := by
  induction ts generalizing l with
  | nil => simp
  | cons t ts ih =>
      have htrade : (l.trade t).shares.contains party =
          (decide (t.owner = party) || l.shares.contains party) := by
        simp only [trade, setHolding, Book.contains_insert, eq_comm]
      rw [tradeAll_cons, ih, htrade, List.any_cons, Bool.or_left_comm, Bool.or_assoc]

/-- Settling leaves everybody's share list, be it with other shares in it. -/
theorem contains_shares_settle (op : Operation) (l : Ledger) (party : String) :
    (op.settle l).shares.contains party = l.shares.contains party := by
  cases op with
  | close company => exact Book.contains_map l.shares _ party
  | setValue _ value | setIncome _ value => cases value <;> rfl
  | _ => rfl

/-- Trading gives a share list, and no operation takes one away. -/
theorem contains_shares_run (h : l.run op = .ok p) (party : String) :
    p.ledger.shares.contains party = (l.shares.contains party || op.isTrader party) := by
  rw [run_stages h, contains_shares_settle, creditAll_shares, contains_shares_tradeAll]
  rfl

theorem contains_shares_after (l : Ledger) (op : Operation) (party : String) :
    (l.after op).shares.contains party = (l.shares.contains party || op.isTrader party) := by
  unfold after
  cases hrun : l.run op with
  | ok p => exact contains_shares_run hrun party
  | error e =>
      -- Trades are never refused.
      have hnone : op.isTrader party = false := by
        cases op with
        | setValue _ _ | setBankSize _ _ | setIncome _ _ => rfl
        | _ => cases hrun
      rw [hnone, Bool.or_false]

/-- Those who have traded are those who have a share list. -/
theorem contains_shares_afterAll (currency : String) (ops : List Operation) (party : String) :
    ((empty currency).afterAll ops).shares.contains party = ops.any (·.isTrader party) := by
  have aux (l : Ledger) : (l.afterAll ops).shares.contains party =
      (l.shares.contains party || ops.any (·.isTrader party)) := by
    induction ops generalizing l with
    | nil => simp [afterAll]
    | cons op ops ih =>
        have hfirst := contains_shares_after l op party
        rw [afterAll, List.foldl_cons, ← afterAll, ih, hfirst, List.any_cons, Bool.or_assoc]
  rw [aux]
  rfl

/-! ## Closed companies -/

/-- Neither floated nor in anybody's share list, and without cash unless it has a share list. -/
structure ClosedOut (l : Ledger) (company : String) : Prop where
  unfloated : l.isFloated company = false
  unheld : l.hasShareEntry company = false
  idle : l.cash.contains company = true → l.shares.contains company = true

theorem closedOut_close (l : Ledger) (company : String) :
    (l.close company).ledger.ClosedOut company := by
  refine ⟨?_, ?_, fun hcash => ?_⟩
  · simp [close, isFloated, treasury?, Book.get?_erase]
  · rw [← Bool.not_eq_true, hasShareEntry_iff]
    rintro ⟨owner, howner⟩
    simp only [close, portfolio, Book.get?_map] at howner
    cases hlist : l.shares.get? owner with
    | none =>
        rw [hlist] at howner
        cases howner
    | some owned =>
        rw [hlist, Option.map_some, Option.getD_some, Book.contains_erase] at howner
        simp at howner
  · simp [close, Book.contains_erase] at hcash

namespace ClosedOut

theorem notMem_companies (h : l.ClosedOut company) : company ∉ l.roster.companies := by
  rw [mem_companies, h.unfloated, h.unheld]
  simp

/-- What is left of a closed company is a player if it has a share list. -/
theorem mem_players (h : l.ClosedOut company) :
    company ∈ l.roster.players ↔ l.shares.contains company = true := by
  rw [Ledger.mem_players, or_iff_right_of_imp h.idle]
  exact and_iff_left h.notMem_companies

theorem mem_parties (h : l.ClosedOut company) :
    company ∈ l.roster.parties ↔ l.shares.contains company = true := by
  rw [Roster.parties, List.mem_append, or_iff_left h.notMem_companies]
  exact h.mem_players

/-- Whether a closed company is paid in the next round. -/
theorem mem_credits (h : l.ClosedOut company) (kind : RoundKind) :
    company ∈ (l.credits (.nextRound kind)).map (·.1) ↔
      kind = .operating ∧ l.shares.contains company = true ∧ 0 < l.incomeOf company := by
  cases kind with
  | stock => simp [credits]
  | operating => simp only [credits, mem_names_incomesDue, h.mem_parties, true_and]

end ClosedOut

/-! ## Further rounds -/

/-- A round credits the incomes, if it is an operating round, and moves on the count. -/
theorem after_nextRound (l : Ledger) (kind : RoundKind) :
    l.after (.nextRound kind) =
      { l.creditAll (l.credits (.nextRound kind)) with
        round := some (Round.next l.round kind) } := by
  have hrun : l.run (.nextRound kind) = .ok (l.nextRound kind) := rfl
  have htrades : (Operation.nextRound kind).trades = [] := rfl
  rw [after, hrun]
  dsimp only
  rw [run_stages hrun, htrades, tradeAll_nil, Operation.settle, creditAll_round]

theorem shares_after_nextRound (l : Ledger) (kind : RoundKind) :
    (l.after (.nextRound kind)).shares = l.shares := by
  rw [after_nextRound]
  exact creditAll_shares l _

theorem incomes_after_nextRound (l : Ledger) (kind : RoundKind) :
    (l.after (.nextRound kind)).incomes = l.incomes := by
  rw [after_nextRound, creditAll_eq]

namespace ClosedOut

/-- Further rounds change nothing about a closed company but what it is paid. -/
theorem nextRound (h : l.ClosedOut company) (kind : RoundKind) :
    (l.after (.nextRound kind)).ClosedOut company := by
  have hshares := l.shares_after_nextRound kind
  refine ⟨?_, ?_, fun hcash => ?_⟩
  · rw [after_nextRound]
    exact (isFloated_creditAll l _ company).trans h.unfloated
  · rw [hasShareEntry, hshares]
    exact h.unheld
  · rw [hshares]
    by_cases hpaid : company ∈ (l.credits (.nextRound kind)).map (·.1)
    · exact ((h.mem_credits kind).1 hpaid).2.1
    · rw [after_nextRound] at hcash
      exact h.idle ((contains_cash_creditAll_of_notMem hpaid).symm.trans hcash)

/-- What a closed company is paid in an operating round. -/
def due (l : Ledger) (company : String) : Int :=
  if l.shares.contains company = true ∧ 0 < l.incomeOf company then (l.incomeOf company).toInt else 0

theorem due_nonneg (l : Ledger) (company : String) : 0 ≤ due l company := by
  unfold due
  split
  · next h => exact Int.le_of_lt h.2
  · exact Int.le_refl 0

theorem due_nextRound (l : Ledger) (company : String) (kind : RoundKind) :
    due (l.after (.nextRound kind)) company = due l company := by
  rw [due, due, incomeOf, shares_after_nextRound, incomes_after_nextRound]
  rfl

/-- A round adds to the balance of a closed company what is due to it, if it is an operating one. -/
theorem balance_nextRound (h : l.ClosedOut company) (kind : RoundKind) :
    (l.after (.nextRound kind)).balance company =
      match kind with
      | .stock => l.balance company
      | .operating => .clamp ((l.balance company).toInt + due l company) := by
  rw [after_nextRound]
  cases kind with
  | stock => rfl
  | operating =>
      refine (balance_payIncome l company).trans ?_
      dsimp only
      rw [due]
      by_cases hdue : l.shares.contains company = true ∧ 0 < l.incomeOf company
      · rw [if_pos hdue, if_pos ⟨h.mem_parties.2 hdue.1, hdue.2⟩]
        rfl
      · rw [if_neg hdue, if_neg (mt (And.imp_left h.mem_parties.1) hdue), Int.add_zero,
          Amount.clamp_toInt]

/-- Rounds add up what is due in the operating ones among them. -/
theorem rounds (h : l.ClosedOut company) (kinds : List RoundKind) {k : Nat}
    (hbalance : l.balance company = .clamp (k * due l company)) :
    let later := l.afterAll (kinds.map .nextRound)
    later.ClosedOut company ∧ later.shares = l.shares ∧ later.incomes = l.incomes ∧
      later.balance company = .clamp ((k + kinds.count .operating : Nat) * due l company) := by
  induction kinds generalizing l k with
  | nil => exact ⟨h, rfl, rfl, hbalance⟩
  | cons kind kinds ih =>
      have hnext := h.balance_nextRound kind
      have hdue := due_nextRound l company kind
      have hstep : (l.after (.nextRound kind)).balance company =
          .clamp ((k + [kind].count .operating : Nat) * due (l.after (.nextRound kind)) company) := by
        rw [hnext, hdue, hbalance]
        cases kind with
        | stock => rfl
        | operating =>
            have hnonneg := due_nonneg l company
            have hpaid : 0 ≤ k * due l company := Int.mul_nonneg (Int.natCast_nonneg k) hnonneg
            apply Amount.ext
            simp only [Amount.toInt_clamp, List.count_cons_self, List.count_nil, Nat.zero_add,
              Int.natCast_add, Int.add_mul, Int.natCast_one, Int.one_mul]
            omega
      obtain ⟨hclosed, hshares, hincomes, hlater⟩ := ih (h.nextRound kind) hstep
      refine ⟨hclosed, hshares.trans (l.shares_after_nextRound kind),
        hincomes.trans (l.incomes_after_nextRound kind), ?_⟩
      have hcount : ([kind] ++ kinds).count RoundKind.operating =
          [kind].count .operating + kinds.count .operating := List.count_append
      rw [hdue, Nat.add_assoc, ← hcount] at hlater
      exact hlater

end ClosedOut

/-! ## The law -/

/-- **What closing takes out of play**: in every ledger that operations lead to, a closed company is
no company any more, nobody has an entry of its shares and its balance is zero.  It is a player
exactly when it has traded before, and then every further operating round pays it its income, if
that is above zero; otherwise no round ever pays it anything. -/
theorem close_out_of_play (currency : String) (ops : List Operation) (company : String) :
    let l := (empty currency).afterAll ops
    let closed := (l.close company).ledger
    let traded := ops.any (·.isTrader company)
    company ∉ closed.roster.companies ∧
      (∀ owner, (closed.portfolio owner).contains company = false) ∧
      closed.balance company = 0 ∧
      (company ∈ closed.roster.players ↔ traded = true) ∧
      ∀ kinds : List RoundKind,
        let later := closed.afterAll (kinds.map .nextRound)
        (∀ kind, company ∈ (later.credits (.nextRound kind)).map (·.1) ↔
          kind = .operating ∧ traded = true ∧ 0 < l.incomeOf company) ∧
        later.balance company =
          if traded = true ∧ 0 < l.incomeOf company then
            .clamp (kinds.count .operating * (l.incomeOf company).toInt)
          else 0 := by
  intro l closed traded
  have hclosed : closed.ClosedOut company := closedOut_close l company
  have hlists : closed.shares.contains company = traded :=
    (Book.contains_map l.shares _ company).trans (contains_shares_afterAll currency ops company)
  have hbalance : closed.balance company = 0 := by
    simp [closed, close, balance, treasury?, cashOf, Book.get?_erase]
  refine ⟨hclosed.notMem_companies, fun owner => ?_, hbalance, ?_, fun kinds => ?_⟩
  · rw [← Bool.not_eq_true]
    intro howner
    have hentry := hasShareEntry_iff.2 ⟨owner, howner⟩
    rw [hclosed.unheld] at hentry
    cases hentry
  · rw [hclosed.mem_players, hlists]
  · have hzero : closed.balance company = .clamp ((0 : Nat) * ClosedOut.due closed company) := by
      rw [hbalance, Int.natCast_zero, Int.zero_mul]
      rfl
    obtain ⟨hlater, hshares, hincomes, hpaid⟩ := hclosed.rounds kinds hzero
    refine ⟨fun kind => ?_, ?_⟩
    · rw [hlater.mem_credits, hshares, hlists, incomeOf, hincomes]
      rfl
    · rw [hpaid, Nat.zero_add, ClosedOut.due, hlists]
      have hincome : closed.incomeOf company = l.incomeOf company := rfl
      rw [hincome]
      split
      · rfl
      · rw [Int.mul_zero]
        rfl

/-- A company that sold its own shares is paid its income as a player once it is closed. -/
theorem exists_closed_paid :
    ¬ ∀ (currency : String) (ops : List Operation) (company : String),
      let closed := (((empty currency).afterAll ops).close company).ledger
      company ∉ closed.roster.parties ∧
        (∀ owner, (closed.portfolio owner).contains company = false) ∧
        closed.balance company = 0 ∧
        ∀ kinds : List RoundKind, (closed.afterAll (kinds.map .nextRound)).balance company = 0 := by
  intro h
  obtain ⟨-, -, -, hcase⟩ := h "$"
    [.float "GT" 100, .setIncome "GT" (some 50), .buy "MIKKO" "GT" 2 0 (some "GT")] "GT"
  have hcase := hcase [.operating]
  revert hcase
  decide +kernel

end Ledger
end ShareLedger
