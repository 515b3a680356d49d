import ShareLedger.Proofs.Operation
import ShareLedger.Proofs.Roster
/-!
# Proofs.Balance

What credits do to the account of one party.

1. A credit raises the balance of its party and of nobody else (`Ledger.balance_credit`); who is
   floated stays floated, and nobody else becomes so (`Ledger.isFloated_creditAll`).
2. Credits that name nobody twice reach everybody whom they name once
   (`Ledger.balance_creditAll_of_nodup`).  Incomes are such credits (`Ledger.nodup_incomesDue`).
-/

namespace ShareLedger.Ledger

/-! ## One credit -/

theorem treasury?_credit (l : Ledger) (party other : String) (sum : Amount) :
    (l.credit party sum).treasury? other =
      if other = party then (l.treasury? other).map (· + sum) else l.treasury? other := by
  unfold credit
  cases ht : l.treasury? party with
  | none =>
      by_cases h : other = party
      · rw [if_pos h, h, ht]; exact ht
      · rw [if_neg h]; rfl
  | some n =>
      dsimp only
      rw [treasury?, Book.get?_insert]
      by_cases h : other = party
      · rw [if_pos h, if_pos h, h, ht]; rfl
      · rw [if_neg h, if_neg h]; rfl

theorem cash_credit (l : Ledger) (party : String) (sum : Amount) :
    (l.credit party sum).cash =
      if l.isFloated party then l.cash else l.cash.insert party (l.cashOf party + sum) := by
  unfold credit isFloated
  cases l.treasury? party <;> rfl

/-- A credit raises the balance of its party and of nobody else. -/
theorem balance_credit (l : Ledger) (party other : String) (sum : Amount) :
    (l.credit party sum).balance other =
      if other = party then l.balance other + sum else l.balance other := by
  rw [balance, treasury?_credit, cashOf, cash_credit]
  by_cases h : other = party
  · rw [if_pos h, if_pos h, h, balance, isFloated]
    cases l.treasury? party with
    | none => simp [Book.get?_insert]
    | some n => rfl
  · rw [if_neg h, if_neg h, balance]
    split
    · rfl
    · rw [Book.get?_insert, if_neg h]; rfl

/-! ## Credits in order -/

@[simp] theorem isFloated_creditAll (l : Ledger) (cs : List (String × Amount)) (party : String) :
    (l.creditAll cs).isFloated party = l.isFloated party := by
  induction cs generalizing l with
  | nil => rfl
  | cons c cs ih =>
      rw [creditAll_cons, ih, isFloated, treasury?_credit, isFloated]
      split
      · exact Option.isSome_map
      · rfl

/-- Whom credits do not name keeps the balance. -/
theorem balance_creditAll_of_notMem {l : Ledger} {cs : List (String × Amount)} {party : String}
    (h : party ∉ cs.map (·.1)) : (l.creditAll cs).balance party = l.balance party := by
  induction cs generalizing l with
  | nil => rfl
  | cons c cs ih =>
      rw [List.map_cons, List.mem_cons, not_or] at h
      rw [creditAll_cons, ih h.2, balance_credit, if_neg h.1]

/-- Credits that name nobody twice reach everybody whom they name once. -/
theorem balance_creditAll_of_nodup {l : Ledger} {cs : List (String × Amount)}
    (hnodup : (cs.map (·.1)).Nodup) {party : String} {sum : Amount} (h : (party, sum) ∈ cs) :
    (l.creditAll cs).balance party = l.balance party + sum := by
  induction cs generalizing l with
  | nil => cases h
  | cons c cs ih =>
      rw [List.map_cons, List.nodup_cons] at hnodup
      rw [creditAll_cons]
      obtain rfl | h := List.mem_cons.1 h
      · rw [balance_creditAll_of_notMem hnodup.1, balance_credit, if_pos rfl]
      · have hne : party ≠ c.1 := fun he => hnodup.1 (he ▸ List.mem_map_of_mem h)
        rw [ih hnodup.2 h, balance_credit, if_neg hne]

/-- Whom credits do not name gets no entry of cash. -/
theorem contains_cash_creditAll_of_notMem {l : Ledger} {cs : List (String × Amount)} {party : String}
    (h : party ∉ cs.map (·.1)) :
    (l.creditAll cs).cash.contains party = l.cash.contains party := by
  induction cs generalizing l with
  | nil => rfl
  | cons c cs ih =>
      rw [List.map_cons, List.mem_cons, not_or] at h
      rw [creditAll_cons, ih h.2, cash_credit]
      split
      · rfl
      · simp [Book.contains_insert, h.1]

/-! ## Incomes -/

/-- The incomes that are due are the positive ones of the roster. -/
theorem mem_incomesDue {l : Ledger} {due : String × Amount} :
    due ∈ l.incomesDue ↔
      due.1 ∈ l.roster.parties ∧ due.2 = l.incomeOf due.1 ∧ 0 < l.incomeOf due.1 := by
  obtain ⟨party, n⟩ := due
  simp only [incomesDue, List.mem_filter, List.mem_map, Prod.mk.injEq, decide_eq_true_eq]
  constructor
  · rintro ⟨⟨_, hparty, rfl, rfl⟩, hn⟩
    exact ⟨hparty, rfl, hn⟩
  · rintro ⟨hparty, rfl, hn⟩
    exact ⟨⟨party, hparty, rfl, rfl⟩, hn⟩

theorem mem_names_incomesDue {l : Ledger} {party : String} :
    party ∈ l.incomesDue.map (·.1) ↔ party ∈ l.roster.parties ∧ 0 < l.incomeOf party := by
  rw [List.mem_map]
  constructor
  · rintro ⟨due, hdue, rfl⟩
    obtain ⟨hparty, -, hn⟩ := mem_incomesDue.1 hdue
    exact ⟨hparty, hn⟩
  · rintro ⟨hparty, hn⟩
    exact ⟨(party, l.incomeOf party), mem_incomesDue.2 ⟨hparty, rfl, hn⟩, rfl⟩

/-- Nobody's income is due twice. -/
theorem nodup_incomesDue (l : Ledger) : (l.incomesDue.map (·.1)).Nodup := by
  have hnames : l.incomesDue.map (·.1) =
      l.roster.parties.filter fun party => 0 < l.incomeOf party := by
    rw [incomesDue, List.filter_map, List.map_map]
    exact List.map_id' _
  rw [hnames]
  exact List.Pairwise.filter _ l.nodup_parties

/-- Paying the incomes raises the balance of a party in play by its income, if that is above zero,
and no other balance. -/
theorem balance_payIncome (l : Ledger) (party : String) :
    (l.creditAll l.incomesDue).balance party =
      if party ∈ l.roster.parties ∧ 0 < l.incomeOf party then l.balance party + l.incomeOf party
      else l.balance party := by
  split
  · next h =>
      exact balance_creditAll_of_nodup l.nodup_incomesDue (mem_incomesDue.2 ⟨h.1, rfl, h.2⟩)
  · next h => exact balance_creditAll_of_notMem (mt mem_names_incomesDue.1 h)

end ShareLedger.Ledger
