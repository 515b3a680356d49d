import ShareLedger.Proofs.Operation
/-!
# Proofs.BankFrame

The bank set aside.  Only setting the bank size reads or changes the bank; every other operation is
carried out whatever the bank is, and does the same to the rest of the ledger
(`Ledger.run_withBank`).
-/

namespace ShareLedger

namespace Ledger

/-- The ledger with another bank. -/
def withBank (l : Ledger) (bank : Bank) : Ledger := { l with bank }

@[simp] theorem withBank_bank (l : Ledger) : l.withBank l.bank = l := rfl

@[simp] theorem bank_withBank (l : Ledger) (bank : Bank) : (l.withBank bank).bank = bank := rfl

@[simp] theorem withBank_withBank (l : Ledger) (bank bank' : Bank) :
    (l.withBank bank).withBank bank' = l.withBank bank' := rfl

@[simp] theorem defaultCurrency_withBank (l : Ledger) (bank : Bank) :
    (l.withBank bank).defaultCurrency = l.defaultCurrency := rfl

theorem tradeAll_withBank (l : Ledger) (bank : Bank) (ts : List Trade) :
    (l.withBank bank).tradeAll ts = (l.tradeAll ts).withBank bank := by
  induction ts generalizing l with
  | nil => rfl
  | cons t ts ih =>
      rw [tradeAll_cons, tradeAll_cons, ← ih]
      rfl

theorem creditAll_withBank (l : Ledger) (bank : Bank) (cs : List (String × Amount)) :
    (l.withBank bank).creditAll cs = (l.creditAll cs).withBank bank := by
  have hbooks : (l.withBank bank).creditAll cs =
      { l.withBank bank with
        cash := (l.creditAll cs).cash
        treasuries := (l.creditAll cs).treasuries } :=
        creditAll_of_books (l := l) (by rfl) (by rfl) cs
  rw [hbooks, creditAll_eq l]
  rfl

/-- The bank has no say in what is credited. -/
theorem credits_withBank (l : Ledger) (bank : Bank) (op : Operation) :
    (l.withBank bank).credits op = l.credits op := by
  cases op with
  | buy buyer company n price seller => cases seller <;> rfl
  | nextRound kind => cases kind <;> rfl
  | _ => rfl

theorem settle_withBank {op : Operation} (h : ∀ size symbol, op ≠ .setBankSize size symbol)
    (l : Ledger) (bank : Bank) : op.settle (l.withBank bank) = (op.settle l).withBank bank := by
  cases op with
  | setBankSize size symbol => exact absurd rfl (h size symbol)
  | setValue _ value | setIncome _ value => cases value <;> rfl
  | _ => rfl

/-- An operation that is carried out is carried out whatever the bank is, and except for setting
the bank size it does the same to the rest of the ledger and nothing to the bank. -/
theorem run_withBank {l : Ledger} {op : Operation} {p : Posting} (hrun : l.run op = .ok p)
    (h : ∀ size symbol, op ≠ .setBankSize size symbol) (bank : Bank) :
    ∃ p', (l.withBank bank).run op = .ok p' ∧ p'.ledger = p.ledger.withBank bank := by
  have haccepted : ∃ p', (l.withBank bank).run op = .ok p' := by
    cases op with
    | setBankSize size symbol => exact absurd rfl (h size symbol)
    | setValue _ value | setIncome _ value =>
        cases value with
        | none => cases hrun
        | some n => exact ⟨_, rfl⟩
    | _ => exact ⟨_, rfl⟩
  obtain ⟨p', hrun'⟩ := haccepted
  refine ⟨p', hrun', ?_⟩
  rw [run_stages hrun', run_stages hrun, credits_withBank, tradeAll_withBank, creditAll_withBank,
    settle_withBank h]

theorem bank_run {l : Ledger} {op : Operation} {p : Posting} (hrun : l.run op = .ok p)
    (h : ∀ size symbol, op ≠ .setBankSize size symbol) : p.ledger.bank = l.bank := by
  obtain ⟨p', hrun', hledger⟩ := run_withBank hrun h l.bank
  rw [withBank_bank, hrun] at hrun'
  obtain rfl := Except.ok.inj hrun'
  rw [hledger, bank_withBank]

theorem run_setBankSize (l : Ledger) {size : Amount} (symbol : Option String) (h : size ≠ 0) :
    ∃ p, l.run (.setBankSize size symbol) = .ok p ∧
      p.ledger = l.withBank ⟨some size, symbol.getD l.defaultCurrency⟩ := by
  simp only [run, setBankSize, if_neg h]
  exact ⟨_, rfl, rfl⟩

/-- The currency of the game is never changed. -/
theorem defaultCurrency_run {l : Ledger} {op : Operation} {p : Posting} (h : l.run op = .ok p) :
    p.ledger.defaultCurrency = l.defaultCurrency := by
  have hsettle (l : Ledger) : (op.settle l).defaultCurrency = l.defaultCurrency := by
    cases op with
    | setValue _ value | setIncome _ value => cases value <;> rfl
    | _ => rfl
  rw [run_stages h, hsettle, creditAll_eq, tradeAll_eq]

end Ledger

/-- Only a command for the bank size sets it, to its number and its symbol. -/
theorem Action.operation_eq_setBankSize {a : Action} {log : List String} {size : Amount}
    {symbol : Option String} :
    a.operation log = .ok (.setBankSize size symbol) ↔
      a.verb = some .bankSize ∧ a.quantity = some size ∧ a.object = symbol := by
  constructor
  · intro h
    have hverb : a.verb = some .bankSize := verb_eq_of_operation h
    unfold operation at h
    rw [hverb] at h
    obtain ⟨n, hn, h⟩ := bind_eq_ok.1 h
    cases h
    exact ⟨hverb, needQuantity_eq_ok.1 hn, rfl⟩
  · rintro ⟨hverb, hsize, rfl⟩
    unfold operation needQuantity
    rw [hverb, hsize]
    rfl

end ShareLedger
