import Mathlib.Algebra.BigOperators.Group.List.Basic
import ShareLedger.Proofs.Acceptance
import ShareLedger.Proofs.Balance
import ShareLedger.Proofs.Funds
/-!
# Proofs.Commuting

Payments can be made in any order.

1. What a party gets from credits is what is due to it all in all
   (`Ledger.toInt_balance_creditAll`), and cash is entered for whoever is named and not floated,
   whatever the order.  So credits in another order lead to the same ledger
   (`Ledger.creditAll_perm`), as long as no balance passes a bound on the way.
2. A payment gives, takes or moves money, or pays a dividend of an amount that is not looked up in
   the log.  It does nothing but credit accounts, and what it credits depends on nothing that
   payments change (`Ledger.credits_creditAll`).
3. So payments in another order lead to the same ledger, too (`Session.ledger_actAll_perm`).
-/

namespace ShareLedger

open Amount (Fits)

/-! ## Credits in any order -/

namespace Ledger

/-- What is due to a party all in all. -/
def dueTo (party : String) (cs : List (String × Amount)) : Int :=
  ((cs.filter (·.1 = party)).map (·.2.toInt)).sum

variable {l : Ledger} {party : String} {cs cs' : List (String × Amount)}

theorem dueTo_cons (party : String) (c : String × Amount) (cs : List (String × Amount)) :
    dueTo party (c :: cs) = (if party = c.1 then c.2.toInt else 0) + dueTo party cs := by
  unfold dueTo
  by_cases h : c.1 = party
  · simp [h]
  · simp [h, Ne.symm h]

theorem dueTo_perm (h : cs.Perm cs') (party : String) : dueTo party cs = dueTo party cs' :=
  ((h.filter _).map _).sum_eq

/-- **A party gets what is due to it**, as long as no balance passes a bound. -/
theorem toInt_balance_creditAll (h : ∀ n ∈ l.creditSums cs, Fits n) (party : String) :
    ((l.creditAll cs).balance party).toInt = (l.balance party).toInt + dueTo party cs := by
  induction cs generalizing l with
  | nil => simp [dueTo]
  | cons c cs ih =>
      have hfirst : Fits ((l.balance c.1).toInt + c.2.toInt) := h _ List.mem_cons_self
      have hrest := ih fun n hn => h n (List.mem_cons_of_mem _ hn)
      rw [creditAll_cons, hrest, balance_credit, dueTo_cons]
      by_cases hparty : party = c.1
      · rw [if_pos hparty, if_pos hparty, hparty, Amount.toInt_add_of_fits hfirst]
        omega
      · rw [if_neg hparty, if_neg hparty]
        omega

/-- Credits leave the cash of a floated company as it was. -/
theorem get?_cash_creditAll (h : l.isFloated party) (cs : List (String × Amount)) :
    (l.creditAll cs).cash.get? party = l.cash.get? party := by
  induction cs generalizing l with
  | nil => rfl
  | cons c cs ih =>
      have hfloated : (l.credit c.1 c.2).isFloated party := by
        simpa [h] using isFloated_creditAll l [c] party
      rw [creditAll_cons, ih hfloated, cash_credit]
      split
      · rfl
      · next hother =>
          have hne : party ≠ c.1 := fun heq => hother (heq ▸ h)
          rw [Book.get?_insert, if_neg hne]

/-- Cash is entered for whoever has some or is named, unless it is a floated company. -/
theorem contains_cash_creditAll (h : l.isFloated party = false) (cs : List (String × Amount)) :
    (l.creditAll cs).cash.contains party ↔ l.cash.contains party ∨ party ∈ cs.map (·.1) := by
  induction cs generalizing l with
  | nil => simp
  | cons c cs ih =>
      have hfloated : (l.credit c.1 c.2).isFloated party = false := by
        simpa [h] using isFloated_creditAll l [c] party
      have hfirst : (l.credit c.1 c.2).cash.contains party ↔
          l.cash.contains party ∨ party = c.1 := by
        rw [cash_credit]
        by_cases hparty : party = c.1
        · rw [if_neg (by simp [← hparty, h]), Book.contains_insert]
          simp [hparty]
        · split
          · simp [hparty]
          · rw [Book.contains_insert]
            simp [hparty]
      rw [creditAll_cons, ih hfloated, hfirst, List.map_cons, List.mem_cons, or_assoc]

/-- Who is floated has its balance as its treasury. -/
theorem treasury?_eq (l : Ledger) (party : String) :
    l.treasury? party = if l.isFloated party then some (l.balance party) else none := by
  unfold isFloated balance
  cases l.treasury? party <;> simp

/-- Who is not floated has its balance as its cash, if any is entered. -/
theorem get?_cash_eq (h : l.isFloated party = false) :
    l.cash.get? party = if l.cash.contains party then some (l.balance party) else none := by
  have hnone : l.treasury? party = none := by simpa [isFloated] using h
  unfold balance Book.contains cashOf
  rw [hnone]
  cases l.cash.get? party <;> simp

/-- Credits that name the same parties and lead to the same balances lead to the same ledger. -/
theorem creditAll_eq_of_balance
    (hnames : ∀ party, party ∈ cs.map (·.1) ↔ party ∈ cs'.map (·.1))
    (hbalance : ∀ party, (l.creditAll cs).balance party = (l.creditAll cs').balance party) :
    l.creditAll cs = l.creditAll cs' := by
  have htreasuries : (l.creditAll cs).treasuries = (l.creditAll cs').treasuries := by
    apply Book.ext_get?
    intro party
    have h := treasury?_eq (l.creditAll cs) party
    have h' := treasury?_eq (l.creditAll cs') party
    rw [isFloated_creditAll] at h h'
    rw [← hbalance] at h'
    exact h.trans h'.symm
  have hcash : (l.creditAll cs).cash = (l.creditAll cs').cash := by
    apply Book.ext_get?
    intro party
    cases hfloated : l.isFloated party with
    | true => rw [get?_cash_creditAll hfloated, get?_cash_creditAll hfloated]
    | false =>
        have hentered : (l.creditAll cs).cash.contains party =
            (l.creditAll cs').cash.contains party := by
          rw [Bool.eq_iff_iff, contains_cash_creditAll hfloated, contains_cash_creditAll hfloated,
            hnames]
        have hstill (ds : List (String × Amount)) : (l.creditAll ds).isFloated party = false := by
          rw [isFloated_creditAll, hfloated]
        rw [get?_cash_eq (hstill cs), get?_cash_eq (hstill cs'), hbalance, hentered]
  rw [creditAll_eq l cs, creditAll_eq l cs', htreasuries, hcash]

/-- **Credits lead to the same ledger in any order**, as long as no balance passes a bound. -/
theorem creditAll_perm (hperm : cs.Perm cs') (hfits : ∀ n ∈ l.creditSums cs, Fits n)
    (hfits' : ∀ n ∈ l.creditSums cs', Fits n) : l.creditAll cs = l.creditAll cs' := by
  -- An order between the two may pass a bound, so that neighbours cannot be swapped one by one.
  refine creditAll_eq_of_balance (fun party => (hperm.map (·.1)).mem_iff) fun party => ?_
  apply Amount.ext
  rw [toInt_balance_creditAll hfits, toInt_balance_creditAll hfits', dueTo_perm hperm]

/-- Credits that name nobody twice lead to the same ledger in any order, beyond the bounds, too. -/
theorem creditAll_perm_of_nodup (hperm : cs.Perm cs') (hnodup : (cs.map (·.1)).Nodup) :
    l.creditAll cs = l.creditAll cs' := by
  have hnames (party : String) : party ∈ cs.map (·.1) ↔ party ∈ cs'.map (·.1) :=
    (hperm.map (·.1)).mem_iff
  have hnodup' : (cs'.map (·.1)).Nodup := (hperm.map (·.1)).nodup_iff.1 hnodup
  refine creditAll_eq_of_balance hnames fun party => ?_
  by_cases hparty : party ∈ cs.map (·.1)
  · obtain ⟨⟨_, sum⟩, hmem, rfl⟩ := List.mem_map.1 hparty
    rw [balance_creditAll_of_nodup hnodup hmem,
      balance_creditAll_of_nodup hnodup' (hperm.mem_iff.1 hmem)]
  · have hparty' : party ∉ cs'.map (·.1) := mt (hnames party).2 hparty
    rw [balance_creditAll_of_notMem hparty, balance_creditAll_of_notMem hparty']

/-- Credits leave the accounts of those whom they do not name as they were. -/
theorem accounts_creditAll_of_notMem (h : party ∉ cs.map (·.1)) :
    (l.creditAll cs).cash.get? party = l.cash.get? party ∧
      (l.creditAll cs).treasury? party = l.treasury? party := by
  have hbalance : (l.creditAll cs).balance party = l.balance party := balance_creditAll_of_notMem h
  have htreasury : (l.creditAll cs).treasury? party = l.treasury? party := by
    rw [treasury?_eq, treasury?_eq l, isFloated_creditAll, hbalance]
  refine ⟨?_, htreasury⟩
  cases hfloated : l.isFloated party with
  | true => exact get?_cash_creditAll hfloated cs
  | false =>
      have hstill : (l.creditAll cs).isFloated party = false := by
        rw [isFloated_creditAll, hfloated]
      rw [get?_cash_eq hstill, get?_cash_eq hfloated, contains_cash_creditAll_of_notMem h, hbalance]

theorem creditAll_append (l : Ledger) (cs cs' : List (String × Amount)) :
    l.creditAll (cs ++ cs') = (l.creditAll cs).creditAll cs' := by
  unfold creditAll
  rw [List.foldl_append]

theorem creditSums_append (l : Ledger) (cs cs' : List (String × Amount)) :
    l.creditSums (cs ++ cs') = l.creditSums cs ++ (l.creditAll cs).creditSums cs' := by
  induction cs generalizing l with
  | nil => rfl
  | cons c cs ih =>
      rw [List.cons_append, creditSums, creditSums, ih, creditAll_cons, List.cons_append]

end Ledger

/-! ## Payments as operations -/

/-- Operations that give, take or move money or pay a dividend. -/
inductive Operation.IsPayment : Operation → Prop
  | changeCash (party : String) (sum : Amount) : IsPayment (.changeCash party sum)
  | moveCash (giver receiver : String) (sum : Amount) : IsPayment (.moveCash giver receiver sum)
  | payDividends (company : String) (perShare : Amount) : IsPayment (.payDividends company perShare)
  | payHalfDividends (company : String) (total : Amount) :
    IsPayment (.payHalfDividends company total)

namespace Ledger

variable {l : Ledger} {op : Operation} {ops ops' : List Operation}

/-- The exact balances that operations in order lead to. -/
def balancesAll : Ledger → List Operation → List Int
  | _, [] => []
  | l, op :: ops => l.creditSums (l.credits op) ++ (l.after op).balancesAll ops

/-- A payment does nothing but credit accounts. -/
theorem after_payment (h : op.IsPayment) : l.after op = l.creditAll (l.credits op) := by
  unfold after
  cases hrun : l.run op with
  | error e => cases h <;> cases hrun
  | ok p =>
      have hstages := run_stages hrun
      cases h <;> exact hstages

/-- What a payment credits does not depend on what credits change. -/
theorem credits_creditAll (h : op.IsPayment) (cs : List (String × Amount)) :
    (l.creditAll cs).credits op = l.credits op := by
  cases h with
  | changeCash _ _ | moveCash _ _ _ => rfl
  | payDividends _ _ | payHalfDividends _ _ => rw [creditAll_eq]; rfl

/-- Payments in order credit what each of them would credit by itself. -/
theorem afterAll_payments (h : ∀ op ∈ ops, op.IsPayment) :
    l.afterAll ops = l.creditAll (ops.flatMap l.credits) ∧
      l.balancesAll ops = l.creditSums (ops.flatMap l.credits) := by
  induction ops generalizing l with
  | nil => exact ⟨rfl, rfl⟩
  | cons op ops ih =>
      obtain ⟨hop, hops⟩ := List.forall_mem_cons.1 h
      have hafter : l.after op = l.creditAll (l.credits op) := after_payment hop
      have hlater : ops.flatMap (l.after op).credits = ops.flatMap l.credits := by
        apply List.flatMap_congr
        intro later hmem
        rw [hafter, credits_creditAll (hops later hmem)]
      obtain ⟨hledger, hbalances⟩ := ih (l := l.after op) hops
      rw [hlater, hafter] at hledger hbalances
      constructor
      · rw [List.flatMap_cons, creditAll_append, ← hledger, ← hafter]
        rfl
      · rw [balancesAll, hafter, hbalances, List.flatMap_cons, creditSums_append]

/-- **Payments lead to the same ledger in any order**, as long as no balance passes a bound. -/
theorem afterAll_perm (hpay : ∀ op ∈ ops, op.IsPayment) (hperm : ops.Perm ops')
    (hfits : ∀ n ∈ l.balancesAll ops, Fits n) (hfits' : ∀ n ∈ l.balancesAll ops', Fits n) :
    l.afterAll ops = l.afterAll ops' := by
  have hpay' : ∀ op ∈ ops', op.IsPayment := fun op hop => hpay op (hperm.mem_iff.2 hop)
  obtain ⟨hledger, hbalances⟩ := afterAll_payments (l := l) hpay
  obtain ⟨hledger', hbalances'⟩ := afterAll_payments (l := l) hpay'
  rw [hbalances] at hfits
  rw [hbalances'] at hfits'
  rw [hledger, hledger', creditAll_perm (hperm.flatMap_right l.credits) hfits hfits']

end Ledger

/-! ## Payments as commands -/

/-- Commands that give, take or move money, or pay a dividend without looking its amount up. -/
def Action.IsPayment (a : Action) : Prop :=
  a.verb = some .cash ∨ a.verb = some .give ∨
    (a.verb = some .dividend ∨ a.verb = some .halfDividend) ∧ a.refersToPrevious = false

instance (a : Action) : Decidable a.IsPayment := inferInstanceAs (Decidable (_ ∨ _ ∨ _))

namespace Action

variable {a : Action}

/-- What a payment asks for does not depend on the log. -/
theorem IsPayment.operation_eq (h : a.IsPayment) (log log' : List String) :
    a.operation log = a.operation log' := by
  obtain hcash | hgive | ⟨hdividend, hnumber⟩ := h
  · exact operation_eq_of_not_dividend (by simp [hcash]) (by simp [hcash]) log log'
  · exact operation_eq_of_not_dividend (by simp [hgive]) (by simp [hgive]) log log'
  · obtain hverb | hverb := hdividend <;> simp [operation, dividendAmount, hverb, hnumber]

theorem IsPayment.operation {log : List String} {op : Operation} (h : a.IsPayment)
    (hop : a.operation log = .ok op) : op.IsPayment := by
  have hverb := verb_eq_of_operation hop
  have hpays : op.verb ∈ [some Verb.cash, some .give, some .dividend, some .halfDividend] := by
    rw [← hverb]
    obtain h | h | ⟨h | h, -⟩ := h <;> simp [h]
  cases op with
  | changeCash party sum => exact .changeCash party sum
  | moveCash giver receiver sum => exact .moveCash giver receiver sum
  | payDividends company perShare => exact .payDividends company perShare
  | payHalfDividends company total => exact .payHalfDividends company total
  | _ => simp [Operation.verb] at hpays

/-- The operations that actions ask for, those left out that are refused. -/
def operations (log : List String) (as : List Action) : List Operation :=
  as.filterMap fun a => (a.operation log).toOption

theorem isPayment_of_mem_operations {log : List String} {as : List Action} {op : Operation}
    (h : ∀ a ∈ as, a.IsPayment) (hop : op ∈ operations log as) : op.IsPayment := by
  obtain ⟨a, hmem, ha⟩ := List.mem_filterMap.1 hop
  cases hasked : a.operation log with
  | error e => rw [hasked] at ha; cases ha
  | ok asked =>
      rw [hasked] at ha
      obtain rfl := Option.some.inj ha
      exact (h a hmem).operation hasked

end Action

namespace Session

variable {s : Session} {as bs : List Action}

/-- The session after actions in order; what is refused changes nothing. -/
def actAll (s : Session) (as : List Action) : Session := s.turnAll (as.map .act)

/-- The exact balances that actions in order lead to. -/
def balancesAll : Session → List Action → List Int
  | _, [] => []
  | s, a :: as =>
    (match a.operation s.events with
      | .ok op => s.ledger.creditSums (s.ledger.credits op)
      | .error _ => []) ++ (s.turn (.act a)).balancesAll as

theorem ledger_act (s : Session) (a : Action) :
    (s.turn (.act a)).ledger =
      match a.operation s.events with
      | .ok op => s.ledger.after op
      | .error _ => s.ledger := by
  have hattempt : s.attempt (.act a) = s.perform a := rfl
  unfold turn Ledger.after
  rw [hattempt, perform, Ledger.apply_eq]
  cases a.operation s.events with
  | error e => rfl
  | ok op =>
      rw [ok_bind]
      dsimp only
      cases s.ledger.run op <;> rfl

/-- Payments carry out their operations, wherever they stand in the log. -/
theorem ledger_actAll (h : ∀ a ∈ as, a.IsPayment) (log : List String) :
    (s.actAll as).ledger = s.ledger.afterAll (Action.operations log as) ∧
      s.balancesAll as = s.ledger.balancesAll (Action.operations log as) := by
  induction as generalizing s with
  | nil => exact ⟨rfl, rfl⟩
  | cons a as ih =>
      obtain ⟨ha, has⟩ := List.forall_mem_cons.1 h
      obtain ⟨hledger, hbalances⟩ := ih (s := s.turn (.act a)) has
      have hfirst := s.ledger_act a
      rw [ha.operation_eq s.events log] at hfirst
      have hall : (s.actAll (a :: as)).ledger = ((s.turn (.act a)).actAll as).ledger := rfl
      rw [hall, hledger, balancesAll, hbalances, ha.operation_eq s.events log]
      unfold Action.operations
      cases hop : a.operation log with
      | error e =>
          rw [hop] at hfirst
          rw [List.filterMap_cons_none (by rw [hop]; rfl), hfirst]
          exact ⟨rfl, rfl⟩
      | ok op =>
          rw [hop] at hfirst
          rw [List.filterMap_cons_some (b := op) (by rw [hop]; rfl), hfirst]
          exact ⟨rfl, rfl⟩

/-- **Payments can be made in any order**: the ledger is the same in the end, with the same entries
in all its books, as long as no balance passes a bound in either order. -/
theorem ledger_actAll_perm (hpay : ∀ a ∈ as, a.IsPayment) (hperm : as.Perm bs)
    (hfits : ∀ n ∈ s.balancesAll as, Fits n) (hfits' : ∀ n ∈ s.balancesAll bs, Fits n) :
    (s.actAll as).ledger = (s.actAll bs).ledger := by
  have hpay' : ∀ b ∈ bs, b.IsPayment := fun b hb => hpay b (hperm.mem_iff.2 hb)
  obtain ⟨hledger, hbalances⟩ := ledger_actAll (s := s) hpay []
  obtain ⟨hledger', hbalances'⟩ := ledger_actAll (s := s) hpay' []
  rw [hbalances] at hfits
  rw [hbalances'] at hfits'
  rw [hledger, hledger']
  exact Ledger.afterAll_perm (fun op => Action.isPayment_of_mem_operations hpay)
    (hperm.filterMap _) hfits hfits'

/-- A company that pays, holds its own shares and gives money away, and a party whose account is
made by the first payment that it receives. -/
theorem ledger_actAll_perm_reversed :
    let s := replay "test" ["cr float 100", "mikko buy 3 cr", "cr buy 2 cr", "nooa buy 4 cr"] "$"
    let as := ["cr halfdividend 95", "cr pays 7", "cr give 5 to paju", "mikko cash -40"].map
      Action.read
    (s.actAll as).ledger = (s.actAll as.reverse).ledger := by
  intro s as
  have hpay : ∀ a ∈ as, a.IsPayment := by decide +kernel
  have hfits : ∀ n ∈ s.balancesAll as, Fits n := by decide +kernel
  have hfits' : ∀ n ∈ s.balancesAll as.reverse, Fits n := by decide +kernel
  exact ledger_actAll_perm hpay as.reverse_perm.symm hfits hfits'

end Session
end ShareLedger
