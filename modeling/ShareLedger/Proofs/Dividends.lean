import ShareLedger.Proofs.Commuting
import ShareLedger.Proofs.Holders
import ShareLedger.Proofs.Rounding
/-!
# Proofs.Dividends

A dividend is credited to the holders of a company and to nobody else.

1. The payouts of a company name every party whose holding is worth a payout, once, and nobody else
   (`Ledger.mem_payouts`, `Ledger.nodup_payouts`).  They are worked out before the first of them is
   credited, so no payout changes another one.
2. So every balance is raised by the payout of the party's own holding, be it zero
   (`Ledger.balance_creditAll_payouts`), and whom no payout names keeps the accounts it has.
3. A half dividend first credits the company with what it keeps.  That changes no holding, and the
   company's own shares are paid like all others.
4. What both kinds of dividend do is stated once (`PaysHolders`) and holds of every ledger, beyond
   the bounds of an amount, too; so does paying the holders in another order
   (`Ledger.dividends_credit_holders`).
-/

namespace ShareLedger

open Amount (Fits)

/-- What a dividend of a company makes of a ledger: `kept` is what the company puts into its own
account, if it keeps a part, and `due` what a party receives for its shares. -/
structure PaysHolders (l l' : Ledger) (company : String) (kept : Option Amount)
    (due : String → Amount) : Prop where
  balance : ∀ party, l'.balance party =
    (if party = company then l.balance party + kept.getD 0 else l.balance party) + due party
  /-- Whoever receives and keeps nothing has the accounts it had, and no new one. -/
  accounts : ∀ party, due party = 0 → (party = company → kept = none) →
    l'.cash.get? party = l.cash.get? party ∧ l'.treasury? party = l.treasury? party
  /-- The cash of a floated party lies idle. -/
  idle : ∀ party, l.isFloated party → l'.cash.get? party = l.cash.get? party
  rest : l' = { l with cash := l'.cash, treasuries := l'.treasuries }

namespace Ledger

variable {l : Ledger} {company party : String} {numerator sum : Amount} {denominator : Nat}

/-! ## Payouts -/

theorem payout_zero (numerator : Amount) (denominator : Nat) :
    payout 0 numerator denominator = 0 := by
  have hproduct : (0 * numerator : Amount) = 0 := by
    apply Amount.ext
    rw [Amount.toInt_mul, Amount.toInt_zero, Int.zero_mul]
    decide
  apply Amount.ext
  rw [payout, hproduct, Amount.floorDiv, Amount.toInt_zero, Int.zero_ediv]
  decide

/-- A payout is the whole part of what the shares are due, their product being brought between the
bounds. -/
theorem toInt_payout (n numerator : Amount) (hd : 0 < denominator) :
    (payout n numerator denominator).toInt =
      (Amount.clamp (n.toInt * numerator.toInt)).toInt / denominator := by
  rw [payout, Amount.toInt_floorDiv _ hd, Amount.toInt_mul]

/-- The payouts are those of the holdings, those left out that are zero. -/
theorem mem_payouts :
    (party, sum) ∈ l.payouts company numerator denominator ↔
      sum = payout (l.holding party company) numerator denominator ∧ sum ≠ 0 := by
  simp only [payouts, List.mem_filter, List.mem_map, Prod.exists, Prod.mk.injEq, decide_eq_true_eq]
  constructor
  · rintro ⟨⟨owner, n, hholder, rfl, rfl⟩, hsum⟩
    obtain ⟨rfl, -⟩ := mem_holders.1 hholder
    exact ⟨rfl, hsum⟩
  · rintro ⟨rfl, hsum⟩
    have hheld : l.holding party company ≠ 0 := by
      intro hnone
      rw [hnone, payout_zero] at hsum
      exact hsum rfl
    exact ⟨⟨party, _, mem_holders.2 ⟨rfl, hheld⟩, rfl, rfl⟩, hsum⟩

/-- Nobody is paid twice. -/
theorem nodup_payouts (l : Ledger) (company : String) (numerator : Amount) (denominator : Nat) :
    ((l.payouts company numerator denominator).map (·.1)).Nodup := by
  have hsublist : ((l.payouts company numerator denominator).map (·.1)).Sublist
      ((l.holders company).map (·.1)) := by
    have hnames : (l.holders company).map (·.1) =
        ((l.holders company).map fun h => (h.1, payout h.2 numerator denominator)).map (·.1) := by
      simp [Function.comp_def]
    rw [hnames]
    exact List.filter_sublist.map _
  exact hsublist.nodup (l.nodup_holders company)

theorem notMem_payouts (h : payout (l.holding party company) numerator denominator = 0) :
    party ∉ (l.payouts company numerator denominator).map (·.1) := by
  intro hmem
  obtain ⟨⟨_, sum⟩, hpaid, rfl⟩ := List.mem_map.1 hmem
  obtain ⟨rfl, hsum⟩ := mem_payouts.1 hpaid
  exact hsum h

/-! ## Crediting the payouts -/

/-- Crediting the payouts raises every balance by the payout of the party's own holding. -/
theorem balance_creditAll_payouts (l₁ : Ledger) (party : String) :
    (l₁.creditAll (l.payouts company numerator denominator)).balance party =
      l₁.balance party + payout (l.holding party company) numerator denominator := by
  by_cases hzero : payout (l.holding party company) numerator denominator = 0
  · rw [balance_creditAll_of_notMem (notMem_payouts hzero), hzero, Amount.add_zero]
  · exact balance_creditAll_of_nodup (l.nodup_payouts company numerator denominator)
      (mem_payouts.2 ⟨rfl, hzero⟩)

/-- What a company keeps of a dividend, as a credit. -/
def keeping (company : String) (kept : Option Amount) : List (String × Amount) :=
  kept.toList.map fun n => (company, n)

/-- Keeping a part and crediting the payouts is all that paying the holders takes. -/
theorem paysHolders_creditAll (l : Ledger) (company : String) (kept : Option Amount)
    (numerator : Amount) (denominator : Nat) :
    PaysHolders l
      ((l.creditAll (keeping company kept)).creditAll (l.payouts company numerator denominator))
      company kept fun party => payout (l.holding party company) numerator denominator where
  balance party := by
    rw [balance_creditAll_payouts]
    congr 1
    cases kept with
    | none => simp [keeping, Amount.add_zero]
    | some n => simp [keeping, balance_credit]
  accounts party hzero hkept := by
    have hpaid := notMem_payouts hzero
    have hkeeping : party ∉ (keeping company kept).map (·.1) := by
      cases kept with
      | none => simp [keeping]
      | some n => simpa [keeping] using hkept
    rw [← creditAll_append]
    refine accounts_creditAll_of_notMem ?_
    rw [List.map_append, List.mem_append, not_or]
    exact ⟨hkeeping, hpaid⟩
  idle party hfloated := by
    rw [← creditAll_append]
    exact get?_cash_creditAll hfloated _
  rest := by
    rw [← creditAll_append]
    exact creditAll_eq l _

/-! ## Dividends -/

theorem payDividends_ledger (l : Ledger) (company : String) (perShare : Amount) :
    (l.payDividends company perShare).ledger =
      (l.creditAll (keeping company none)).creditAll (l.payouts company perShare 1) :=
  distribute_ledger l company perShare 1

theorem payHalfDividends_ledger (l : Ledger) (company : String) (total : Amount) :
    let kept := l.rounding.retained total
    (l.payHalfDividends company total).ledger =
      (l.creditAll (keeping company (some kept))).creditAll
        (l.payouts company (total - kept) 10) := by
  have hrun : l.run (.payHalfDividends company total) = .ok _ := rfl
  exact run_stages hrun

/-- Whoever of the holders comes first, the ledger is the same in the end. -/
theorem foldl_payHolder_perm {hs : List (String × Amount)} (l₁ : Ledger)
    (hperm : hs.Perm (l.holders company)) :
    (hs.foldl (payHolder company numerator denominator) ⟨l₁, ""⟩).ledger =
      l₁.creditAll (l.payouts company numerator denominator) := by
  rw [foldl_payHolder_ledger]
  have hpayouts := (hperm.map fun h => (h.1, payout h.2 numerator denominator)).filter
    fun c => decide (c.2 ≠ 0)
  exact (creditAll_perm_of_nodup hpayouts.symm
    (l.nodup_payouts company numerator denominator)).symm

/-- **Dividends are credited to the holders**: a dividend and a half dividend raise every balance by
what the party's own holding is due, the half dividend the company's also by what it keeps, and
change nothing else, in whatever order the holders are paid. -/
theorem dividends_credit_holders (l : Ledger) (company : String) (amount : Amount) :
    let kept := l.rounding.retained amount
    let due (numerator : Amount) (denominator : Nat) (party : String) : Amount :=
      payout (l.holding party company) numerator denominator
    PaysHolders l (l.payDividends company amount).ledger company none (due amount 1) ∧
      PaysHolders l (l.payHalfDividends company amount).ledger company (some kept)
        (due (amount - kept) 10) ∧
      (∀ party,
        let whole := (l.holding party company).toInt * amount.toInt
        let half := (l.holding party company).toInt * (amount.toInt - kept.toInt)
        (due amount 1 party).toInt = (Amount.clamp whole).toInt ∧
          (Fits whole → (due amount 1 party).toInt = whole) ∧
          (due (amount - kept) 10 party).toInt = (Amount.clamp half).toInt / 10 ∧
          (Fits half → (due (amount - kept) 10 party).toInt = half / 10)) ∧
      ∀ hs : List (String × Amount), hs.Perm (l.holders company) →
        (hs.foldl (payHolder company amount 1) ⟨l, ""⟩).ledger =
            (l.payDividends company amount).ledger ∧
          (hs.foldl (payHolder company (amount - kept) 10) ⟨l.credit company kept, ""⟩).ledger =
            (l.payHalfDividends company amount).ledger := by
  intro kept due
  have hrest : (amount - kept).toInt = amount.toInt - kept.toInt :=
    l.rounding.toInt_sub_retained amount
  refine ⟨?_, ?_, fun party => ?_, fun hs hperm => ⟨?_, ?_⟩⟩
  · rw [payDividends_ledger]
    exact paysHolders_creditAll l company none amount 1
  · rw [payHalfDividends_ledger]
    exact paysHolders_creditAll l company (some kept) (amount - kept) 10
  · intro whole half
    have hdue : (due amount 1 party).toInt = (Amount.clamp whole).toInt := by
      rw [toInt_payout _ _ Nat.one_pos, Nat.cast_one, Int.ediv_one]
    have hdue' : (due (amount - kept) 10 party).toInt = (Amount.clamp half).toInt / 10 := by
      rw [toInt_payout _ _ (by omega), hrest]
      rfl
    refine ⟨hdue, fun hfits => ?_, hdue', fun hfits => ?_⟩
    · rw [hdue, Amount.toInt_clamp_of_fits hfits.1 hfits.2]
    · rw [hdue', Amount.toInt_clamp_of_fits hfits.1 hfits.2]
  · rw [foldl_payHolder_perm l hperm]
    exact (payDividends_ledger l company amount).symm
  · rw [foldl_payHolder_perm (l.credit company kept) hperm]
    exact (payHalfDividends_ledger l company amount).symm

/-- A floated company that holds two of its shares keeps 40 of 95 and receives 11 of the rest; the
cash from before it floated stays, and who has sold its last share gets no account. -/
theorem dividends_credit_holders_company :
    let l := (empty "$").afterAll
      [.changeCash "CR" 7, .float "CR" 100, .buy "CR" "CR" 2 0 none, .buy "MIKKO" "CR" 3 0 none,
        .buy "PAJU" "CR" 1 0 none, .sell "PAJU" "CR" 1 0]
    let paid := (l.payHalfDividends "CR" 95).ledger
    l.isFloated "CR" = true ∧ paid.balance "CR" = 151 ∧ paid.cash.get? "CR" = some 7 ∧
      paid.cash.get? "PAJU" = none ∧ (l.holders "CR").reverse.Perm (l.holders "CR") ∧
      ((l.holders "CR").reverse.foldl (payHolder "CR" (95 - 40) 10) ⟨l.credit "CR" 40, ""⟩).ledger =
        paid := by
  intro l paid
  have hkept : l.rounding.retained 95 = 40 := by decide +kernel
  have hfloated : l.isFloated "CR" = true := by decide +kernel
  have hnothing : payout (l.holding "PAJU" "CR") (95 - l.rounding.retained 95) 10 = 0 := by
    decide +kernel
  have hreverse : (l.holders "CR").reverse.Perm (l.holders "CR") := List.reverse_perm _
  obtain ⟨-, hhalf, -, horder⟩ := dividends_credit_holders l "CR" 95
  have hbalance : paid.balance "CR" = 151 := (hhalf.balance "CR").trans (by decide +kernel)
  have hidle : paid.cash.get? "CR" = some 7 := (hhalf.idle "CR" hfloated).trans (by decide +kernel)
  have hnone : paid.cash.get? "PAJU" = none :=
    (hhalf.accounts "PAJU" hnothing (by decide)).1.trans (by decide +kernel)
  obtain ⟨-, hsame⟩ := horder _ hreverse
  rw [hkept] at hsame
  exact ⟨hfloated, hbalance, hidle, hnone, hreverse, hsame⟩

end Ledger
end ShareLedger
