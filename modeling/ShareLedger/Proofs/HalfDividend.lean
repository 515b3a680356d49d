import Mathlib.Algebra.Order.BigOperators.Group.List
import ShareLedger.Proofs.Dividends
/-!
# Proofs.HalfDividend

How far a half dividend goes.

1. What the holders of a company receive in tenths, rounded down for each of them, falls short of
   what is to be paid by less than one for each of them (`sum_tenths`, `sum_rests_le`), and by
   nothing when tenths come out even.
2. A half dividend on no more than ten shares takes from nobody and is paid out of its total, unless
   the company keeps more than the total (`Ledger.half_dividend_within_total`).  That happens when
   rounding up makes ten of a total below ten, and then the holders pay for it
   (`Ledger.half_dividend_of_five`).
3. A half dividend on ten shares is paid out up to less than one for each holder
   (`Ledger.half_dividend_fully_held`), whether its total is above or below zero.
-/

namespace ShareLedger.Ledger

open Amount (Fits)

/-! ## Payouts in tenths -/

/-- Tenths that are rounded down and the rests of the rounding make up what is paid. -/
theorem sum_tenths (hs : List (String × Amount)) (paid : Int) :
    (hs.map fun h => h.2.toInt * paid / 10).sum * 10 +
        (hs.map fun h => h.2.toInt * paid % 10).sum = (hs.map (·.2.toInt)).sum * paid := by
  induction hs with
  | nil => simp
  | cons h hs ih =>
      have hfirst : h.2.toInt * paid / 10 * 10 + h.2.toInt * paid % 10 = h.2.toInt * paid :=
        Int.ediv_mul_add_emod _ _
      simp only [List.map_cons, List.sum_cons, Int.add_mul]
      omega

theorem sum_rests_nonneg (hs : List (String × Amount)) (paid : Int) :
    0 ≤ (hs.map fun h => h.2.toInt * paid % 10).sum := by
  refine List.sum_nonneg fun n hn => ?_
  obtain ⟨h, -, rfl⟩ := List.mem_map.1 hn
  omega

/-- Every rest is at most nine. -/
theorem sum_rests_le (hs : List (String × Amount)) (paid : Int) :
    (hs.map fun h => h.2.toInt * paid % 10).sum ≤ 9 * hs.length := by
  induction hs with
  | nil => simp
  | cons h hs ih =>
      have hfirst : h.2.toInt * paid % 10 ≤ 9 := by omega
      simp only [List.map_cons, List.sum_cons, List.length_cons]
      omega

/-- Even tenths leave no rest. -/
theorem sum_rests_eq_zero (hs : List (String × Amount)) {paid : Int} (h : 10 ∣ paid) :
    (hs.map fun h => h.2.toInt * paid % 10).sum = 0 := by
  refine List.sum_eq_zero fun n hn => ?_
  obtain ⟨holder, -, rfl⟩ := List.mem_map.1 hn
  exact Int.emod_eq_zero_of_dvd (Dvd.dvd.mul_left h _)

theorem payout_nonneg {n numerator : Amount} {denominator : Nat} (hn : 0 ≤ n)
    (hnumerator : 0 ≤ numerator) (hd : 0 < denominator) : 0 ≤ payout n numerator denominator := by
  rw [Amount.le_iff, Amount.toInt_zero] at *
  have hproduct : 0 ≤ n.toInt * numerator.toInt := Int.mul_nonneg hn hnumerator
  have hclamped : 0 ≤ (Amount.clamp (n.toInt * numerator.toInt)).toInt := by
    rw [Amount.toInt_clamp]
    omega
  rw [toInt_payout n numerator hd]
  exact Int.ediv_nonneg hclamped (Int.natCast_nonneg _)

/-- A payout is at most the exact one, also where the product passes the greatest amount. -/
theorem toInt_payout_le {n numerator : Amount} {denominator : Nat}
    (h : 0 ≤ n.toInt * numerator.toInt) (hd : 0 < denominator) :
    (payout n numerator denominator).toInt ≤ n.toInt * numerator.toInt / denominator := by
  have hclamped : (Amount.clamp (n.toInt * numerator.toInt)).toInt ≤ n.toInt * numerator.toInt := by
    rw [Amount.toInt_clamp]
    omega
  rw [toInt_payout n numerator hd]
  exact Int.ediv_le_ediv (by omega) hclamped

/-! ## On at most ten shares -/

variable {l : Ledger} {company : String} {total : Amount}

/-- The payouts on at most ten shares add up to no more than is paid. -/
theorem sum_payouts_le {paid : Amount} (hcovered : l.Covered) (hten : l.sharesInPlay company ≤ 10)
    (hpaid : 0 ≤ paid) :
    ((l.holders company).map fun h => (payout h.2 paid 10).toInt).sum ≤ paid.toInt := by
  rw [Amount.le_iff, Amount.toInt_zero] at hpaid
  have hfloors : ((l.holders company).map fun h => (payout h.2 paid 10).toInt).sum ≤
      ((l.holders company).map fun h => h.2.toInt * paid.toInt / 10).sum := by
    refine List.sum_le_sum fun h hh => ?_
    obtain ⟨hheld, -⟩ := mem_holders.1 hh
    have hnonneg : 0 ≤ h.2.toInt := hheld ▸ hcovered h.1 company
    exact toInt_payout_le (Int.mul_nonneg hnonneg hpaid) (by omega)
  have htenths := sum_tenths (l.holders company) paid.toInt
  have hrests := sum_rests_nonneg (l.holders company) paid.toInt
  have hall : l.sharesInPlay company * paid.toInt ≤ 10 * paid.toInt :=
    Int.mul_le_mul_of_nonneg_right hten hpaid
  rw [sum_holders] at htenths
  omega

/-- Nobody loses money when neither what is kept nor what is paid is below zero. -/
theorem balance_le_payHalfDividends (hcovered : l.Covered)
    (hkept : 0 ≤ l.rounding.retained total) (hpaid : 0 ≤ total - l.rounding.retained total)
    (party : String) :
    l.balance party ≤ (l.payHalfDividends company total).ledger.balance party := by
  have hdue : 0 ≤ payout (l.holding party company) (total - l.rounding.retained total) 10 :=
    payout_nonneg (hcovered party company) hpaid (by omega)
  have hkeeps : l.balance party ≤
      if party = company then l.balance party + l.rounding.retained total
      else l.balance party := by
    split
    · exact Amount.le_add_of_nonneg hkept
    · exact Int.le_refl _
  rw [payHalfDividends_ledger, (paysHolders_creditAll l company _ _ 10).balance party]
  exact Int.le_trans hkeeps (Amount.le_add_of_nonneg hdue)

/-- **A half dividend takes from nobody and stays within its total** on at most ten shares, unless
rounding up makes ten of a total below ten. -/
theorem half_dividend_within_total (hcovered : l.Covered) (hten : l.sharesInPlay company ≤ 10)
    (htotal : 0 ≤ total) :
    let kept := l.rounding.retained total
    let payouts := (l.holders company).map fun h => payout h.2 (total - kept) 10
    0 ≤ kept ∧
      (kept ≤ total ↔ ¬ (l.rounding = .up ∧ 0 < total ∧ total < 10)) ∧
      (kept ≤ total →
        (∀ n ∈ payouts, 0 ≤ n) ∧
        (∀ party,
          l.balance party ≤ (l.payHalfDividends company total).ledger.balance party) ∧
        kept.toInt + (payouts.map Amount.toInt).sum ≤ total.toInt) := by
  intro kept payouts
  have hexact : kept.toInt = l.rounding.keptOf total.toInt := l.rounding.toInt_retained total
  have hrest : (total - kept).toInt = total.toInt - kept.toInt :=
    l.rounding.toInt_sub_retained total
  have hkept : 0 ≤ kept := by
    show 0 ≤ kept.toInt
    rw [hexact]
    exact Rounding.keptOf_nonneg _ htotal
  have hover : total < kept ↔ l.rounding = .up ∧ 0 < total ∧ total < 10 := by
    rw [Amount.lt_iff, hexact]
    exact Rounding.lt_keptOf _ htotal
  refine ⟨hkept, by rw [← hover]; exact Int.not_lt.symm, fun hle => ?_⟩
  have hpaid : 0 ≤ total - kept := by
    show 0 ≤ (total - kept).toInt
    rw [hrest]
    exact Int.sub_nonneg_of_le hle
  refine ⟨fun n hn => ?_, balance_le_payHalfDividends hcovered hkept hpaid, ?_⟩
  · obtain ⟨h, hh, rfl⟩ := List.mem_map.1 hn
    obtain ⟨hheld, -⟩ := mem_holders.1 hh
    have hnonneg : 0 ≤ h.2 := hheld ▸ hcovered h.1 company
    exact payout_nonneg hnonneg hpaid (by omega)
  · have hsum := sum_payouts_le hcovered hten hpaid
    rw [hrest] at hsum
    have hmap : (payouts.map Amount.toInt).sum =
        ((l.holders company).map fun h => (payout h.2 (total - kept) 10).toInt).sum := by
      simp [payouts, Function.comp_def]
    omega

/-- Three holders of eight shares, one of them the company: 40 are kept, and 55 are paid in parts of
16, 11 and 16. -/
theorem half_dividend_within_total_kept :
    let l := (empty "$").afterAll
      [.float "CR" 100, .buy "MIKKO" "CR" 3 0 none, .buy "NOOA" "CR" 2 0 none,
        .buy "CR" "CR" 3 0 none]
    l.rounding.retained 95 = 40 ∧
      (l.balance "MIKKO" ≤ (l.payHalfDividends "CR" 95).ledger.balance "MIKKO") ∧
      40 + (((l.holders "CR").map fun h => payout h.2 (95 - 40) 10).map Amount.toInt).sum ≤ 95 := by
  intro l
  have hcovered : l.Covered := Covered.afterAll _ _
  have hten : l.sharesInPlay "CR" ≤ 10 := by decide +kernel
  have hkept : l.rounding.retained 95 = 40 := by decide +kernel
  obtain ⟨-, -, hlaw⟩ := half_dividend_within_total hcovered hten (show (0 : Amount) ≤ 95 by decide)
  obtain ⟨-, hbalance, hsum⟩ := hlaw (by rw [hkept]; decide)
  rw [hkept] at hsum
  exact ⟨hkept, hbalance "MIKKO", hsum⟩

/-- Of a total of five that is rounded up the company keeps ten, the only holder loses money, and
what is kept and paid is more than five. -/
theorem half_dividend_of_five :
    let l := (empty "$").afterAll [.setRounding "UP", .buy "MIKKO" "CR" 1 0 none]
    let kept := l.rounding.retained 5
    let payouts := (l.holders "CR").map fun h => payout h.2 (5 - kept) 10
    l.sharesInPlay "CR" ≤ 10 ∧ (∀ n ∈ l.moneyResults (.payHalfDividends "CR" 5), Fits n) ∧
      5 < kept ∧ (∃ n ∈ payouts, n < 0) ∧
      (l.payHalfDividends "CR" 5).ledger.balance "MIKKO" < l.balance "MIKKO" ∧
      5 < kept.toInt + (payouts.map Amount.toInt).sum := by
  decide +kernel

/-! ## On ten shares -/

/-- **A half dividend on ten shares is paid out** up to less than one for each holder, and in full
when tenths come out even. -/
theorem half_dividend_fully_held (hten : l.sharesInPlay company = 10)
    (hfits : ∀ n ∈ l.moneyResults (.payHalfDividends company total), Fits n) :
    let grown := (l.payHalfDividends company total).ledger.funds - l.funds
    total.toInt - (l.holders company).length < grown ∧ grown ≤ total.toInt ∧
      (10 ∣ total.toInt - (l.rounding.retained total).toInt → grown = total.toInt) := by
  intro grown
  have hrun : l.run (.payHalfDividends company total) = .ok _ := rfl
  have hfunds := funds_run hrun hfits
  let paid := total.toInt - (l.rounding.retained total).toInt
  let floors := ((l.holders company).map fun h => h.2.toInt * paid / 10).sum
  have hgrown : grown = (l.rounding.retained total).toInt + floors := by
    show _ - l.funds = _
    rw [hfunds, add_sub_cancel_left]
    rfl
  have htenths := sum_tenths (l.holders company) paid
  have hheld := l.sum_holders company
  have hlow := sum_rests_nonneg (l.holders company) paid
  have hhigh := sum_rests_le (l.holders company) paid
  rw [hheld, hten] at htenths
  have hsomebody : (l.holders company).length ≠ 0 := by
    intro hnone
    rw [List.length_eq_zero_iff.1 hnone, hten] at hheld
    cases hheld
  refine ⟨by omega, by omega, fun heven => ?_⟩
  have hnone : ((l.holders company).map fun h => h.2.toInt * paid % 10).sum = 0 :=
    sum_rests_eq_zero _ heven
  omega

/-- Of a total of 95 below zero the company bears 50 and the holders bear 14, 14 and 18, which is 96
in all. -/
theorem half_dividend_fully_held_negative :
    let l := (empty "$").afterAll
      [.float "CR" 100, .buy "MIKKO" "CR" 3 0 none, .buy "NOOA" "CR" 3 0 none,
        .buy "CR" "CR" 4 0 none]
    l.sharesInPlay "CR" = 10 ∧
      -95 - 3 < (l.payHalfDividends "CR" (-95)).ledger.funds - l.funds ∧
      (l.payHalfDividends "CR" (-95)).ledger.funds - l.funds ≤ -95 := by
  intro l
  have hten : l.sharesInPlay "CR" = 10 := by decide +kernel
  have hfits : ∀ n ∈ l.moneyResults (.payHalfDividends "CR" (-95)), Fits n := by decide +kernel
  obtain ⟨hmore, hless, -⟩ := half_dividend_fully_held hten hfits
  exact ⟨hten, hmore, hless⟩

end ShareLedger.Ledger
