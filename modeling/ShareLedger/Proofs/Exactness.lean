import Mathlib.Algebra.Ring.Int.Defs
import ShareLedger.Amount
/-!
# Proofs.Exactness

When the arithmetic of amounts is the arithmetic of integers.

An operation on amounts gives the bound that its exact result passes.  As long as the exact result
fits (`Amount.Fits`), the amount is that result.  Division by a positive number always fits.
-/

namespace ShareLedger.Amount

/-- Whether an integer lies between the least and the greatest amount. -/
def Fits (n : Int) : Prop := -9223372036854775808 ≤ n ∧ n ≤ 9223372036854775807

instance (n : Int) : Decidable (Fits n) := inferInstanceAs (Decidable (_ ∧ _))

theorem fits_toInt (a : Amount) : Fits a.toInt := ⟨a.least_le, a.le_greatest⟩

theorem toInt_add_of_fits {a b : Amount} (h : Fits (a.toInt + b.toInt)) :
    (a + b).toInt = a.toInt + b.toInt := by
  rw [toInt_add, toInt_clamp_of_fits h.1 h.2]

theorem toInt_sub_of_fits {a b : Amount} (h : Fits (a.toInt - b.toInt)) :
    (a - b).toInt = a.toInt - b.toInt := by
  rw [toInt_sub, toInt_clamp_of_fits h.1 h.2]

theorem toInt_mul_of_fits {a b : Amount} (h : Fits (a.toInt * b.toInt)) :
    (a * b).toInt = a.toInt * b.toInt := by
  rw [toInt_mul, toInt_clamp_of_fits h.1 h.2]

theorem toInt_neg_of_fits {a : Amount} (h : Fits (-a.toInt)) : (-a).toInt = -a.toInt := by
  rw [toInt_neg, toInt_clamp_of_fits h.1 h.2]

theorem add_zero (a : Amount) : a + 0 = a := by
  apply ext
  rw [toInt_add, toInt_zero, Int.add_zero, clamp_toInt]

/-- Adding what is not below zero takes nothing away, also where the sum passes the bound. -/
theorem le_add_of_nonneg {a b : Amount} (h : 0 ≤ b) : a ≤ a + b := by
  have hleast := a.least_le
  have hgreatest := a.le_greatest
  rw [le_iff, toInt_zero] at h
  rw [le_iff, toInt_add, toInt_clamp]
  omega

/-- Dividing by a positive number leads no further from zero. -/
theorem fits_div {n : Int} (h : Fits n) {d : Nat} (hd : 0 < d) : Fits (n / d) := by
  obtain ⟨hl, hu⟩ := h
  have hpos : (0 : Int) < d := by omega
  constructor
  · rw [Int.le_ediv_iff_mul_le hpos]
    have hmul : (-9223372036854775808 : Int) * d ≤ -9223372036854775808 * 1 :=
      Int.mul_le_mul_of_nonpos_left (by omega) (by omega)
    omega
  · apply Int.le_of_lt_add_one
    rw [Int.ediv_lt_iff_lt_mul hpos]
    have hmul : (9223372036854775807 + 1 : Int) * 1 ≤ (9223372036854775807 + 1) * d :=
      Int.mul_le_mul_of_nonneg_left (by omega) (by omega)
    omega

theorem toInt_floorDiv (a : Amount) {d : Nat} (hd : 0 < d) :
    (a.floorDiv d).toInt = a.toInt / d := by
  have h := fits_div (fits_toInt a) hd
  exact toInt_clamp_of_fits h.1 h.2

/-! ## Totals -/

/-- The exact sums that adding up a list from the left goes through. -/
def runningSums (start : Int) : List Amount → List Int
  | [] => []
  | a :: as => (start + a.toInt) :: runningSums (start + a.toInt) as

/-- A total is exact as long as no sum on the way to it passes a bound. -/
theorem toInt_total {as : List Amount} (h : ∀ n ∈ runningSums 0 as, Fits n) :
    (total as).toInt = (as.map toInt).sum := by
  have aux (as : List Amount) (start : Amount) (h : ∀ n ∈ runningSums start.toInt as, Fits n) :
      (as.foldl (· + ·) start).toInt = start.toInt + (as.map toInt).sum := by
    induction as generalizing start with
    | nil => simp
    | cons a as ih =>
        have hadd : (start + a).toInt = start.toInt + a.toInt :=
          toInt_add_of_fits (h _ List.mem_cons_self)
        rw [List.foldl_cons, ih (start + a), hadd, List.map_cons, List.sum_cons]
        · omega
        · rw [hadd]
          exact fun n hn => h n (List.mem_cons_of_mem _ hn)
  have := aux as 0 h
  rw [toInt_zero] at this
  rw [total, this]
  omega

end ShareLedger.Amount
