import Mathlib.Data.Rat.Floor
import ShareLedger.Proofs.Exactness
import ShareLedger.Rounding
/-!
# Proofs.Rounding

What a company keeps of a half dividend, as an exact integer.

1. `Rounding.keptOf` is the rule over all integers: half the total, rounded to a multiple of ten
   below or above it or to the whole number below it.
2. Every total of the program is split by that rule (`Rounding.toInt_retained`), and what is left to
   be paid is the exact rest (`Rounding.toInt_sub_retained`).  The least amount is no exception,
   although the greatest amount stands in for its opposite: both lie in the same twenty.
3. The company keeps nothing below zero of a total that is not below zero, and more than the total
   only of a total below ten that is rounded up (`Rounding.lt_keptOf`).
4. What it keeps is the half of the total, rounded as the mode says, and twice that differs from the
   total by less than twenty (`Rounding.split_exact`).
-/

namespace ShareLedger.Rounding

/-- What the company keeps of a total, over the integers. -/
def keptOf (mode : Rounding) (total : Int) : Int :=
  match mode with
  | .down => total / 20 * 10
  | .up => -((-total) / 20) * 10
  | .exact => total / 2

theorem keptOf_down (total : Int) : keptOf .down total = total / 20 * 10 := by simp [keptOf]

theorem keptOf_up (total : Int) : keptOf .up total = -((-total) / 20) * 10 := by simp [keptOf]

theorem keptOf_exact (total : Int) : keptOf .exact total = total / 2 := by simp [keptOf]

/-! ## Totals that fit -/

/-- **No amount is split but by the rule**, the least and the greatest one included. -/
theorem toInt_retained (mode : Rounding) (total : Amount) :
    (mode.retained total).toInt = mode.keptOf total.toInt := by
  have hleast := total.least_le
  have hgreatest := total.le_greatest
  have hten : (10 : Amount).toInt = 10 := by decide
  cases mode with
  | down =>
      have hdiv : (total.floorDiv 20).toInt = total.toInt / 20 :=
        Amount.toInt_floorDiv total (by omega)
      rw [keptOf_down]
      show (total.floorDiv 20 * 10).toInt = _
      rw [Amount.toInt_mul, hdiv, hten, Amount.toInt_clamp]
      omega
  | up =>
      have hdiv : ((-total).floorDiv 20).toInt = (-total).toInt / 20 :=
        Amount.toInt_floorDiv (-total) (by omega)
      have hneg : (-total).toInt / 20 = (-total.toInt) / 20 := by
        rw [Amount.toInt_neg, Amount.toInt_clamp]
        omega
      rw [keptOf_up]
      show (-((-total).floorDiv 20) * 10).toInt = _
      rw [Amount.toInt_mul, Amount.toInt_neg, hdiv, hneg, hten, Amount.toInt_clamp,
        Amount.toInt_clamp]
      omega
  | exact =>
      rw [keptOf_exact]
      exact Amount.toInt_floorDiv total (by omega)

/-- What is left to be paid is exact, too. -/
theorem toInt_sub_retained (mode : Rounding) (total : Amount) :
    (total - mode.retained total).toInt = total.toInt - (mode.retained total).toInt := by
  have hleast := total.least_le
  have hgreatest := total.le_greatest
  have hfits : Amount.Fits (total.toInt - (mode.retained total).toInt) := by
    rw [toInt_retained]
    cases mode <;> simp only [keptOf_down, keptOf_up, keptOf_exact, Amount.Fits] <;> omega
  exact Amount.toInt_sub_of_fits hfits

/-! ## Bounds -/

theorem keptOf_nonneg (mode : Rounding) {total : Int} (h : 0 ≤ total) : 0 ≤ mode.keptOf total := by
  cases mode <;> simp only [keptOf_down, keptOf_up, keptOf_exact] <;> omega

/-- Rounding up brings a total below ten to ten; otherwise the company keeps no more than there
is. -/
theorem lt_keptOf (mode : Rounding) {total : Int} (h : 0 ≤ total) :
    total < mode.keptOf total ↔ mode = .up ∧ 0 < total ∧ total < 10 := by
  cases mode with
  | down =>
      have hle : total / 20 * 10 ≤ total := by omega
      simpa [keptOf_down] using hle
  | up =>
      have hlt : total < -((-total) / 20) * 10 ↔ 0 < total ∧ total < 10 := by omega
      simpa [keptOf_up] using hlt
  | exact =>
      have hle : total / 2 ≤ total := by omega
      simpa [keptOf_exact] using hle

/-! ## The exact half -/

theorem keptOf_down_eq_floor (total : Int) :
    keptOf .down total = ⌊(total : ℚ) / 20⌋ * 10 := by
  have hfloor : ⌊(total : ℚ) / 20⌋ = total / 20 := Rat.floor_intCast_div_natCast total 20
  rw [keptOf_down, hfloor]

theorem keptOf_up_eq_ceil (total : Int) : keptOf .up total = ⌈(total : ℚ) / 20⌉ * 10 := by
  have hceil : ⌈(total : ℚ) / 20⌉ = -((-total) / 20) := Rat.ceil_intCast_div_natCast total 20
  rw [keptOf_up, hceil]

theorem keptOf_exact_eq_floor (total : Int) : keptOf .exact total = ⌊(total : ℚ) / 2⌋ := by
  have hfloor : ⌊(total : ℚ) / 2⌋ = total / 2 := Rat.floor_intCast_div_natCast total 2
  rw [keptOf_exact, hfloor]

/-- Rounding to tens moves what is kept by less than ten from the half. -/
theorem abs_keptOf_lt (mode : Rounding) (total : Int) : |2 * mode.keptOf total - total| < 20 := by
  rw [abs_lt]
  cases mode <;> simp only [keptOf_down, keptOf_up, keptOf_exact] <;> omega

theorem abs_keptOf_exact_le (total : Int) : |2 * keptOf .exact total - total| ≤ 1 := by
  rw [abs_le, keptOf_exact]
  omega

/-- **Every total is split exactly**: what the company keeps is the floor or the ceiling of the
rational number that its mode names, and the rest is what the total exceeds it by.  The least total
is no exception, although its opposite is not an amount. -/
theorem split_exact (mode : Rounding) (total : Amount) :
    let kept := mode.retained total
    (kept.toInt =
      match mode with
      | .down => ⌊(total.toInt : ℚ) / 20⌋ * 10
      | .up => ⌈(total.toInt : ℚ) / 20⌉ * 10
      | .exact => ⌊(total.toInt : ℚ) / 2⌋) ∧
    (total - kept).toInt = total.toInt - kept.toInt ∧
    |2 * kept.toInt - total.toInt| < 20 ∧
    (mode = .exact → |2 * kept.toInt - total.toInt| ≤ 1) := by
  intro kept
  have hkept : kept.toInt = mode.keptOf total.toInt := toInt_retained mode total
  refine ⟨?_, toInt_sub_retained mode total, ?_, ?_⟩
  · rw [hkept]
    cases mode with
    | down => exact keptOf_down_eq_floor _
    | up => exact keptOf_up_eq_ceil _
    | exact => exact keptOf_exact_eq_floor _
  · rw [hkept]
    exact abs_keptOf_lt mode _
  · rintro rfl
    rw [hkept]
    exact abs_keptOf_exact_le _

/-- The least total, of which the greatest amount stands in for the opposite. -/
example : (retained .up (.clamp (-9223372036854775808))).toInt = -4611686018427387900 := by
  decide +kernel

end ShareLedger.Rounding
