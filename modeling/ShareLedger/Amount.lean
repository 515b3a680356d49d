/-!
# Amount

Money, share counts and clock readings: the integers of a signed 64-bit word.

1. Every amount lies between the least and the greatest number of such a word; the two bounds are
   part of the type.
2. Adding, subtracting, negating and multiplying never wrap: a result outside the bounds becomes
   the bound it passed (`Amount.clamp`). Negating the least amount therefore gives the greatest.
3. Division rounds toward minus infinity for the positive divisors it is used with.
4. An amount is written in decimal digits (`Amount.text`) and read from the digits at the front of
   a text (`Amount.read?`).
-/

namespace ShareLedger

/-- An integer that fits a signed 64-bit word. -/
structure Amount where
  /-- The number itself. -/
  toInt : Int
  least_le : -9223372036854775808 ≤ toInt
  le_greatest : toInt ≤ 9223372036854775807
deriving DecidableEq

namespace Amount

@[ext] theorem ext {a b : Amount} (h : a.toInt = b.toInt) : a = b := by
  cases a; cases b; simp_all

/-- The nearest amount to an integer: the integer itself when it fits. -/
def clamp (n : Int) : Amount where
  toInt := max (-9223372036854775808) (min n 9223372036854775807)
  least_le := by omega
  le_greatest := by omega

/-- The integer as an amount, when it fits. -/
def ofInt? (n : Int) : Option Amount :=
  if h : -9223372036854775808 ≤ n ∧ n ≤ 9223372036854775807 then some ⟨n, h.1, h.2⟩ else none

/-- An amount is had from its own integer and from no other one. -/
theorem ofInt?_eq_some_iff {n : Int} {a : Amount} : ofInt? n = some a ↔ a.toInt = n := by
  unfold ofInt?
  split
  · next h => exact ⟨fun hs => by rw [← Option.some.inj hs], fun hv => congrArg some (ext hv.symm)⟩
  · next h => exact ⟨nofun, fun hv => absurd ⟨hv ▸ a.least_le, hv ▸ a.le_greatest⟩ h⟩

theorem toInt_clamp (n : Int) :
    (clamp n).toInt = max (-9223372036854775808) (min n 9223372036854775807) := rfl

/-- Clamping changes nothing that fits. -/
theorem toInt_clamp_of_fits {n : Int} (hl : -9223372036854775808 ≤ n)
    (hu : n ≤ 9223372036854775807) : (clamp n).toInt = n := by
  rw [toInt_clamp]; omega

@[simp] theorem clamp_toInt (a : Amount) : clamp a.toInt = a :=
  ext (toInt_clamp_of_fits a.least_le a.le_greatest)

instance (n : Nat) : OfNat Amount n := ⟨clamp n⟩
instance : Inhabited Amount := ⟨0⟩

@[simp] theorem toInt_zero : (0 : Amount).toInt = 0 := rfl

instance : Add Amount := ⟨fun a b => clamp (a.toInt + b.toInt)⟩
instance : Sub Amount := ⟨fun a b => clamp (a.toInt - b.toInt)⟩
instance : Mul Amount := ⟨fun a b => clamp (a.toInt * b.toInt)⟩
instance : Neg Amount := ⟨fun a => clamp (-a.toInt)⟩

theorem toInt_add (a b : Amount) : (a + b).toInt = (clamp (a.toInt + b.toInt)).toInt := rfl
theorem toInt_sub (a b : Amount) : (a - b).toInt = (clamp (a.toInt - b.toInt)).toInt := rfl
theorem toInt_mul (a b : Amount) : (a * b).toInt = (clamp (a.toInt * b.toInt)).toInt := rfl
theorem toInt_neg (a : Amount) : (-a).toInt = (clamp (-a.toInt)).toInt := rfl

instance : LT Amount := ⟨fun a b => a.toInt < b.toInt⟩
instance : LE Amount := ⟨fun a b => a.toInt ≤ b.toInt⟩
instance (a b : Amount) : Decidable (a < b) := inferInstanceAs (Decidable (a.toInt < b.toInt))
instance (a b : Amount) : Decidable (a ≤ b) := inferInstanceAs (Decidable (a.toInt ≤ b.toInt))

theorem lt_iff {a b : Amount} : a < b ↔ a.toInt < b.toInt := Iff.rfl
theorem le_iff {a b : Amount} : a ≤ b ↔ a.toInt ≤ b.toInt := Iff.rfl

/-- Division by a positive number, rounded toward minus infinity. -/
def floorDiv (a : Amount) (divisor : Nat) : Amount := clamp (a.toInt / divisor)

/-- The sum of a list, taken from the left and clamped at every step. -/
def total (as : List Amount) : Amount := as.foldl (· + ·) 0

/-! ## Decimal text -/

/-- Decimal digits with a minus sign in front of a negative amount. -/
def text (a : Amount) : String :=
  if a.toInt < 0 then "-" ++ Nat.repr a.toInt.natAbs else Nat.repr a.toInt.natAbs

/-- The number that the digits at the front of a text write, when there is a digit and the number
does not pass the greatest amount. What follows the digits is not looked at. -/
def magnitude? (cs : List Char) : Option Int :=
  let digits := cs.takeWhile Char.isDigit
  let n : Int := Nat.ofDigitChars 10 digits 0
  if digits.isEmpty ∨ 9223372036854775807 < n then none else some n

/-- The amount at the front of a text: a sign, which may be missing, and digits. The digits are
held against the greatest amount before the sign is applied, so the least amount cannot be read. -/
def readChars : List Char → Option Amount
  | '-' :: cs => (magnitude? cs).map fun n => clamp (-n)
  | '+' :: cs => (magnitude? cs).map clamp
  | cs => (magnitude? cs).map clamp

/-- The amount at the front of a text, as in `10`, `-3` and `10x`. -/
def read? (s : String) : Option Amount := readChars s.toList

end Amount
end ShareLedger
