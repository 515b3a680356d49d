/-!
# Text.Shortest

The shortest decimal text of a fraction that is kept as a binary floating-point number of 53 digits.

1. A positive fraction is kept as the nearest `mantissa * 2 ^ exponent` with a mantissa of exactly
   53 binary digits; of two equally near ones the one with the even mantissa (`Binary.nearest`).
2. Its text has the fewest decimal digits that still lie nearest to this number and to no other, and
   of the texts with so few digits it is the nearest one, a tie going to the greater
   (`Binary.shortest`). The numbers that read back lie half a step around it, the ends belonging to
   an even mantissa.
3. The digits are written without an exponent, and whole numbers without a point.

Fractions here are tenths of 64-bit integers, far inside the exponents of the format, so the
smallest and largest numbers of the format need no rule.
-/

namespace ShareLedger.Text

/-- The positive number `mantissa * 2 ^ exponent`. -/
structure Binary where
  mantissa : Nat
  exponent : Int

namespace Binary

/-- The quotient rounded to the nearest integer, a tie to the even one. -/
def roundDiv (num den : Nat) : Nat :=
  let q := num / den
  let r := num % den
  if den < 2 * r ∨ (den = 2 * r ∧ q % 2 = 1) then q + 1 else q

/-- `num / den * 2 ^ (-e)` as a fraction of natural numbers. -/
def scaled (num den : Nat) (e : Int) : Nat × Nat :=
  if 0 ≤ e then (num, den * Nat.pow 2 e.toNat) else (num * Nat.pow 2 (-e).toNat, den)

/-- The nearest number of 53 binary digits to a positive fraction. -/
def nearest (num den : Nat) : Binary :=
  let guess : Int := (num.log2 : Int) - den.log2 - 52
  let (n, d) := scaled num den guess
  let e := if n < Nat.pow 2 52 * d then guess - 1 else guess
  let (n, d) := scaled num den e
  let m := roundDiv n d
  if m = Nat.pow 2 53 then ⟨Nat.pow 2 52, e + 1⟩ else ⟨m, e⟩

/-- The number as a fraction of natural numbers. -/
def fraction (b : Binary) : Nat × Nat :=
  if 0 ≤ b.exponent then (b.mantissa * Nat.pow 2 b.exponent.toNat, 1)
  else (b.mantissa, Nat.pow 2 (-b.exponent).toNat)

/-- The multiple of `10 ^ k` that reads back as the number, the nearer one if there are two, and the
greater one of two equally near ones. All is measured in quarters of the last binary digit, in
which the number is `4 * mantissa`. -/
def onGrid (b : Binary) (k : Int) : Option Nat :=
  let low := if b.mantissa = Nat.pow 2 52 then 4 * b.mantissa - 1 else 4 * b.mantissa - 2
  let high := 4 * b.mantissa + 2
  let e := b.exponent - 2
  let grid := Nat.pow 10 k.toNat * Nat.pow 2 (-e).toNat
  let quarter := Nat.pow 2 e.toNat * Nat.pow 10 (-k).toNat
  let value := 4 * b.mantissa * quarter
  let readsBack (c : Nat) : Bool :=
    if b.mantissa % 2 = 0 then low * quarter ≤ c * grid && c * grid ≤ high * quarter
    else low * quarter < c * grid && c * grid < high * quarter
  let below := value / grid
  let above := below + 1
  if readsBack below then
    if readsBack above && above * grid - value ≤ value - below * grid then some above
    else some below
  else if readsBack above then some above
  else none

/-- The first grid from the coarsest that holds a number that reads back, with that number. -/
def shortest (b : Binary) : Nat × Int :=
  ((List.range 44).findSome? fun (i : Nat) =>
    let k : Int := 22 - i
    (b.onGrid k).map fun c => (c, k)).getD (0, 0)

end Binary

/-- `digits * 10 ^ k` without an exponent. -/
def positional (digits : Nat) (k : Int) : String :=
  if 0 ≤ k then Nat.repr (digits * Nat.pow 10 k.toNat)
  else
    let places := (-k).toNat
    let cs := Nat.toDigits 10 digits
    let padded := List.replicate (places + 1 - cs.length) '0' ++ cs
    let whole := padded.length - places
    String.ofList (padded.take whole ++ '.' :: padded.drop whole)

/-- A tenth of an integer, the integer and the tenth each kept with 53 binary digits, in the fewest
digits that read back. -/
def tenth (n : Int) : String :=
  if n = 0 then "0"
  else
    let (num, den) := (Binary.nearest n.natAbs 1).fraction
    let (digits, k) := (Binary.nearest num (10 * den)).shortest
    (if n < 0 then "-" else "") ++ positional digits k

end ShareLedger.Text
