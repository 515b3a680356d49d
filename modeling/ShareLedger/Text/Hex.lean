/-!
# Text.Hex

Numbers in digits of sixteen. They are written in small letters and read in either case.
-/

namespace ShareLedger.Text

/-- One of the sixteen digits. -/
def hexDigit (n : Nat) : Char :=
  if n < 10 then Char.ofNat (48 + n) else Char.ofNat (87 + n)

/-- The value of one of the sixteen digits. -/
def hexValue? (c : Char) : Option Nat :=
  let n := c.toNat
  if 48 ≤ n ∧ n ≤ 57 then some (n - 48)
  else if 65 ≤ n ∧ n ≤ 70 then some (n - 55)
  else if 97 ≤ n ∧ n ≤ 102 then some (n - 87)
  else none

/-- The number that digits write. -/
def hexNumber? (cs : List Char) : Option Nat :=
  cs.foldl (fun sum c => sum.bind fun n => (hexValue? c).map (16 * n + ·)) (some 0)

/-- Reading takes back writing. -/
theorem hexValue?_hexDigit {n : Nat} (h : n < 16) : hexValue? (hexDigit n) = some n := by
  have : ∀ m < 16, hexValue? (hexDigit m) = some m := by decide
  exact this n h

end ShareLedger.Text
