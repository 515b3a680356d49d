import ShareLedger.Amount
/-!
# Rounding

How a half dividend is split: what the company keeps, the rest being paid out.
-/

namespace ShareLedger

/-- How the half that a company keeps is rounded. -/
inductive Rounding where
  /-- Down to a multiple of ten. -/
  | down
  /-- Up to a multiple of ten. -/
  | up
  /-- To the whole number below. -/
  | exact
deriving DecidableEq, Repr

namespace Rounding

/-- `UP` and `1837` name their modes; every other word names the usual one. -/
def ofWord (word : String) : Rounding :=
  if word = "UP" then .up else if word = "1837" then .exact else .down

/-- What the company keeps of a total. -/
def retained (mode : Rounding) (total : Amount) : Amount :=
  match mode with
  | .down => total.floorDiv 20 * 10
  | .up => -((-total).floorDiv 20) * 10
  | .exact => total.floorDiv 2

end Rounding
end ShareLedger
