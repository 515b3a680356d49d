import ShareLedger.Text.LetterTable
import ShareLedger.Text.Ranges
/-!
# Text.Letter

Letters and digits of all scripts.
-/

namespace ShareLedger.Text

/-- Whether a character is alphabetic or numeric. -/
def isLetterOrDigit (c : Char) : Bool :=
  if c.val < 128 then c.isAlphanum else inRanges letterRanges c.toNat

end ShareLedger.Text
