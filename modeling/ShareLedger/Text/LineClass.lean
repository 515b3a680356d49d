/-!
# Text.LineClass

The classes of characters that decide where a line may be broken.
-/

namespace ShareLedger.Text

/-- The line breaking classes of the Unicode standard, as far as they behave differently. -/
inductive LineClass where
  | alphabetic
  | hebrewLetter
  | numeric
  | ideographic
  | emojiBase
  | emojiModifier
  | regionalIndicator
  | combiningMark
  | joiner
  | space
  | mandatoryBreak
  | carriageReturn
  | lineFeed
  | nextLine
  | zeroWidthSpace
  | wordJoiner
  | glue
  | breakAfter
  | breakBefore
  | breakBoth
  | hyphen
  | contingentBreak
  | inseparable
  | nonstarter
  | quotation
  | openPunctuation
  | closePunctuation
  | closeParenthesis
  | exclamation
  | infixNumeric
  | slash
  | prefixNumeric
  | postfixNumeric
  | hangulLeading
  | hangulVowel
  | hangulTrailing
  /-- A Hangul syllable without a trailing consonant. -/
  | hangulOpen
  /-- A Hangul syllable with a trailing consonant. -/
  | hangulClosed
deriving DecidableEq

end ShareLedger.Text
