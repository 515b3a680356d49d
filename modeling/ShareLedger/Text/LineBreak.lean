import ShareLedger.Text.LineClassTable
import ShareLedger.Text.Ranges
/-!
# Text.LineBreak

Where a line may be broken, by the rules of the Unicode line breaking algorithm.

1. Every character has a class (`lineClass`). Marks take the class of the character that they stand
   on, and that of a letter where there is none.
2. Whether a line may be broken before a character hangs on its class, on the class of the last
   character that is neither a mark nor a space, and on the spaces between them (`mayBreak`).
3. The rules are tried in their order, and the first one that says something counts. What no rule
   says anything about may be broken.
-/

namespace ShareLedger.Text

/-! ## Classes -/

/-- The class of one of the first 128 characters. -/
def asciiLineClass (c : Char) : LineClass :=
  if c.isAlpha then .alphabetic
  else if c.isDigit then .numeric
  else
    match c with
    | '\t' | '|' => .breakAfter
    | '\n' => .lineFeed
    | '\r' => .carriageReturn
    | ' ' => .space
    | '!' | '?' => .exclamation
    | '"' | '\'' => .quotation
    | '$' | '+' | '\\' => .prefixNumeric
    | '%' => .postfixNumeric
    | '(' | '[' | '{' => .openPunctuation
    | ')' | ']' => .closeParenthesis
    | '}' => .closePunctuation
    | ',' | '.' | ':' | ';' => .infixNumeric
    | '-' => .hyphen
    | '/' => .slash
    | '#' | '&' | '*' | '<' | '=' | '>' | '@' | '^' | '_' | '~' => .alphabetic
    | c =>
      if c.toNat = 11 ∨ c.toNat = 12 then .mandatoryBreak
      else if c.toNat = 96 then .alphabetic
      else .combiningMark

/-- The class of a character. -/
def lineClass (c : Char) : LineClass :=
  let n := c.toNat
  if n < 128 then asciiLineClass c
  else if 0xAC00 ≤ n ∧ n ≤ 0xD7A3 then
    if (n - 0xAC00) % 28 = 0 then .hangulOpen else .hangulClosed
  else
    match lineClassRanges.find? fun (_, ranges) => inRanges ranges n with
    | some (k, _) => k
    | none => .alphabetic

namespace LineClass

/-- Letters. -/
def isLetter (k : LineClass) : Bool := k == alphabetic || k == hebrewLetter

/-- Closing punctuation. -/
def isClose (k : LineClass) : Bool := k == closePunctuation || k == closeParenthesis

/-- Pictures and ideographs. -/
def isIdeograph (k : LineClass) : Bool := k == ideographic || k == emojiBase || k == emojiModifier

/-- Parts of Korean syllables and syllables. -/
def isHangul (k : LineClass) : Bool :=
  k == hangulLeading || k == hangulVowel || k == hangulTrailing || k == hangulOpen ||
  k == hangulClosed

/-- Marks for numbers. -/
def isNumberMark (k : LineClass) : Bool := k == prefixNumeric || k == postfixNumeric

/-- Ends of lines. -/
def isLineEnd (k : LineClass) : Bool :=
  k == mandatoryBreak || k == carriageReturn || k == lineFeed || k == nextLine

/-- Characters on which a mark does not stand. -/
def takesNoMark (k : LineClass) : Bool := k.isLineEnd || k == space || k == zeroWidthSpace

/-- What may not come before a break even behind spaces. -/
def staysBehindSpaces (k : LineClass) : Bool :=
  k.isClose || k == exclamation || k == infixNumeric || k == slash

/-- Whether two classes next to each other belong to one number. -/
def joinsNumber (a b : LineClass) : Bool :=
  (a.isClose && b.isNumberMark) || (a == numeric && (b.isNumberMark || b == numeric)) ||
  (a.isNumberMark && (b == openPunctuation || b == numeric)) ||
  ((a == hyphen || a == infixNumeric || a == slash) && b == numeric)

/-- Whether two classes next to each other belong to one Korean syllable. -/
def joinsHangul (a b : LineClass) : Bool :=
  (a == hangulLeading && (b == hangulLeading || b == hangulVowel || b == hangulOpen ||
    b == hangulClosed)) ||
  ((a == hangulVowel || a == hangulOpen) && (b == hangulVowel || b == hangulTrailing)) ||
  ((a == hangulTrailing || a == hangulClosed) && b == hangulTrailing)

end LineClass

/-! ## Breaks -/

/-- What is known of the text in front of a place. -/
structure LineBefore where
  /-- The class of the last character that is neither a mark nor a space. -/
  last : LineClass
  /-- Whether spaces follow it. -/
  spaced : Bool
  /-- Whether the very last character is a joiner. -/
  joined : Bool
  /-- Whether the last character is a hyphen behind a Hebrew letter. -/
  hebrewHyphen : Bool
  /-- Whether the last character is a regional indicator that begins a pair. -/
  halfFlag : Bool

namespace LineBefore

open LineClass

/-- Whether a line may be broken between two characters without a space between them. -/
def mayBreakBetween (b : LineBefore) (k : LineClass) : Bool :=
  let a := b.last
  if k == quotation || a == quotation then false
  else if k == contingentBreak || a == contingentBreak then true
  else if k == breakAfter || k == hyphen || k == nonstarter || a == breakBefore then false
  else if b.hebrewHyphen || (a == slash && k == hebrewLetter) || k == inseparable then false
  else if (a.isLetter && k == numeric) || (a == numeric && k.isLetter) then false
  else if (a == prefixNumeric && k.isIdeograph) || (a.isIdeograph && k == postfixNumeric) then false
  else if (a.isNumberMark && k.isLetter) || (a.isLetter && k.isNumberMark) then false
  else if joinsNumber a k || joinsHangul a k then false
  else if (a.isHangul && k == postfixNumeric) || (a == prefixNumeric && k.isHangul) then false
  else if a.isLetter && k.isLetter then false
  else if a == infixNumeric && k.isLetter then false
  else if (a.isLetter || a == numeric) && k == openPunctuation then false
  else if a == closeParenthesis && (k.isLetter || k == numeric) then false
  else if b.halfFlag && k == regionalIndicator then false
  else if a == emojiBase && k == emojiModifier then false
  else true

/-- Whether a line may be broken before a character, marks set aside. -/
def mayBreak (b : LineBefore) (k : LineClass) : Bool :=
  let a := b.last
  if a.isLineEnd && !b.spaced then !(a == carriageReturn && k == lineFeed)
  else if k.isLineEnd || k == space || k == zeroWidthSpace then false
  else if a == zeroWidthSpace then true
  else if b.joined then false
  else if k == wordJoiner || (!b.spaced && (a == wordJoiner || a == glue)) then false
  else if k == glue && !b.spaced && !(a == breakAfter || a == hyphen) then false
  else if k.staysBehindSpaces then false
  else if a == openPunctuation || (a == quotation && k == openPunctuation) then false
  else if (a.isClose && k == nonstarter) || (a == breakBoth && k == breakBoth) then false
  else if b.spaced then true
  else b.mayBreakBetween k

/-- What is known behind a character of a class that is not a mark on another one. -/
def next (b : LineBefore) (k : LineClass) (joined : Bool) : LineBefore :=
  if k == space then { b with spaced := true, joined := false }
  else {
    last := k
    spaced := false
    joined
    hebrewHyphen := b.last == hebrewLetter && !b.spaced && (k == hyphen || k == breakAfter)
    halfFlag :=
      k == regionalIndicator && !(b.last == regionalIndicator && !b.spaced && b.halfFlag) }

/-- Whether a line may be broken before a character, and what is known behind it. -/
def step (b : LineBefore) (k : LineClass) : Bool × LineBefore :=
  if k == combiningMark || k == joiner then
    if !b.spaced && !b.last.takesNoMark then (false, { b with joined := k == joiner })
    else (b.mayBreak alphabetic, b.next alphabetic (k == joiner))
  else (b.mayBreak k, b.next k false)

/-- What is known behind the first character of a text. -/
def first (k : LineClass) : LineBefore :=
  let begin : LineBefore := ⟨zeroWidthSpace, false, false, false, false⟩
  if k == combiningMark || k == joiner then begin.next alphabetic (k == joiner)
  else if k == space then { begin with last := wordJoiner, spaced := true }
  else begin.next k false

end LineBefore

/-- For every character behind `b`, whether a line may be broken before it. -/
def breaksAfter (b : LineBefore) : List Char → List Bool
  | [] => []
  | c :: cs =>
    let (may, b) := b.step (lineClass c)
    may :: breaksAfter b cs

/-- For every character of a text, whether a line may be broken before it. -/
def breaksBefore : List Char → List Bool
  | [] => []
  | c :: cs => false :: breaksAfter (.first (lineClass c)) cs

end ShareLedger.Text
