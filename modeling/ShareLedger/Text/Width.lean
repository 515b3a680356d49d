import ShareLedger.Text.Ranges
import ShareLedger.Text.WidthTable
/-!
# Text.Width

How many cells of a terminal a text fills.

1. `charWidth` is the width of a character by itself: a control character fills none, other
   characters fill none, one or two, by the tables.
2. `width` is the width of a text. It is the sum over its characters, where a control character
   counts as one cell, except in the sequences that are drawn as one: a line feed with its carriage
   return, emoji with a style, a skin tone or joined to others, flags of regions, and the ligatures of
   some scripts.
3. A text is measured from its end to its start, since what a character fills depends on what stands
   behind it (`After`): which sequence it may belong to (`Behind`), and whether a mark asks for a form
   of it.  Marks that are ignored by default do not part a ligature.
-/

namespace ShareLedger.Text

/-- The width of a character from U+00A0 on. -/
def glyphWidth (c : Char) : Nat :=
  let n := c.toNat
  if n = 0x17D8 then 3
  else if inRanges zeroWidthRanges n then 0
  else if inRanges wideRanges n then 2
  else 1

/-- The width of a character by itself; control characters have none. -/
def charWidth (c : Char) : Nat :=
  if c.val < 0x20 then 0
  else if c.val < 0x7F then 1
  else if c.val < 0xA0 then 0
  else glyphWidth c

/-- What the part of a text that is already measured begins with, as far as it matters for what
stands before it. -/
inductive Behind where
  | plain
  | lineFeed
  | skinTone
  /-- One regional indicator. -/
  | flag
  /-- Several regional indicators. -/
  | flags
  /-- A whole coloured picture. -/
  | emoji
  /-- A joiner with a picture behind it. -/
  | joined
  /-- The cap of a key before a joined picture. -/
  | joinedKey
  | joinedFlag
  | joinedFlagsEven
  | joinedFlagsOdd
  /-- The end of the flag of a region before a joined picture, and how many tag letters stand in front
  of it. -/
  | tagLetters (count : Nat)
  /-- The same with tag digits in front of the letters. -/
  | tagDigits (count : Nat)
  | kiratRaiE
  | kiratRaiAi
  | arabicAlef
  | hebrewLamed (joined : Bool)
  | khmerLetter
  | bugineseYa (joined : Bool)
  | bugineseVowelYa
  | tifinagh (joined : Bool)
  | tifinaghJoined
  | lisuTone
  | turkicI (joined : Bool)
deriving DecidableEq

namespace Behind

/-- Whether a ligature may end here, which a mark that asks for a form does not part. -/
def endsLigature : Behind → Bool
  | arabicAlef | hebrewLamed _ | khmerLetter | bugineseYa _ | bugineseVowelYa | tifinagh _
  | tifinaghJoined | lisuTone | turkicI _ => true
  | _ => false

/-- Whether what stands before is joined to a picture. -/
def isJoined : Behind → Bool
  | joined | joinedKey => true
  | _ => false

/-- The same with a joiner before it. -/
def withJoiner : Behind → Behind
  | hebrewLamed _ => hebrewLamed true
  | bugineseYa _ => bugineseYa true
  | tifinagh _ => tifinagh true
  | turkicI _ => turkicI true
  | behind => behind

end Behind

/-- The forms of a character that a mark behind it asks for. -/
inductive Form where
  /-- A coloured picture. -/
  | picture
  /-- Plain text. -/
  | text
deriving DecidableEq

/-- What stands behind, and the form that a mark in front of it asks for. -/
structure After where
  behind : Behind
  asked : Option Form
deriving DecidableEq

namespace After

/-- Nothing special. -/
def plain : After := ⟨.plain, none⟩

/-- The mark for a picture keeps ligatures and joined pictures in sight, the mark for text only
ligatures. -/
def ask (after : After) (form : Form) : After :=
  if after.behind.endsLigature || form = .picture && after.behind.isJoined then
    ⟨after.behind, some form⟩
  else ⟨.plain, some form⟩

/-- What is left when no picture comes of the mark for one. -/
def withoutPicture (after : After) : After :=
  if after.asked = some .picture then
    if after.behind.endsLigature then ⟨after.behind, none⟩ else plain
  else after

end After

/-- Whether a character is a regional indicator. -/
def isRegional (n : Nat) : Bool := 0x1F1E6 ≤ n && n ≤ 0x1F1FF

/-- Whether a character is a skin tone. -/
def isSkinTone (n : Nat) : Bool := 0x1F3FB ≤ n && n ≤ 0x1F3FF

/-- Whether the mark for a picture turns a character into one: those of keys, emoji that are no
pictures by themselves, and pictures that have a plain text form. -/
def canBePicture (n : Nat) : Bool :=
  n == 0x23 || n == 0x2A || (0x30 ≤ n && n ≤ 0x39) ||
  (inRanges emojiRanges n && !inRanges pictureRanges n) || inRanges plainFormRanges n ||
  n == 0x1F21A || n == 0x1F22F

/-- Whether a character is a mark that is ignored by default and so parts no ligature. -/
def isIgnoredMark (n : Nat) : Bool :=
  n == 0x34F || n == 0x17B4 || n == 0x17B5 || (0x180B ≤ n && n ≤ 0x180D) || n == 0x180F ||
  (0xFE00 ≤ n && n ≤ 0xFE0F) || (0xE0100 ≤ n && n ≤ 0xE01EF)

/-- Whether a character is a tag for a letter. -/
def isTagLetter (n : Nat) : Bool := 0xE0061 ≤ n && n ≤ 0xE007A

/-- Whether a character is a tag for a digit. -/
def isTagDigit (n : Nat) : Bool := 0xE0030 ≤ n && n ≤ 0xE0039

/-- Whether a character is a letter alef of the Arabic script. -/
def isArabicAlef (n : Nat) : Bool :=
  n == 0x622 || n == 0x623 || n == 0x625 || n == 0x627 || (0x671 ≤ n && n ≤ 0x673) || n == 0x675 ||
  n == 0x773 || n == 0x774 || (0x870 ≤ n && n ≤ 0x882)

/-- Whether a character is a letter lam of the Arabic script. -/
def isArabicLam (n : Nat) : Bool :=
  n == 0x644 || (0x6B5 ≤ n && n ≤ 0x6B8) || n == 0x76A || n == 0x8A6 || n == 0x8C7

/-- Whether a Khmer letter goes below the line behind the sign coeng. -/
def isKhmerLetter (n : Nat) : Bool :=
  inRanges [(0x1780, 0x1782), (0x1784, 0x1787), (0x1789, 0x178C), (0x178E, 0x1793),
    (0x1795, 0x1798), (0x179B, 0x179D), (0x17A0, 0x17A0), (0x17A2, 0x17A2), (0x17A7, 0x17A7),
    (0x17AB, 0x17AC), (0x17AF, 0x17AF)] n

/-- Whether a character is a consonant of the Tifinagh script. -/
def isTifinagh (n : Nat) : Bool := (0x2D31 ≤ n && n ≤ 0x2D65) || n == 0x2D6F

/-- What a character leaves for those before it, when nothing special stands behind it. -/
def behindGlyph (n : Nat) : Behind :=
  if isSkinTone n then .skinTone
  else if isRegional n then .flag
  else if n = 0x16D67 then .kiratRaiE
  else if n = 0x16D68 then .kiratRaiAi
  else if isArabicAlef n then .arabicAlef
  else if n = 0x5DC then .hebrewLamed false
  else if isKhmerLetter n then .khmerLetter
  else if n = 0x1A10 then .bugineseYa false
  else if isTifinagh n then .tifinagh false
  else if n = 0xA4FC ∨ n = 0xA4FD then .lisuTone
  else if n = 0x10C03 then .turkicI false
  else if inRanges pictureRanges n then .emoji
  else .plain

/-- The width that a character from U+00A1 on adds to the sequence behind it, and what the longer text
begins with; nothing when the character takes no part in it. -/
def sequence? (n : Nat) (behind : Behind) : Option (Int × Behind) :=
  match behind with
  | .skinTone => if inRanges skinToneBaseRanges n then some (0, .emoji)
    else if n = 0x200D then some (0, .joined) else none
  | .flag => if isRegional n then some (1, .flags) else none
  | .flags => if isRegional n then some (1, .flags)
    else if n = 0x200D then some (0, .joined) else none
  | .emoji => if n = 0x200D then some (0, .joined) else none
  | .joined =>
    if n = 0x20E3 then some (0, .joinedKey)
    else if isRegional n then some (1, .joinedFlag)
    else if isSkinTone n then some (0, .skinTone)
    else if n = 0xE007F then some (0, .tagLetters 0)
    else if inRanges pictureRanges n then some (0, .emoji)
    else none
  | .joinedFlag | .joinedFlagsOdd => if isRegional n then some (-1, .joinedFlagsEven)
    else if n = 0x200D ∧ behind = .joinedFlagsOdd then some (0, .joined) else none
  | .joinedFlagsEven => if isRegional n then some (3, .joinedFlagsOdd)
    else if n = 0x200D then some (0, .joined) else none
  | .tagLetters count =>
    if isTagLetter n ∧ count < 6 then some (0, .tagLetters (count + 1))
    else if isTagDigit n ∧ count < 5 then some (0, .tagDigits 1)
    else if n = 0x1F3F4 ∧ 3 ≤ count then some (0, .emoji)
    else none
  | .tagDigits count =>
    if isTagDigit n ∧ count < 3 then some (0, .tagDigits (count + 1))
    else if n = 0x1F3F4 ∧ count = 3 then some (0, .emoji)
    else none
  | .kiratRaiE =>
    if n = 0x16D63 ∨ n = 0x16D69 then some (0, .plain)
    else if n = 0x16D67 then some (0, .kiratRaiAi)
    else if n = 0x16D68 then some (1, .kiratRaiE)
    else none
  | .kiratRaiAi => if n = 0x16D63 then some (0, .plain) else none
  | .arabicAlef =>
    if isArabicLam n then some (0, .plain)
    else if inRanges zeroWidthRanges n && !inRanges partingRanges n then some (0, .arabicAlef)
    else none
  | .hebrewLamed true => if n = 0x5D0 then some (0, .plain) else none
  | .khmerLetter => if n = 0x17D2 then some (-1, .plain) else none
  | .bugineseYa true => if n = 0x1A17 then some (0, .bugineseVowelYa) else none
  | .bugineseVowelYa => if n = 0x1A15 then some (0, .plain) else none
  | .tifinagh joined =>
    if n = 0x2D7F then some (1, .tifinaghJoined)
    else if joined && isTifinagh n then some (0, .plain)
    else none
  | .tifinaghJoined => if isTifinagh n then some (-1, .plain) else none
  | .lisuTone => if 0xA4F8 ≤ n ∧ n ≤ 0xA4FB then some (0, .plain) else none
  | .turkicI true => if n = 0x10C32 then some (0, .plain) else none
  | .plain | .lineFeed | .joinedKey | .hebrewLamed false | .bugineseYa false | .turkicI false => none

/-- The same with the joiners and the ignored marks inside the ligatures.  Those of the Arabic script
have other rules for what may stand in them. -/
def ligature? (n : Nat) (behind : Behind) : Option (Int × Behind) :=
  if behind.endsLigature && behind != .arabicAlef && n == 0x200D then some (0, behind.withJoiner)
  else if behind.endsLigature && behind != .arabicAlef && isIgnoredMark n then some (0, behind)
  else sequence? n behind

/-- The width that a character adds in front of a text that does not ask for a picture of it, and what
the longer text begins with. -/
def glyphBefore (c : Char) (after : After) : Int × After :=
  let n := c.toNat
  if n = 10 then (1, ⟨.lineFeed, none⟩)
  else if n = 13 ∧ after.behind = .lineFeed then (0, .plain)
  else if n ≤ 0xA0 then (1, .plain)
  else if n = 0xFE0F then (0, after.ask .picture)
  else if n = 0xFE0E then (0, after.ask .text)
  else if after.asked = some .text ∧ inRanges plainFormRanges n then (1, .plain)
  else
    let (w, behind) := (ligature? n after.behind).getD (glyphWidth c, behindGlyph n)
    (w, ⟨behind, none⟩)

/-- The width that a character adds in front of a text, and what the longer text begins with. -/
def widthBefore (c : Char) (after : After) : Int × After :=
  if after.asked = some .picture ∧ canBePicture c.toNat then
    (if after.behind.isJoined then 0 else 2, ⟨.emoji, none⟩)
  else glyphBefore c after.withoutPicture

/-- The width of a text and what it begins with. -/
def measure (cs : List Char) : Int × After :=
  cs.foldr (fun c (sum, after) =>
    let (w, after) := widthBefore c after
    (sum + w, after)) (0, .plain)

/-- The number of cells that a text fills. -/
def widthOf (cs : List Char) : Nat := (measure cs).1.toNat

/-- The number of cells that a text fills. -/
def width (s : String) : Nat := widthOf s.toList

end ShareLedger.Text
