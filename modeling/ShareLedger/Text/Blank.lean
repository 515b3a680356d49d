/-!
# Text.Blank

White space: which characters are blank, and the three ways of cutting text at them.

1. A character is blank when it has the Unicode property White_Space. The zero-width space U+200B
   and the byte order mark U+FEFF do not have it.
2. `trim` drops the blanks at both ends, `words` lists the maximal runs without blanks, `lines`
   cuts at line feeds and takes a carriage return that stands directly before one along.
-/

namespace ShareLedger.Text

/-- The characters with the property White_Space. -/
def isBlank (c : Char) : Bool :=
  (9 ≤ c.val && c.val ≤ 13) || c.val == 32 || c.val == 0x85 || c.val == 0xA0 || c.val == 0x1680 ||
  (0x2000 ≤ c.val && c.val ≤ 0x200A) || c.val == 0x2028 || c.val == 0x2029 || c.val == 0x202F ||
  c.val == 0x205F || c.val == 0x3000

/-! ## Trimming -/

/-- Drops what satisfies `p` from the end. -/
def dropEndWhile (p : Char → Bool) (cs : List Char) : List Char :=
  (cs.reverse.dropWhile p).reverse

/-- Drops the blanks at both ends. -/
def trimChars (cs : List Char) : List Char := dropEndWhile isBlank (cs.dropWhile isBlank)

/-- Drops the blanks at both ends. -/
def trim (s : String) : String := String.ofList (trimChars s.toList)

/-- Drops the blanks at the end. -/
def trimEnd (s : String) : String := String.ofList (dropEndWhile isBlank s.toList)

/-- Whether there is nothing but blanks. -/
def allBlank (s : String) : Bool := s.toList.all isBlank

/-! ## Words -/

/-- The words of a text that goes on after the characters of `word`, which are held in reverse. -/
def wordsAfter (word : List Char) : List Char → List (List Char)
  | [] => if word.isEmpty then [] else [word.reverse]
  | c :: cs =>
    if isBlank c then
      if word.isEmpty then wordsAfter [] cs else word.reverse :: wordsAfter [] cs
    else wordsAfter (c :: word) cs

/-- The maximal runs of characters that are not blank. -/
def words (s : String) : List String := (wordsAfter [] s.toList).map String.ofList

/-! ## Lines -/

/-- Drops a carriage return from the front of a line held in reverse. -/
def dropReturn : List Char → List Char
  | '\r' :: cs => cs
  | cs => cs

/-- The lines of a text that goes on after the characters of `line`, which are held in reverse. -/
def linesAfter (line : List Char) : List Char → List (List Char)
  | [] => if line.isEmpty then [] else [line.reverse]
  | '\n' :: cs => (dropReturn line).reverse :: linesAfter [] cs
  | c :: cs => linesAfter (c :: line) cs

/-- The text cut at line feeds. A line feed at the very end opens no further line, and a carriage
return directly before a line feed belongs to the line end. -/
def lines (s : String) : List String := (linesAfter [] s.toList).map String.ofList

end ShareLedger.Text
