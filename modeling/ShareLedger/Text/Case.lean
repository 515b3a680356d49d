import ShareLedger.Text.CaseTable
import ShareLedger.Text.Ranges
/-!
# Text.Case

Capital and small letters.

1. `smallAscii` and `capitalAscii` know the letters A to Z only; words of the command language are
   compared with them.
2. `upper` and `lower` are the full Unicode mappings, which may lengthen a text (`ß` becomes `SS`).
   A capital sigma becomes the small final sigma where it ends a word: a cased letter stands before
   it and none after it, case-ignorable characters set aside.
-/

namespace ShareLedger.Text

/-! ## The letters A to Z -/

/-- The capital letters A to Z in small; every other character as it is. -/
def smallAscii (c : Char) : Char :=
  if 65 ≤ c.val ∧ c.val ≤ 90 then Char.ofNat (c.toNat + 32) else c

/-- The small letters a to z as capitals; every other character as it is. -/
def capitalAscii (c : Char) : Char :=
  if 97 ≤ c.val ∧ c.val ≤ 122 then Char.ofNat (c.toNat - 32) else c

/-- The text with the letters A to Z in small. -/
def lowerAscii (s : String) : String := String.ofList (s.toList.map smallAscii)

/-- Whether two texts agree up to the case of the letters A to Z. -/
def sameUpToAsciiCase (a b : String) : Bool := a.toList.map smallAscii == b.toList.map smallAscii

/-! ## All letters -/

/-- The capital form of a character. -/
def capital (c : Char) : List Char :=
  if c.val < 128 then [capitalAscii c]
  else
    match capitalSequences.lookup c.toNat with
    | some codes => codes.map Char.ofNat
    | none => [Char.ofNat (imageIn capitalRuns c.toNat)]

/-- The small form of a character that stands alone. -/
def small (c : Char) : List Char :=
  if c.val < 128 then [smallAscii c]
  else if c.val = 0x130 then ['i', Char.ofNat 0x307]
  else [Char.ofNat (imageIn smallRuns c.toNat)]

/-- Whether a character is a letter with case. -/
def isCased (c : Char) : Bool :=
  if c.val < 128 then (65 ≤ c.val && c.val ≤ 90) || (97 ≤ c.val && c.val ≤ 122)
  else inRanges casedRanges c.toNat

/-- Whether a character is passed over when looking for cased letters around a sigma. -/
def isCaseIgnorable (c : Char) : Bool :=
  if c.val < 128 then c.val == 39 || c.val == 46 || c.val == 58 || c.val == 94 || c.val == 96
  else inRanges ignorableRanges c.toNat

/-- Whether the first character that is not passed over is a cased letter. -/
def startsCased (cs : List Char) : Bool :=
  match cs.dropWhile isCaseIgnorable with
  | c :: _ => isCased c
  | [] => false

/-- The text in capitals. -/
def upper (s : String) : String := String.ofList (s.toList.flatMap capital)

/-- The small form of characters that stand after those of `before`, which are held in reverse. -/
def lowerAfter (before : List Char) : List Char → List Char
  | [] => []
  | c :: cs =>
    (if c.val = 0x3A3 then
      [Char.ofNat (if startsCased before && !startsCased cs then 0x3C2 else 0x3C3)]
    else small c) ++ lowerAfter (c :: before) cs

/-- The text in small letters. -/
def lower (s : String) : String := String.ofList (lowerAfter [] s.toList)

end ShareLedger.Text
