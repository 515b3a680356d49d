import ShareLedger.Text.Cut
/-!
# Text.Place

Places in a text, given by the bytes in front of them, and edits at such places.

1. A place stands between two characters, in front of the first one or behind the last one. At a
   number of bytes that is no place of the text nothing can be done: the answer is `none`.
2. The neighbours of a place are found from the places at which the characters begin
   (`beginnings`).
-/

namespace ShareLedger.Text

/-- The places at which the characters of a text begin, where the first one begins at `start`. -/
def beginnings (start : Nat) : List Char → List Nat
  | [] => []
  | c :: cs => start :: beginnings (start + c.utf8Size) cs

/-- The place in front of the character that ends at a place; the beginning has none before it and
is its own. -/
def placeBefore? (cs : List Char) (place : Nat) : Option Nat :=
  (cutBytes place cs).map fun (front, _) => (beginnings 0 front).getLast?.getD 0

/-- The place behind the character that begins at a place; where the last character begins, and at
the end, that is the end. -/
def placeBehind? (cs : List Char) (place : Nat) : Option Nat :=
  (cutBytes place cs).map fun (_, back) => (beginnings place back)[1]?.getD (byteCount cs)

/-- A text with another one put in at a place. -/
def putIn? (cs : List Char) (place : Nat) (new : List Char) : Option (List Char) :=
  (cutBytes place cs).map fun (front, back) => front ++ new ++ back

/-- A text without what stands between two places, of which the first comes first. -/
def dropBetween? (cs : List Char) (first last : Nat) : Option (List Char) := do
  let (upTo, back) ← cutBytes last cs
  let (front, _) ← cutBytes first upTo
  return front ++ back

end ShareLedger.Text
