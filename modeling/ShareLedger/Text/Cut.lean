/-!
# Text.Cut

Cutting text at a mark or behind a known beginning, and setting texts one after another.
-/

namespace ShareLedger.Text

/-- What stands before and after the first `mark`, when there is one. -/
def cutAt (mark : Char) : List Char → Option (List Char × List Char)
  | [] => none
  | c :: cs =>
    if c = mark then some ([], cs)
    else (cutAt mark cs).map fun (before, after) => (c :: before, after)

/-- The pieces between the marks of a text; there is one more of them than marks. -/
def pieces (mark : Char) : List Char → List (List Char)
  | [] => [[]]
  | c :: cs =>
    if c = mark then [] :: pieces mark cs
    else
      match pieces mark cs with
      | first :: rest => (c :: first) :: rest
      | [] => [[c]]

/-- How many bytes characters take. -/
def byteCount : List Char → Nat
  | [] => 0
  | c :: cs => c.utf8Size + byteCount cs

/-- The characters in front of and behind a place that is given by the bytes in front of it; nothing
when the place lies inside a character or behind the end. -/
def cutBytes : Nat → List Char → Option (List Char × List Char)
  | 0, cs => some ([], cs)
  | _ + 1, [] => none
  | bytes + 1, c :: cs =>
    if c.utf8Size ≤ bytes + 1 then
      (cutBytes (bytes + 1 - c.utf8Size) cs).map fun (front, back) => (c :: front, back)
    else none

/-- The text without `lead` in front, when it starts so. -/
def dropLead : List Char → List Char → Option (List Char)
  | [], cs => some cs
  | _ :: _, [] => none
  | l :: lead, c :: cs => if l = c then dropLead lead cs else none

/-- Whether a text starts with another one. -/
def startsWith (s lead : String) : Bool := (dropLead lead.toList s.toList).isSome

/-- Texts set one after another with a separator between each two. -/
def joinWith (separator : String) : List String → String
  | [] => ""
  | [s] => s
  | s :: rest => s ++ separator ++ joinWith separator rest

end ShareLedger.Text
