import ShareLedger.Text.Hex
/-!
# Json

JSON values and their indented text.

1. A value is written over several lines, two blanks deeper for every level. An empty array or
   object is written without a line inside.
2. In a text the quote, the backslash and the characters below U+0020 are escaped and nothing else.
   Where there is a short escape it is used.
3. Values that the kinds here have no room for are kept as they were written (`Json.verbatim`), so
   that a text that holds them can still be read.
-/

namespace ShareLedger

/-- A JSON value. -/
inductive Json where
  | null
  | bool (b : Bool)
  | integer (n : Int)
  | text (s : String)
  | array (items : List Json)
  /-- An object, with its members in the order in which they are written. -/
  | object (members : List (String × Json))
  /-- A value as it was written: a number that is not an integer, a text with half a surrogate pair,
  or an object that has such a text as a name. -/
  | verbatim (written : List Char)

namespace Json

/-! ## Texts -/

/-- A character as it is written inside quotes. -/
def escape (c : Char) : List Char :=
  match c with
  | '"' => ['\\', '"']
  | '\\' => ['\\', '\\']
  | '\n' => ['\\', 'n']
  | '\r' => ['\\', 'r']
  | '\t' => ['\\', 't']
  | c =>
    if c.toNat = 8 then ['\\', 'b']
    else if c.toNat = 12 then ['\\', 'f']
    else if c.toNat < 32 then
      ['\\', 'u', '0', '0', Text.hexDigit (c.toNat / 16), Text.hexDigit (c.toNat % 16)]
    else [c]

/-- A text in quotes. -/
def quote (cs : List Char) : List Char := '"' :: cs.flatMap escape ++ ['"']

/-! ## Values -/

/-- An integer in decimal digits. -/
def integerChars (n : Int) : List Char :=
  if n < 0 then '-' :: Nat.toDigits 10 n.natAbs else Nat.toDigits 10 n.natAbs

/-- The beginning of a line at a depth. -/
def newLine (depth : Nat) : List Char := '\n' :: List.replicate (2 * depth) ' '

mutual

/-- A value that stands at a depth. -/
def chars (depth : Nat) : Json → List Char
  | null => ['n', 'u', 'l', 'l']
  | bool true => ['t', 'r', 'u', 'e']
  | bool false => ['f', 'a', 'l', 's', 'e']
  | integer n => integerChars n
  | text s => quote s.toList
  | array items => '[' :: itemsChars depth false items ++ [']']
  | object members => '{' :: membersChars depth false members ++ ['}']
  | verbatim written => written

/-- The items of an array at a depth and the line of its closing bracket; `further` tells that an
item stands before them. -/
def itemsChars (depth : Nat) (further : Bool) : List Json → List Char
  | [] => if further then newLine depth else []
  | j :: rest =>
    (if further then [','] else []) ++ newLine (depth + 1) ++ chars (depth + 1) j ++
      itemsChars depth true rest

/-- The members of an object at a depth and the line of its closing brace; `further` tells that a
member stands before them. -/
def membersChars (depth : Nat) (further : Bool) : List (String × Json) → List Char
  | [] => if further then newLine depth else []
  | (name, j) :: rest =>
    (if further then [','] else []) ++ newLine (depth + 1) ++ quote name.toList ++ [':', ' '] ++
      chars (depth + 1) j ++ membersChars depth true rest

end

/-- The indented text of a value. -/
def render (j : Json) : String := String.ofList (chars 0 j)

end Json
end ShareLedger
