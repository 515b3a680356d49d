import ShareLedger.Json
import ShareLedger.Text.Cut
/-!
# Json.Reader

Reading JSON text.

1. Blanks are the space, the tab, the line feed and the carriage return. They may stand around every
   value and mark, and nothing but blanks may follow the value.
2. A text may not hold characters below U+0020 as they are. Two escapes that are the halves of a
   surrogate pair are one character; half a pair that stands alone makes the text unreadable as
   characters, but not as JSON.
3. A number has no needless zero in front. It is an integer when it has neither a point nor an
   exponent and is not `-0`.
4. Values nest as deep as the text allows. Every call of the reader uses up a character or is
   followed by one that does, so the length of the text bounds their number (`read?`).
-/

namespace ShareLedger.Json

/-- The characters that may stand between values and marks. -/
def isSpace (c : Char) : Bool := c == ' ' || c == '\n' || c == '\t' || c == '\r'

/-- Drops the blanks in front. -/
def skip (cs : List Char) : List Char := cs.dropWhile isSpace

/-! ## Texts -/

/-- The code that the character after a backslash stands for. -/
def shortEscape? : Char → Option Nat
  | '"' => some 34
  | '\\' => some 92
  | '/' => some 47
  | 'b' => some 8
  | 'f' => some 12
  | 'n' => some 10
  | 'r' => some 13
  | 't' => some 9
  | _ => none

/-- The codes of a text up to its closing quote, and what follows it. Halves of surrogate pairs are
codes of their own here. -/
def codes : List Char → Option (List Nat × List Char)
  | [] => none
  | '"' :: cs => some ([], cs)
  | '\\' :: 'u' :: a :: b :: c :: d :: cs => do
    let n ← Text.hexNumber? [a, b, c, d]
    let (ns, rest) ← codes cs
    some (n :: ns, rest)
  | '\\' :: e :: cs => do
    let n ← shortEscape? e
    let (ns, rest) ← codes cs
    some (n :: ns, rest)
  | c :: cs =>
    if c.toNat < 32 then none
    else do
      let (ns, rest) ← codes cs
      some (c.toNat :: ns, rest)

/-- Whether a code is the first half of a surrogate pair. -/
def isHigh (n : Nat) : Bool := 0xD800 ≤ n && n < 0xDC00

/-- Whether a code is the second half of a surrogate pair. -/
def isLow (n : Nat) : Bool := 0xDC00 ≤ n && n < 0xE000

/-- The characters of codes, a pair of halves being one; none when a half stands alone. -/
def characters : List Nat → Option (List Char)
  | [] => some []
  | n :: m :: ns =>
    if isHigh n && isLow m then
      (characters ns).map (Char.ofNat (0x10000 + (n - 0xD800) * 0x400 + (m - 0xDC00)) :: ·)
    else if isHigh n || isLow n then none
    else (characters (m :: ns)).map (Char.ofNat n :: ·)
  | [n] => if isHigh n || isLow n then none else some [Char.ofNat n]

/-- A text whose opening quote is read, and what follows it; without characters when it holds half a
surrogate pair. -/
def quoted (cs : List Char) : Option (Option String × List Char) :=
  (codes cs).map fun (ns, rest) => ((characters ns).map String.ofList, rest)

/-! ## Numbers -/

/-- The digits in front, of which there must be one, and what follows them. -/
def digits (cs : List Char) : Option (List Char × List Char) :=
  let ds := cs.takeWhile Char.isDigit
  if ds.isEmpty then none else some (ds, cs.dropWhile Char.isDigit)

/-- Digits after a point, if a point comes next; whether one does, and what follows. -/
def fractionPart : List Char → Option (Bool × List Char)
  | '.' :: cs => (digits cs).map fun (_, rest) => (true, rest)
  | cs => some (false, cs)

/-- Drops a sign in front. -/
def dropSign : List Char → List Char
  | '+' :: cs => cs
  | '-' :: cs => cs
  | cs => cs

/-- An exponent, if the mark of one comes next; whether one does, and what follows. -/
def exponentPart : List Char → Option (Bool × List Char)
  | c :: cs =>
    if c = 'e' ∨ c = 'E' then (digits (dropSign cs)).map fun (_, rest) => (true, rest)
    else some (false, c :: cs)
  | [] => some (false, [])

/-- Whether a number of several digits starts with a zero. -/
def hasNeedlessZero : List Char → Bool
  | '0' :: _ :: _ => true
  | _ => false

/-- What stands before the rest of a text. -/
def before (cs rest : List Char) : List Char := cs.take (cs.length - rest.length)

/-- A number and what follows it. -/
def number (cs : List Char) : Option (Json × List Char) := do
  let (negative, unsigned) := match cs with
    | '-' :: r => (true, r)
    | r => (false, r)
  let (whole, r) ← digits unsigned
  if hasNeedlessZero whole then none
  else
    let (pointed, r) ← fractionPart r
    let (scaled, r) ← exponentPart r
    let n : Int := Nat.ofDigitChars 10 whole 0
    if pointed || scaled || (negative && n == 0) then some (verbatim (before cs r), r)
    else some (integer (if negative then -n else n), r)

/-! ## Values -/

/-- One of the three words, or a number. -/
def scalar (cs : List Char) : Option (Json × List Char) :=
  match Text.dropLead ['n', 'u', 'l', 'l'] cs with
  | some r => some (null, r)
  | none =>
    match Text.dropLead ['t', 'r', 'u', 'e'] cs with
    | some r => some (bool true, r)
    | none =>
      match Text.dropLead ['f', 'a', 'l', 's', 'e'] cs with
      | some r => some (bool false, r)
      | none => number cs

/-- The members of an object whose names all have characters. -/
def named : List (Option String × Json) → Option (List (String × Json))
  | [] => some []
  | (some name, j) :: rest => (named rest).map ((name, j) :: ·)
  | (none, _) :: _ => none

mutual

/-- The value in front and what follows it. -/
def value : Nat → List Char → Option (Json × List Char)
  | 0, _ => none
  | fuel + 1, cs =>
    match skip cs with
    | '"' :: r =>
      (quoted r).map fun (s, rest) =>
        (match s with
          | some s => text s
          | none => verbatim (before (skip cs) rest), rest)
    | '[' :: r =>
      match skip r with
      | ']' :: rest => some (array [], rest)
      | r => (items fuel r).map fun (js, rest) => (array js, rest)
    | '{' :: r =>
      match skip r with
      | '}' :: rest => some (object [], rest)
      | r =>
        (members fuel r).map fun (ms, rest) =>
          (match named ms with
            | some ms => object ms
            | none => verbatim (before (skip cs) rest), rest)
    | r => scalar r

/-- The items of an array up to its closing bracket and what follows it. -/
def items : Nat → List Char → Option (List Json × List Char)
  | 0, _ => none
  | fuel + 1, cs => do
    let (j, r) ← value fuel cs
    match skip r with
    | ']' :: rest => some ([j], rest)
    | ',' :: r => (items fuel r).map fun (js, rest) => (j :: js, rest)
    | _ => none

/-- The members of an object up to its closing brace and what follows it. -/
def members : Nat → List Char → Option (List (Option String × Json) × List Char)
  | 0, _ => none
  | fuel + 1, cs =>
    match skip cs with
    | '"' :: r => do
      let (name, r) ← quoted r
      match skip r with
      | ':' :: r =>
        let (j, r) ← value fuel r
        match skip r with
        | '}' :: rest => some ([(name, j)], rest)
        | ',' :: r => (members fuel r).map fun (ms, rest) => ((name, j) :: ms, rest)
        | _ => none
      | _ => none
    | _ => none

end

/-- The value that a text writes. -/
def read? (s : String) : Option Json :=
  match value (2 * s.length + 1) s.toList with
  | some (j, rest) => if rest.all isSpace then some j else none
  | none => none

/-! ## Looking into values -/

/-- The text that a value is. -/
def asText? : Json → Option String
  | text s => some s
  | _ => none

/-- The texts that an array is made of. -/
def asTexts? : Json → Option (List String)
  | array items => items.mapM asText?
  | _ => none

/-- The value of a member of an object that has it at most once: nothing when it is repeated. -/
def member (name : String) (members : List (String × Json)) : Option (Option Json) :=
  match members.filter (·.1 == name) with
  | [] => some none
  | [(_, j)] => some (some j)
  | _ => none

/-- The values of named fields, each of which may be missing: of an object by name, other members
being passed over and a repeated one refused, of an array by position. An array may not have more
items than there are fields. -/
def fields (names : List String) : Json → Option (List (Option Json))
  | object members => names.mapM (member · members)
  | array items =>
    if names.length < items.length then none
    else some (items.map some ++ List.replicate (names.length - items.length) none)
  | _ => none

end ShareLedger.Json
