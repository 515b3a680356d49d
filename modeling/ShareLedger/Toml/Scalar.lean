import ShareLedger.Text.Cut
import ShareLedger.Text.Hex
import ShareLedger.Toml
/-!
# Toml.Scalar

Numbers, truth values, dates and times of TOML. Each reader takes what it finds in front of a text
and gives the kind of the value and the rest.

1. Underscores may stand between two digits. A decimal integer has no needless zero in front, an
   integer with a base no sign; integers have to fit 64 bits with a sign.
2. A number with a point or an exponent has to lie below the greatest number of the 64-bit binary
   floating-point format, and half a step above it counts as too great. There is no such bound
   for negative ones.
3. A day has to exist in its month. A minute may have a second 60.
-/

namespace ShareLedger.Toml

/-! ## Digits -/

/-- The digits in front, with single underscores between them left out, and the rest. -/
def moreDigits (isDigit : Char → Bool) : List Char → List Char × List Char
  | '_' :: c :: cs =>
    if isDigit c then
      let (ds, rest) := moreDigits isDigit cs
      (c :: ds, rest)
    else ([], '_' :: c :: cs)
  | c :: cs =>
    if isDigit c then
      let (ds, rest) := moreDigits isDigit cs
      (c :: ds, rest)
    else ([], c :: cs)
  | [] => ([], [])

/-- At least one digit. -/
def someDigits (isDigit : Char → Bool) : List Char → Option (List Char × List Char)
  | c :: cs =>
    if isDigit c then
      let (ds, rest) := moreDigits isDigit cs
      some (c :: ds, rest)
    else none
  | [] => none

/-- A sign, if there is one: whether it is a minus sign, and the rest. -/
def sign : List Char → Bool × List Char
  | '-' :: cs => (true, cs)
  | '+' :: cs => (false, cs)
  | cs => (false, cs)

/-- The digits of a decimal integer: a zero alone, or digits that start with another one. -/
def wholeDigits : List Char → Option (List Char × List Char)
  | '0' :: cs => some (['0'], cs)
  | cs => someDigits Char.isDigit cs

/-! ## Integers -/

/-- Whether an integer fits 64 bits with a sign. -/
def fits (n : Int) : Bool := -9223372036854775808 ≤ n && n ≤ 9223372036854775807

/-- An integer with a base. -/
def based (base : Nat) (cs : List Char) : Option (List Char) :=
  let isDigit (c : Char) : Bool := (Text.hexValue? c).any (· < base)
  match someDigits isDigit cs with
  | some (ds, rest) =>
    let n := ds.foldl (fun n c => base * n + (Text.hexValue? c).getD 0) 0
    if fits n then some rest else none
  | none => none

/-- A decimal integer. -/
def decimal (cs : List Char) : Option (List Char) :=
  let (negative, unsigned) := sign cs
  match wholeDigits unsigned with
  | some (ds, rest) =>
    let n : Int := Nat.ofDigitChars 10 ds 0
    if fits (if negative then -n else n) then some rest else none
  | none => none

/-- An integer. -/
def integer : List Char → Option (List Char)
  | '0' :: 'x' :: cs => based 16 cs
  | '0' :: 'o' :: cs => based 8 cs
  | '0' :: 'b' :: cs => based 2 cs
  | cs => decimal cs

/-! ## Fractions -/

/-- A point and digits. -/
def fractionPart : List Char → Option (List Char × List Char)
  | '.' :: cs => someDigits Char.isDigit cs
  | _ => none

/-- The mark of an exponent, a sign and digits: the exponent and the rest. -/
def exponentPart : List Char → Option (Int × List Char)
  | c :: cs =>
    if c = 'e' ∨ c = 'E' then
      let (negative, unsigned) := sign cs
      (someDigits Char.isDigit unsigned).map fun (ds, rest) =>
        let n : Int := Nat.ofDigitChars 10 ds 0
        (if negative then -n else n, rest)
    else none
  | [] => none

/-- The least number that is too great: the greatest one of the format and half a step. -/
def tooGreat : Nat := Nat.pow 2 1024 - Nat.pow 2 970

/-- Whether `mantissa * 10 ^ exponent` is too great. -/
def isTooGreat (mantissa : Nat) (exponent : Int) : Bool :=
  let size : Int := exponent + (Nat.toDigits 10 mantissa).length
  if mantissa = 0 ∨ size < 300 then false
  else if 310 < size then true
  else if 0 ≤ exponent then tooGreat ≤ mantissa * Nat.pow 10 exponent.toNat
  else tooGreat * Nat.pow 10 (-exponent).toNat ≤ mantissa

/-- A number with a point, an exponent or both. -/
def fraction (cs : List Char) : Option (List Char) :=
  let (negative, unsigned) := sign cs
  match wholeDigits unsigned with
  | none => none
  | some (whole, r) =>
    let part := fractionPart r
    let (places, r) := part.getD ([], r)
    match exponentPart r, part with
    | none, none => none
    | e, _ =>
      let (exponent, rest) := e.getD (0, r)
      let mantissa := Nat.ofDigitChars 10 (whole ++ places) 0
      if !negative && isTooGreat mantissa (exponent - places.length) then none else some rest

/-- Infinity or the number that is none, with or without a sign. -/
def special (cs : List Char) : Option (List Char) :=
  let unsigned := (sign cs).2
  (Text.dropLead ['i', 'n', 'f'] unsigned).or (Text.dropLead ['n', 'a', 'n'] unsigned)

/-! ## Dates and times -/

/-- A number of a given count of digits and between two bounds. -/
def fixed (count least greatest : Nat) (cs : List Char) : Option (Nat × List Char) :=
  let ds := cs.take count
  let n := Nat.ofDigitChars 10 ds 0
  if ds.length = count ∧ ds.all Char.isDigit ∧ least ≤ n ∧ n ≤ greatest then some (n, cs.drop count)
  else none

/-- How many days a month has. -/
def daysIn (year month : Nat) : Nat :=
  if month = 2 then
    if year % 4 = 0 ∧ (year % 100 ≠ 0 ∨ year % 400 = 0) then 29 else 28
  else if month = 4 ∨ month = 6 ∨ month = 9 ∨ month = 11 then 30
  else 31

/-- A day, as in `1979-05-27`. -/
def date (cs : List Char) : Option (List Char) := do
  let (year, r) ← fixed 4 0 9999 cs
  let r ← Text.dropLead ['-'] r
  let (month, r) ← fixed 2 1 12 r
  let r ← Text.dropLead ['-'] r
  let (_, r) ← fixed 2 1 (daysIn year month) r
  some r

/-- Drops a point and digits, if there are both. -/
def dropSecondPart : List Char → List Char
  | '.' :: c :: cs => if c.isDigit then cs.dropWhile Char.isDigit else '.' :: c :: cs
  | cs => cs

/-- A time of day, as in `07:32:00.5`. -/
def time (cs : List Char) : Option (List Char) := do
  let (_, r) ← fixed 2 0 23 cs
  let r ← Text.dropLead [':'] r
  let (_, r) ← fixed 2 0 59 r
  let r ← Text.dropLead [':'] r
  let (_, r) ← fixed 2 0 60 r
  some (dropSecondPart r)

/-- The distance from universal time, as in `Z` and `-07:00`. -/
def offset : List Char → Option (List Char)
  | 'Z' :: cs => some cs
  | 'z' :: cs => some cs
  | c :: cs =>
    if c = '+' ∨ c = '-' then do
      let (_, r) ← fixed 2 0 23 cs
      let r ← Text.dropLead [':'] r
      let (_, r) ← fixed 2 0 59 r
      some r
    else none
  | [] => none

/-- A time behind a date, with its distance from universal time if that is given. -/
def timeOfDate : List Char → Option (List Char)
  | c :: cs =>
    if c = 'T' ∨ c = 't' ∨ c = ' ' then (time cs).map fun r => (offset r).getD r else none
  | [] => none

/-- A date, a time or both. -/
def dateTime (cs : List Char) : Option (List Char) :=
  match date cs with
  | some r => some ((timeOfDate r).getD r)
  | none => time cs

/-! ## All of them -/

/-- The first of several readers that finds something. -/
def firstOf (readers : List (Toml × (List Char → Option (List Char)))) (cs : List Char) :
    Option (Toml × List Char) :=
  readers.findSome? fun (v, read) => (read cs).map fun rest => (v, rest)

/-- A number, a truth value, a date or a time, and the rest. -/
def scalar (cs : List Char) : Option (Toml × List Char) :=
  firstOf [(moment, dateTime), (number, fraction), (number, special), (number, integer),
    (truth, Text.dropLead ['t', 'r', 'u', 'e']),
    (truth, Text.dropLead ['f', 'a', 'l', 's', 'e'])] cs

end ShareLedger.Toml
