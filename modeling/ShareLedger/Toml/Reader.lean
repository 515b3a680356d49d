import ShareLedger.Toml
import ShareLedger.Toml.Scalar
import ShareLedger.Toml.Text
/-!
# Toml.Reader

Reading TOML documents.

1. A document is a sequence of lines: empty ones, comments, headers, and names with their values. A
   value may reach over several lines; every line but the last has to end with a line end.
2. Arrays may hold line ends and comments, and a comma behind their last item. Tables in braces may
   hold neither.
3. Arrays and braces nest at most 79 deep, and a path has at most 79 names.
4. Every call of the readers of values uses up a character or is followed by one that does, and so
   does every line but the last; the length of the document therefore bounds their number (`read?`).
-/

namespace ShareLedger.Toml

/-- The deepest nesting of values, and the greatest number of names on a path. -/
def deepest : Nat := 79

/-- Drops the blanks of a line in front. -/
def skip (cs : List Char) : List Char := cs.dropWhile isSpace

/-- Drops a comment, if one comes next. -/
def dropComment : List Char → List Char
  | '#' :: cs => cs.dropWhile isPlain
  | cs => cs

/-- The rest behind blanks, a comment and a line end. The document may end instead of the line. -/
def lineRest? (cs : List Char) : Option (List Char) :=
  match dropComment (skip cs) with
  | [] => some []
  | r => lineEnd? r

/-- Drops blanks, line ends and comments, each comment with its line end; nothing when a comment
does not end with its line. -/
def skipLines (commented : Bool) : List Char → Option (List Char)
  | [] => if commented then none else some []
  | '\r' :: '\n' :: cs => skipLines false cs
  | c :: cs =>
    if c = '\n' then skipLines false cs
    else if commented then if isPlain c then skipLines true cs else none
    else if isSpace c then skipLines false cs
    else if c = '#' then skipLines true cs
    else some (c :: cs)

/-! ## Paths -/

/-- The characters of a name without quotes. -/
def isNameChar (c : Char) : Bool := c.isAlphanum || c == '-' || c == '_'

/-- A name, with or without quotes. -/
def name (cs : List Char) : Option (String × List Char) :=
  match cs with
  | '"' :: _ => (lineText cs).map fun (s, rest) => (String.ofList s, rest)
  | '\'' :: _ => (lineText cs).map fun (s, rest) => (String.ofList s, rest)
  | _ =>
    let s := cs.takeWhile isNameChar
    if s.isEmpty then none else some (String.ofList s, cs.dropWhile isNameChar)

/-- Names with points between them: the names in front, the last one, and the rest. At most so many
names may follow the first. -/
def path : Nat → List Char → Option (List String × String × List Char)
  | more, cs => do
    let (first, r) ← name (skip cs)
    match skip r, more with
    | '.' :: r, more + 1 =>
      let (front, last, rest) ← path more r
      some (first :: front, last, rest)
    | '.' :: _, 0 => none
    | r, _ => some ([], first, r)

/-! ## Values -/

mutual

/-- The value in front and what follows it; `depth` more levels may be opened. -/
def value : Nat → Nat → List Char → Option (Toml × List Char)
  | 0, _, _ => none
  | fuel + 1, depth, cs =>
    match cs, depth with
    | '[' :: r, depth + 1 => (items fuel depth r).map fun (vs, rest) => (array vs, rest)
    | '{' :: r, depth + 1 =>
      match skip r with
      | '}' :: rest => some (table .braces [], rest)
      | r => (pairs fuel depth [] r).map fun (ms, rest) => (table .braces ms, rest)
    | cs, _ =>
      match quoted cs with
      | some (s, rest) => some (text (String.ofList s), rest)
      | none => scalar cs

/-- The items of an array up to its closing bracket and what follows it. -/
def items : Nat → Nat → List Char → Option (List Toml × List Char)
  | 0, _, _ => none
  | fuel + 1, depth, cs => do
    match ← skipLines false cs with
    | ']' :: rest => some ([], rest)
    | r =>
      let (v, r) ← value fuel depth r
      match ← skipLines false r with
      | ']' :: rest => some ([v], rest)
      | ',' :: r =>
        let (vs, rest) ← items fuel depth r
        some (v :: vs, rest)
      | _ => none

/-- The members of a table in braces up to its closing brace and what follows it, added to those
that are known. -/
def pairs : Nat → Nat → Members → List Char → Option (Members × List Char)
  | 0, _, _, _ => none
  | fuel + 1, depth, ms, cs => do
    let (front, last, r) ← path (deepest - 1) cs
    match r with
    | '=' :: r =>
      let (v, r) ← value fuel depth (skip r)
      let ms ← assign last v front ms
      match skip r with
      | '}' :: rest => some (ms, rest)
      | ',' :: r => pairs fuel depth ms r
      | _ => none
    | _ => none

end

/-! ## Documents -/

/-- A document as far as it is read: all of its tables, and the path of the one that is open. -/
structure Document where
  root : Members
  opened : List String

namespace Document

/-- Adds a value at the end of a path in the open table. -/
def assign (d : Document) (front : List String) (last : String) (v : Toml) : Option Document :=
  (change (Toml.assign last v front) d.opened d.root).map fun root => { d with root }

/-- Opens a table with a header. -/
def openTable (d : Document) (front : List String) (last : String) : Option Document :=
  (change (Toml.openTable last) front d.root).map fun root => ⟨root, front ++ [last]⟩

/-- Opens a further table of a list with a header. -/
def extendTables (d : Document) (front : List String) (last : String) : Option Document :=
  (change (Toml.extendTables last) front d.root).map fun root => ⟨root, front ++ [last]⟩

end Document

/-- A header and the rest behind its line. -/
def header (d : Document) (cs : List Char) : Option (Document × List Char) :=
  match cs with
  | '[' :: cs => do
    let (front, last, r) ← path (deepest - 1) cs
    let r ← Text.dropLead [']', ']'] r
    let d ← d.extendTables front last
    some (d, ← lineRest? r)
  | cs => do
    let (front, last, r) ← path (deepest - 1) cs
    let r ← Text.dropLead [']'] r
    let d ← d.openTable front last
    some (d, ← lineRest? r)

/-- A name with its value and the rest behind its line. -/
def assignment (fuel : Nat) (d : Document) (cs : List Char) : Option (Document × List Char) := do
  let (front, last, r) ← path (deepest - 1) cs
  let r ← Text.dropLead ['='] r
  let (v, r) ← value fuel deepest (skip r)
  let d ← d.assign front last v
  some (d, ← lineRest? r)

/-- The lines of a document. -/
def readLines (bound : Nat) : Nat → Document → List Char → Option Document
  | 0, _, _ => none
  | fuel + 1, d, cs =>
    match skip cs with
    | [] => some d
    | '[' :: r => do
      let (d, rest) ← header d r
      readLines bound fuel d rest
    | c :: r =>
      if c = '#' ∨ c = '\n' ∨ c = '\r' then do
        readLines bound fuel d (← lineRest? (c :: r))
      else do
        let (d, rest) ← assignment bound d (c :: r)
        readLines bound fuel d rest

/-- Drops a byte order mark in front. -/
def dropMark : List Char → List Char
  | c :: cs => if c.toNat = 0xFEFF then cs else c :: cs
  | [] => []

/-- The root table of the document that a text writes. -/
def read? (s : String) : Option Members :=
  (readLines (2 * s.length + 2) (s.length + 1) ⟨[], []⟩ (dropMark s.toList)).map (·.root)

end ShareLedger.Toml
