import ShareLedger.Text.Cut
import ShareLedger.Text.Hex
/-!
# Toml.Text

The four ways of writing a text in TOML: in double quotes, where a backslash begins an escape, or in
single quotes, where nothing does; and each of them on one line, or in three quotes over several.

1. No control character but the tab may stand in a text, and no escape gives half a surrogate pair.
2. A line end in a text of several lines is a line feed, however it is written. A line end directly
   behind the opening quotes does not count, nor does one behind a backslash, together with all
   blanks and line ends that follow it.
3. Up to two quotes of the kind that ends a text of several lines may stand directly in front of its
   three closing quotes.
-/

namespace ShareLedger.Toml

/-- The blanks of a line. -/
def isSpace (c : Char) : Bool := c == ' ' || c == '\t'

/-- The characters that may stand in comments and texts. -/
def isPlain (c : Char) : Bool := c == '\t' || (32 ≤ c.toNat && c.toNat != 127)

/-- The rest behind a line end. -/
def lineEnd? : List Char → Option (List Char)
  | '\n' :: cs => some cs
  | '\r' :: '\n' :: cs => some cs
  | _ => none

/-- Drops a line end in front. -/
def dropLineEnd (cs : List Char) : List Char := (lineEnd? cs).getD cs

/-! ## Escapes -/

/-- The character of a code, which is none of the halves of surrogate pairs. -/
def charOfCode? (n : Nat) : Option Char :=
  if n.isValidChar then some (Char.ofNat n) else none

/-- The character that digits of sixteen give, of which there must be enough in front. -/
def codeEscape? (length : Nat) (cs : List Char) : Option Char :=
  let ds := cs.take length
  if ds.length = length then (Text.hexNumber? ds).bind charOfCode? else none

/-- The character that an escape gives and how many characters stand behind its backslash. -/
def escape? : List Char → Option (Char × Nat)
  | 'b' :: _ => some (Char.ofNat 8, 1)
  | 't' :: _ => some ('\t', 1)
  | 'n' :: _ => some ('\n', 1)
  | 'f' :: _ => some (Char.ofNat 12, 1)
  | 'r' :: _ => some ('\r', 1)
  | '"' :: _ => some ('"', 1)
  | '\\' :: _ => some ('\\', 1)
  | 'u' :: cs => (codeEscape? 4 cs).map fun c => (c, 5)
  | 'U' :: cs => (codeEscape? 8 cs).map fun c => (c, 9)
  | _ => none

/-- How many blanks and characters of line ends stand in front. -/
def gap : List Char → Nat
  | '\r' :: '\n' :: cs => gap cs + 2
  | c :: cs => if isSpace c || c == '\n' then gap cs + 1 else 0
  | [] => 0

/-- How many characters behind its backslash belong to an escaped line end. -/
def escapedLineEnd? (cs : List Char) : Option Nat :=
  let spaces := (cs.takeWhile isSpace).length
  (lineEnd? (cs.drop spaces)).map fun _ => gap cs

/-! ## Texts -/

/-- A character before what is read. -/
def before (c : Char) (read : Option (List Char × List Char)) : Option (List Char × List Char) :=
  read.map fun (cs, rest) => (c :: cs, rest)

/-- A text in double quotes up to its closing quote, and what follows it. The first `passed`
characters belong to an escape that is read already. -/
def basic (passed : Nat) : List Char → Option (List Char × List Char)
  | [] => none
  | c :: cs =>
    match passed with
    | passed + 1 => basic passed cs
    | 0 =>
      if c = '"' then some ([], cs)
      else if c = '\\' then
        match escape? cs with
        | some (e, length) => before e (basic length cs)
        | none => none
      else if isPlain c then before c (basic 0 cs)
      else none

/-- A text in single quotes up to its closing quote, and what follows it. -/
def literal : List Char → Option (List Char × List Char)
  | [] => none
  | c :: cs =>
    if c = '\'' then some ([], cs) else if isPlain c then before c (literal cs) else none

/-- Whether a text of several lines ends here, with the quotes in front of the closing ones and the
rest. -/
def closing? (quote : Char) (cs : List Char) : Option (List Char × List Char) :=
  let run := (cs.takeWhile (· == quote)).length
  if run < 3 then none
  else
    let inside := min (run - 3) 2
    some (List.replicate inside quote, cs.drop (inside + 3))

/-- A text of several lines up to its closing quotes, and what follows it. The first `passed`
characters belong to an escape or a line end that is read already. -/
def lines (quote : Char) (passed : Nat) : List Char → Option (List Char × List Char)
  | [] => none
  | c :: cs =>
    match passed with
    | passed + 1 => lines quote passed cs
    | 0 =>
      match closing? quote (c :: cs) with
      | some ending => some ending
      | none =>
        if c = '\\' ∧ quote = '"' then
          match escapedLineEnd? cs with
          | some length => lines quote length cs
          | none =>
            match escape? cs with
            | some (e, length) => before e (lines quote length cs)
            | none => none
        else if c = '\r' then
          if cs.head? = some '\n' then before '\n' (lines quote 1 cs) else none
        else if c = '\n' ∨ isPlain c then before c (lines quote 0 cs)
        else none

/-- A text on one line in either kind of quotes, and what follows it. -/
def lineText : List Char → Option (List Char × List Char)
  | '"' :: cs => basic 0 cs
  | '\'' :: cs => literal cs
  | _ => none

/-- A text in any kind of quotes, and what follows it. -/
def quoted (cs : List Char) : Option (List Char × List Char) :=
  match Text.dropLead ['"', '"', '"'] cs with
  | some r => lines '"' 0 (dropLineEnd r)
  | none =>
    match Text.dropLead ['\'', '\'', '\''] cs with
    | some r => lines '\'' 0 (dropLineEnd r)
    | none => lineText cs

end ShareLedger.Toml
