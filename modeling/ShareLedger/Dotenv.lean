import ShareLedger.Text.Blank
import ShareLedger.Text.Letter
/-!
# Dotenv

The environment, and a file that adds to it.

1. A line of the file gives a name and a value, as in `NAME=value`; blank lines and lines that start
   with `#` are passed over, and `export` may stand in front. A name that the environment has
   already keeps its value.
2. In a value, single quotes take everything as it is. Elsewhere a backslash begins an escape and a
   dollar sign the name of another value, in braces or up to the first character that is no letter
   or digit. Outside quotes a blank ends the value, and only blanks and a comment may follow it.
3. The first line that cannot be read ends the file; the lines in front of it count.
-/

namespace ShareLedger

/-- The values of names. -/
abbrev Environment := String → Option String

namespace Dotenv

/-! ## Values -/

/-- Where in a value the reader is, double quotes aside. -/
inductive Place where
  | open
  /-- Inside single quotes. -/
  | quoted
  /-- Behind a backslash. -/
  | escaped
  /-- Behind the value. -/
  | ended
  /-- In the name of another value. -/
  | name (so_far : List Char)
  /-- In such a name in braces. -/
  | braced (so_far : List Char)

/-- The value of a name; nothing when it has none. -/
def valueOf (env : Environment) (name : List Char) : List Char :=
  ((env (String.ofList name)).getD "").toList

/-- The characters that may be escaped, with what they stand for. -/
def escape? (c : Char) : Option Char :=
  if c = '\\' ∨ c = '\'' ∨ c = '"' ∨ c = '$' ∨ c = ' ' then some c
  else if c = 'n' then some '\n'
  else none

/-- What characters add to a value, read from a place on; `inQuotes` tells whether double quotes are
open. -/
def value (env : Environment) (inQuotes : Bool) : Place → List Char → Option (List Char)
  | .quoted, [] => none
  | .braced _, [] => none
  | .name n, [] => if inQuotes then none else some (valueOf env n)
  | _, [] => if inQuotes then none else some []
  | .ended, c :: cs =>
    if c = ' ' ∨ c = '\t' then value env inQuotes .ended cs
    else if c = '#' then some []
    else none
  | .escaped, c :: cs =>
    match escape? c with
    | some e => (value env inQuotes .open cs).map (e :: ·)
    | none => none
  | .quoted, c :: cs =>
    if c = '\'' then value env inQuotes .open cs
    else (value env inQuotes .quoted cs).map (c :: ·)
  | .name n, c :: cs =>
    if Text.isLetterOrDigit c then value env inQuotes (.name (n ++ [c])) cs
    else if c = '{' ∧ n = [] then value env inQuotes (.braced []) cs
    else if c = '$' then (value env inQuotes (.name []) cs).map (valueOf env n ++ ·)
    else (value env inQuotes .open cs).map (valueOf env n ++ c :: ·)
  | .braced n, c :: cs =>
    if c = '}' then (value env inQuotes .open cs).map (valueOf env n ++ ·)
    else value env inQuotes (.braced (n ++ [c])) cs
  | .open, c :: cs =>
    if c = '$' then value env inQuotes (.name []) cs
    else if c = '"' then value env (!inQuotes) .open cs
    else if c = '\\' then value env inQuotes .escaped cs
    else if inQuotes then (value env inQuotes .open cs).map (c :: ·)
    else if c = '\'' then value env inQuotes .quoted cs
    else if c = ' ' ∨ c = '\t' then value env inQuotes .ended cs
    else (value env inQuotes .open cs).map (c :: ·)

/-! ## Lines -/

/-- Drops the blanks in front. -/
def skip (cs : List Char) : List Char := cs.dropWhile Text.isBlank

/-- A name and what follows it and its blanks. -/
def name? : List Char → Option (List Char × List Char)
  | [] => none
  | c :: cs =>
    if c.isAlpha || c == '_' then
      let isPart (c : Char) : Bool := c.isAlphanum || c == '_' || c == '.'
      some (c :: cs.takeWhile isPart, skip (cs.dropWhile isPart))
    else none

/-- The name in front of an equals sign and what follows the sign. -/
def assignment? (cs : List Char) : Option (List Char × List Char) :=
  match name? cs with
  | some (n, '=' :: rest) => some (n, rest)
  | some (n, rest) =>
    if n = ['e', 'x', 'p', 'o', 'r', 't'] then
      match name? rest with
      | some (n, '=' :: rest) => some (n, rest)
      | _ => none
    else none
  | none => none

/-- Whether nothing but a comment is left of a line. -/
def isOver : List Char → Bool
  | [] => true
  | c :: _ => c == '#'

/-- What a line does to the environment; nothing when it cannot be read. -/
def line (env : Environment) (cs : List Char) : Option Environment :=
  let cs := skip (Text.dropEndWhile Text.isBlank cs)
  if isOver cs then some env
  else
    match assignment? cs with
    | none => none
    | some (name, rest) =>
      let rest := skip rest
      (if isOver rest then some [] else value env false .open rest).map fun v key =>
        if key = String.ofList name then some ((env key).getD (String.ofList v)) else env key

/-- The environment after lines of the file. -/
def extendLines (env : Environment) : List (List Char) → Environment
  | [] => env
  | cs :: rest =>
    match line env cs with
    | some env => extendLines env rest
    | none => env

/-- The environment after a file, if there is one. -/
def extend (env : Environment) : Option String → Environment
  | some text => extendLines env ((Text.lines text).map String.toList)
  | none => env

end Dotenv
end ShareLedger
