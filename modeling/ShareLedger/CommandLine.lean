import ShareLedger.Text.Cut
/-!
# CommandLine

The arguments with which the program is called.

1. There are four options besides the one for help. Those that take a value take it from behind an
   equals sign or from the next argument, which may then not look like an option; the short form
   takes it also from behind its letter.
2. No option may be given twice, and no argument may be anything but an option or its value. A
   directory may not be empty.
3. The first problem counts, and so does a question for help in front of it.
-/

namespace ShareLedger

/-- What the arguments ask for. -/
structure CommandLine where
  /-- Whether to run the line program. -/
  plain : Bool
  /-- The game to open. -/
  game : Option String
  /-- The address of the dashboard. -/
  url : Option String
  /-- The directory of the games. -/
  dataDir : Option String
deriving DecidableEq

namespace CommandLine

/-- Why the program does not begin. -/
inductive Stop where
  | help
  /-- The arguments are wrong. -/
  | wrong
deriving DecidableEq

/-- The text that explains the arguments. -/
def helpText : String := String.join [
  "Money and share ledger for 18xx games\n",
  "\n",
  "Usage: sharebook [OPTIONS]\n",
  "\n",
  "Options:\n",
  "      --plain                      Line-by-line REPL on stdin/stdout instead of the ",
  "full-screen interface\n",
  "  -g, --game <GAME>                Open this game instead of the last one played\n",
  "      --display-url <DISPLAY_URL>  Dashboard URL to mirror game state to\n",
  "      --data-dir <DATA_DIR>        Directory holding games.json and sharebook.log\n",
  "  -h, --help                       Print help\n"]

/-- The line that tells that the arguments are wrong. -/
def complaint : String :=
  "error: the arguments are not understood; for more information, try '--help'."

/-- An option. -/
inductive Flag where
  | plain
  | game
  | url
  | dataDir
  | help
deriving DecidableEq

/-- The option of a long name. -/
def flag? (name : List Char) : Option Flag :=
  match String.ofList name with
  | "plain" => some .plain
  | "game" => some .game
  | "display-url" => some .url
  | "data-dir" => some .dataDir
  | "help" => some .help
  | _ => none

/-- Arguments as they are understood one by one. -/
inductive Piece where
  /-- An option with the value that is written together with it. -/
  | option (flag : Flag) (value : Option String)
  /-- The mark behind which there are no options. -/
  | mark
  /-- Anything else, in particular an option that there is not. -/
  | other

/-- The short options and what is written together with them. -/
def short : List Char → Piece
  | 'h' :: _ => .option .help none
  | ['g'] => .option .game none
  | 'g' :: '=' :: value => .option .game (some (String.ofList value))
  | 'g' :: value => .option .game (some (String.ofList value))
  | _ => .other

/-- What an argument is. -/
def piece (argument : String) : Piece :=
  match argument.toList with
  | ['-', '-'] => .mark
  | '-' :: '-' :: cs =>
    match Text.cutAt '=' cs with
    | some (name, value) =>
      match flag? name with
      | some f => .option f (some (String.ofList value))
      | none => .other
    | none =>
      match flag? cs with
      | some f => .option f none
      | none => .other
  | '-' :: cs => short cs
  | _ => .other

/-- Whether an argument looks like an option. -/
def looksLikeOption (argument : String) : Bool :=
  match argument.toList with
  | '-' :: _ :: _ => true
  | _ => false

/-- Notes the value of an option. -/
def note (c : CommandLine) (flag : Flag) (value : String) : Except Stop CommandLine :=
  match flag with
  | .game => if c.game.isSome then .error .wrong else .ok { c with game := some value }
  | .url => if c.url.isSome then .error .wrong else .ok { c with url := some value }
  | .dataDir =>
    if c.dataDir.isSome ∨ value = "" then .error .wrong else .ok { c with dataDir := some value }
  | .plain => .error .wrong
  | .help => .error .wrong

/-- Reads further arguments. -/
def readMore (c : CommandLine) : List String → Except Stop CommandLine
  | [] => .ok c
  | argument :: rest =>
    match piece argument with
    | .mark => if rest.isEmpty then .ok c else .error .wrong
    | .other => .error .wrong
    | .option .help none => .error .help
    | .option .plain none =>
      if c.plain then .error .wrong else readMore { c with plain := true } rest
    | .option flag (some value) => do readMore (← c.note flag value) rest
    | .option flag none =>
      match rest with
      | [] => .error .wrong
      | value :: rest =>
        if looksLikeOption value then .error .wrong else do readMore (← c.note flag value) rest

/-- Reads the arguments. -/
def read (arguments : List String) : Except Stop CommandLine :=
  readMore ⟨false, none, none, none⟩ arguments

end CommandLine
end ShareLedger
