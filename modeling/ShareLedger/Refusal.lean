import ShareLedger.Text.Case
/-!
# Refusal

Why a command was not carried out. A refusal changes nothing and is answered with one line of text;
it never ends a sitting.
-/

namespace ShareLedger

/-- Why a command was not carried out. -/
inductive Refusal where
  /-- The line is no command. -/
  | unrecognized
  /-- An argument that has to be a number is none; carries what the argument is called. -/
  | notANumber (what : String)
  /-- An argument is missing; carries what the argument is called. -/
  | missing (what : String)
  /-- The command needs an open game. -/
  | noActiveGame
  | gameNotFound (name : String)
  | duplicateGame (name : String)
  /-- A round that is neither a stock nor an operating round. -/
  | unknownRound (token : String)
  | nothingToUndo
deriving DecidableEq, Repr

namespace Refusal

/-- The text with its first letter, if it is one of a to z, as a capital. -/
def capitalized (s : String) : String :=
  match s.toList with
  | [] => ""
  | c :: cs => String.ofList (Text.capitalAscii c :: cs)

/-- The line that tells the refusal. -/
def message : Refusal → String
  | unrecognized => "Unrecognized command!"
  | notANumber what => capitalized what ++ " is not a number!"
  | missing what => "Missing " ++ what ++ "."
  | noActiveGame => "No active game!"
  | gameNotFound name => "Game '" ++ name ++ "' doesn't exist."
  | duplicateGame name => "Game '" ++ name ++ "' already exists!"
  | unknownRound token => "Unknown round '" ++ token ++ "', use SR or OR."
  | nothingToUndo => "Nothing to undo."

end Refusal
end ShareLedger
