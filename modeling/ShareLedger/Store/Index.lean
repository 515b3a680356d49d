import ShareLedger.Amount
import ShareLedger.Book
/-!
# Store.Index

The games that are kept: every game's log under its name, and the name of the game in play.

1. A game is made when its log is first kept and keeps that moment as long as it is in the index.
2. Deleting a game also clears the name of the game in play, if it is that game's.
3. The changes an index can undergo are values (`Change`), so that a change can be planned before it
   is made.
-/

namespace ShareLedger

/-- A game that is kept: its log, and when it was made and last changed, in seconds of the clock. -/
structure GameRecord where
  events : List String
  createdAt : Amount
  updatedAt : Amount
deriving DecidableEq

/-- All games, and the name of the one in play. -/
structure GameIndex where
  current : Option String
  games : Book GameRecord
deriving DecidableEq

/-- A change of an index. -/
inductive Change where
  /-- Keep a game's log. -/
  | save (name : String) (events : List String)
  | delete (name : String)
  /-- Set or clear the name of the game in play. -/
  | point (name : Option String)
deriving DecidableEq

namespace GameIndex

/-- The index without games. -/
def empty : GameIndex := ⟨none, ∅⟩

/-- Whether there is a game of a name. -/
def has (i : GameIndex) (name : String) : Bool := i.games.contains name

/-- The log of a game. -/
def eventsOf (i : GameIndex) (name : String) : Option (List String) :=
  (i.games.get? name).map (·.events)

/-- All games with their logs, in the order of their names. -/
def logs (i : GameIndex) : List (String × List String) :=
  i.games.entries.map fun (name, record) => (name, record.events)

/-- Keeps a game's log at a moment of the clock. -/
def save (i : GameIndex) (now : Amount) (name : String) (events : List String) : GameIndex :=
  let createdAt :=
    match i.games.get? name with
    | some record => record.createdAt
    | none => now
  { i with games := i.games.insert name ⟨events, createdAt, now⟩ }

/-- Drops a game. -/
def delete (i : GameIndex) (name : String) : GameIndex where
  games := i.games.erase name
  current := if i.current = some name then none else i.current

/-- Sets or clears the name of the game in play. -/
def point (i : GameIndex) (name : Option String) : GameIndex := { i with current := name }

/-- Makes a change at a moment of the clock. -/
def change (i : GameIndex) (now : Amount) : Change → GameIndex
  | .save name events => i.save now name events
  | .delete name => i.delete name
  | .point name => i.point name

end GameIndex
end ShareLedger
