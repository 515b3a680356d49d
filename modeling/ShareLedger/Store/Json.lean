import ShareLedger.Json.Reader
import ShareLedger.Store.Index
/-!
# Store.Json

The index as a JSON value.

1. An index is written as an object of the name of the game in play, or `null`, and an object of the
   games. A game is an object of its log and its two moments.
2. It is read more freely: either may be missing, other members are passed over, and both kinds of
   objects may be arrays of their fields in the order in which they are written. Of games with the
   same name the last one counts, but every one has to be readable.
-/

namespace ShareLedger

namespace GameRecord

/-- The names of the fields of a game that is kept. -/
def fieldNames : List String := ["events", "created_at", "updated_at"]

/-- A game that is kept as a value. -/
def toJson (r : GameRecord) : Json :=
  .object [
    ("events", .array (r.events.map .text)),
    ("created_at", .integer r.createdAt.toInt),
    ("updated_at", .integer r.updatedAt.toInt)]

/-- The moment that a value is. -/
def moment? : Json → Option Amount
  | .integer n => Amount.ofInt? n
  | _ => none

/-- The game that a value is. -/
def ofJson? (j : Json) : Option GameRecord :=
  match j.fields fieldNames with
  | some [some events, some createdAt, some updatedAt] => do
    some ⟨← events.asTexts?, ← moment? createdAt, ← moment? updatedAt⟩
  | _ => none

end GameRecord

namespace GameIndex

/-- The names of the fields of an index. -/
def fieldNames : List String := ["current_game", "games"]

/-- An index as a value. -/
def toJson (i : GameIndex) : Json :=
  .object [
    ("current_game",
      match i.current with
      | some name => .text name
      | none => .null),
    ("games", .object (i.games.entries.map fun (name, record) => (name, record.toJson)))]

/-- The name of the game in play that a field holds. -/
def current? : Option Json → Option (Option String)
  | none => some none
  | some .null => some none
  | some (.text name) => some (some name)
  | some _ => none

/-- The games that a field holds. -/
def games? : Option Json → Option (Book GameRecord)
  | none => some ∅
  | some (.object members) =>
    (members.mapM fun m => (GameRecord.ofJson? m.2).map fun r => (m.1, r)).map Book.ofList
  | some _ => none

/-- The index that a value is. -/
def ofJson? (j : Json) : Option GameIndex :=
  match j.fields fieldNames with
  | some [current, games] => do some ⟨← current? current, ← games? games⟩
  | _ => none

/-- The text of the file that holds an index. -/
def render (i : GameIndex) : String := i.toJson.render

/-- The index that a file holds. -/
def read? (text : String) : Option GameIndex := (Json.read? text).bind ofJson?

end GameIndex
end ShareLedger
