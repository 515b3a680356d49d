import ShareLedger.Store
import ShareLedger.Store.Json
/-!
# Store.File

A store in a file, and the same questions and changes asked of an index in memory.

1. Without a file the index is empty; a file that does not hold an index cannot be opened.
2. Every change is written to the file at once, and nothing else writes to it. A file that was never
   changed keeps its text.
3. Opening the file again reads the index back from the text.
-/

namespace ShareLedger

/-- What can be asked of a store. -/
inductive StoreCall where
  | has (name : String)
  | events (name : String)
  | record (name : String)
  | logs
  | current
  | change (c : Change)
  /-- Leave the store and open it again. -/
  | reopen
deriving DecidableEq

/-- The answer of a store. -/
inductive StoreAnswer where
  | flag (b : Bool)
  | events (log : Option (List String))
  | record (r : Option GameRecord)
  | logs (games : List (String × List String))
  | current (name : Option String)
  | done
deriving DecidableEq

/-- The index in memory answers; opening it again changes nothing. -/
def GameIndex.call (i : GameIndex) (now : Amount) : StoreCall → GameIndex × StoreAnswer
  | .has name => (i, .flag (i.has name))
  | .events name => (i, .events (i.eventsOf name))
  | .record name => (i, .record (i.games.get? name))
  | .logs => (i, .logs i.logs)
  | .current => (i, .current i.current)
  | .change c => (i.change now c, .done)
  | .reopen => (i, .done)

/-- An open store with the text of its file, if there is a file. -/
structure FileStore where
  index : GameIndex
  text : Option String

namespace FileStore

/-- Opens the file with a text. -/
def ofText? : Option String → Except StoreError FileStore
  | none => .ok ⟨.empty, none⟩
  | some text =>
    match GameIndex.read? text with
    | some index => .ok ⟨index, some text⟩
    | none => .error .parse

/-- Changes the index and writes the file. -/
def change (s : FileStore) (now : Amount) (c : Change) : FileStore :=
  let index := s.index.change now c
  ⟨index, some index.render⟩

/-- The store answers at a moment of the clock. -/
def call (s : FileStore) (now : Amount) : StoreCall → Except StoreError (FileStore × StoreAnswer)
  | .change c => .ok (s.change now c, .done)
  | .reopen => (ofText? s.text).map fun s => (s, .done)
  | c => .ok (s, (s.index.call now c).2)

end FileStore
end ShareLedger
