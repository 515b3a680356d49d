import ShareLedger.Store.Index
/-!
# Store

Where games are kept, as a sitting sees it: an index, and writes that may fail.

1. Reading never fails. Every write has a fate, given in advance by its number: it is made at a
   moment of the clock, or it fails and changes nothing.
2. A command's writes are planned (`Plan`): one after another, each with the session that is open
   while it is tried. The first write that fails ends the plan; what was made before it stays, and
   so does the session that was open while it was tried (`Plan.run`).
-/

namespace ShareLedger

/-- Why a store could not be used. -/
inductive StoreError where
  /-- A file could not be read or written; carries the reason. -/
  | io (reason : String)
  /-- The file does not hold an index. -/
  | parse
deriving DecidableEq, Repr

/-- The line that tells why a store could not be used. -/
def StoreError.message : StoreError → String
  | io reason => "game store I/O error: " ++ reason
  | parse => "game store is not valid JSON"

/-- What becomes of a write. -/
inductive Fate where
  /-- It is made, at a moment of the clock. -/
  | made (now : Amount)
  /-- It fails and changes nothing. -/
  | failed (reason : String)
deriving DecidableEq

/-- An index with the fates of the writes to come. -/
structure Store where
  index : GameIndex
  /-- How many writes were tried. -/
  tried : Nat
  /-- What becomes of the write of each number. -/
  fate : Nat → Fate

/-- Tries a write. -/
def Store.write (s : Store) (c : Change) : Store × Option StoreError :=
  match s.fate s.tried with
  | .made now => ({ s with index := s.index.change now c, tried := s.tried + 1 }, none)
  | .failed reason => ({ s with tried := s.tried + 1 }, some (.io reason))

/-- The writes of a command and its answer. Sessions are of type `σ`. -/
inductive Plan (σ α : Type) where
  /-- Nothing more to write: the open session and the answer. -/
  | done (session : Option σ) (answer : α)
  /-- A write, the session that is open while it is tried, and what follows once it is made. -/
  | write (session : Option σ) (change : Change) (next : Plan σ α)

/-- What a plan comes to: the store, the open session, and the answer or the failure. -/
def Plan.run {σ α : Type} (store : Store) : Plan σ α → Store × Option σ × Except StoreError α
  | done session answer => (store, session, .ok answer)
  | write session change next =>
    match store.write change with
    | (store, none) => next.run store
    | (store, some e) => (store, session, .error e)

end ShareLedger
