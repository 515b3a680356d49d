import ShareLedger.GameName
import ShareLedger.Help
import ShareLedger.Report
import ShareLedger.Session
import ShareLedger.Store
import ShareLedger.Text.Case
/-!
# Game

A sitting at the table: the store, the game that is open, and what an input line does to both.

1. `quit` and `exit`, whole or cut short, `undo`, `help` and `?` are looked for first; every other
   line is read as a command.
2. A command that is not carried out is answered with its refusal. Only a failure of the store is an
   error.
3. The reply says what a display has to do (`Effect`): nothing, show the game again, or end.
4. The log of the open game is kept after every command that changes it.
-/

namespace ShareLedger

/-- What a display has to do after a reply. -/
inductive Effect where
  /-- Nothing that is shown of the game has changed. -/
  | quiet
  /-- The ledger or the open game has changed. -/
  | refresh
  /-- The sitting is over. -/
  | quit
deriving DecidableEq, Repr

/-- The answer to an input line. -/
structure Reply where
  feedback : String
  effect : Effect
deriving DecidableEq

namespace Reply

/-- A reply after which nothing has changed. -/
def text (feedback : String) : Reply := ⟨feedback, .quiet⟩

/-- The reply that tells a refusal. -/
def refusal (e : Refusal) : Reply := .text (e.message ++ "\n")

end Reply

/-- The store, the open game and the currency that new games begin with. -/
structure Game where
  store : Store
  session : Option Session
  currency : String

namespace Game

/-- Writes and an answer. -/
abbrev Steps := Plan Session Reply

/-! ## Carrying out a line -/

/-- An answer that leaves the session as it is. -/
def answer (session : Option Session) (reply : Reply) : Steps := .done session reply

/-- Whether a text is a beginning of a word, and not empty. -/
def abbreviates (s word : String) : Bool := s != "" && Text.startsWith word s

/-- The name of the game that a command names. Games are kept under small letters. -/
def gameName (a : Action) : String := Text.lower (a.object.getD "")

/-- The list of all games; a star marks the one in play. -/
def listGames (index : GameIndex) : String :=
  if index.logs.isEmpty then "No games yet.\n"
  else
    String.join (index.logs.map fun (name, events) =>
      (if index.current = some name then "*" else " ") ++ " " ++ name ++ " (" ++
        Nat.repr events.length ++ " entries)\n")

/-- The answer to a question about the ledger. -/
def query (session : Option Session) (verb : Verb) : Reply :=
  match session with
  | none => .refusal .noActiveGame
  | some s =>
    .text (match verb with
      | .holdings => (Report.holdings s.ledger).render
      | .values => (Report.values s.ledger).render
      | .companies => (Report.companies s.ledger).render
      | _ => s.ledger.bankReport)

/-- Keeps the log of a session that a command has changed. -/
def keep (s : Session) (feedback : String) : Steps :=
  .write (some s) (.save s.name s.events) (.done (some s) ⟨feedback, .refresh⟩)

/-- Carries out a command on the open game. -/
def perform (session : Option Session) (a : Action) : Steps :=
  match session with
  | none => answer none (.refusal .noActiveGame)
  | some s =>
    match s.perform a with
    | .ok (s', feedback) => keep s' feedback
    | .error e => answer session (.refusal e)

/-- Takes back the last command on the open game. -/
def undo (session : Option Session) : Steps :=
  match session with
  | none => answer none (.refusal .noActiveGame)
  | some s =>
    match s.undo with
    | .ok (s', entry) => keep s' ("Undid \"" ++ entry ++ "\"\n")
    | .error e => answer session (.refusal e)

/-- Opens a game. -/
def openGame (index : GameIndex) (session : Option Session) (currency name : String) : Steps :=
  match index.eventsOf name with
  | none => answer session (.refusal (.gameNotFound name))
  | some events =>
    let s := Session.replay name events currency
    .write (some s) (.point (some name))
      (.done (some s) ⟨"Opened game '" ++ name ++ "'.\n", .refresh⟩)

/-- Deletes a game; when it is the open one, no game is open afterwards. -/
def deleteGame (index : GameIndex) (session : Option Session) (name : String) : Steps :=
  if index.has name then
    let told := "Deleted '" ++ name ++ "'.\n"
    .write session (.delete name)
      (if session.any (·.name == name) then
        .write none (.point none)
          (.done none
            ⟨told ++ "Deleted the active game, no game active at the moment.\n", .refresh⟩)
      else .done session ⟨told, .refresh⟩)
  else answer session (.refusal (.gameNotFound name))

/-- Starts a game: keeps its empty log, makes it the game in play and opens it. -/
def begin {α : Type} (session : Option Session) (currency name : String) (a : α) :
    Plan Session α :=
  .write session (.save name [])
    (.write session (.point (some name)) (.done (some (.new name currency)) a))

/-- Starts a game under a name that is not taken. -/
def startGame (index : GameIndex) (session : Option Session) (currency name : String) : Steps :=
  if index.has name then answer session (.refusal (.duplicateGame name))
  else begin session currency name ⟨"Game '" ++ name ++ "' generated and active.\n", .refresh⟩

/-- Carries out a command. -/
def command (index : GameIndex) (session : Option Session) (currency : String) (a : Action) :
    Steps :=
  match a.verb with
  | none => answer session (.refusal .unrecognized)
  | some .listGames => answer session (.text (listGames index))
  | some .openGame => openGame index session currency (gameName a)
  | some .deleteGame => deleteGame index session (gameName a)
  | some .startGame => startGame index session currency (gameName a)
  | some .holdings => answer session (query session .holdings)
  | some .values => answer session (query session .values)
  | some .companies => answer session (query session .companies)
  | some .bank => answer session (query session .bank)
  | some _ => perform session a

/-- What an input line asks for: its writes and its answer. -/
def plan (index : GameIndex) (session : Option Session) (currency line : String) : Steps :=
  let trimmed := Text.trim line
  let lowered := Text.lower trimmed
  if abbreviates lowered "quit" || abbreviates lowered "exit" then
    answer session ⟨"Bye!\n", .quit⟩
  else if lowered = "undo" then undo session
  else if lowered = "help" ∨ lowered = "?" then answer session (.text helpText)
  else command index session currency (Action.read trimmed)

/-- Carries out an input line. -/
def execute (g : Game) (line : String) : Game × Except StoreError Reply :=
  let (store, session, result) := (plan g.store.index g.session g.currency line).run g.store
  ({ g with store, session }, result)

/-! ## Beginning a sitting -/

/-- Goes on with the game in play, or starts one under a name that is drawn from random words and
not taken; nothing when the words do not suffice for a name. -/
def resume? (index : GameIndex) (session : Option Session) (currency : String)
    (words : List UInt32) : Option (Plan Session String) :=
  let going := index.current.bind fun name => (index.eventsOf name).map fun events => (name, events)
  match going with
  | some (name, events) =>
    some (.done (some (.replay name events currency)) ("Continuing game '" ++ name ++ "'.\n"))
  | none =>
    (GameName.drawUnused index.has words).map fun name =>
      begin session currency name ("Your game name is '" ++ name ++ "'.\n")

/-- Goes on with the game in play or starts a new one; the answer is the greeting. -/
def createOrLoad (g : Game) (words : List UInt32) : Option (Game × Except StoreError String) :=
  (resume? g.store.index g.session g.currency words).map fun p =>
    let (store, session, result) := p.run g.store
    ({ g with store, session }, result)

end Game
end ShareLedger
