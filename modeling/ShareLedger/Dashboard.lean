import ShareLedger.Report
import ShareLedger.Session
import ShareLedger.StatusBar
/-!
# Dashboard

A second screen that shows the open game.

1. Every state that is to be shown is sent to a queue (`UpdateQueue.send`).
2. The queue is emptied in order, one push at a time (`UpdateQueue.drain`). A push that fails is not
   tried again and changes nothing for those after it.
-/

namespace ShareLedger

/-- All that the dashboard needs to draw a game. -/
structure DashboardContent where
  status : StatusBar
  holdings : Table
  values : Table
  companies : Table
deriving DecidableEq

/-- What the dashboard shows of a ledger. -/
def DashboardContent.ofLedger (l : Ledger) : DashboardContent where
  status := .ofLedger l
  holdings := Report.holdings l
  values := Report.values l
  companies := Report.companies l

/-- Why a push failed. -/
inductive PushError where
  /-- The dashboard was not reached. -/
  | network (message : String)
  /-- The dashboard answered with something else than success. -/
  | rejected (status : Nat) (message : String)
deriving DecidableEq

/-- The line that tells why a push failed. -/
def PushError.message : PushError → String
  | network message => "network error: " ++ message
  | rejected status message =>
    "display rejected update (HTTP " ++ Nat.repr status ++ "): " ++ message

/-- The state of one game, to be shown. -/
structure Update where
  name : String
  content : DashboardContent
deriving DecidableEq

/-- The update of a session. -/
def Update.ofSession (s : Session) : Update := ⟨s.name, .ofLedger s.ledger⟩

/-- The updates that wait to be pushed, oldest first. -/
structure UpdateQueue where
  waiting : List Update := []
deriving DecidableEq

namespace UpdateQueue

/-- Puts an update at the end of the queue. -/
def send (q : UpdateQueue) (u : Update) : UpdateQueue := ⟨q.waiting ++ [u]⟩

/-- Sends the state of the open game, if there is one. -/
def sendSession (q : UpdateQueue) : Option Session → UpdateQueue
  | some s => q.send (.ofSession s)
  | none => q

/-- Pushes one update after another, the push numbered `i` going as `outcome i` says; the answer has
every update that was pushed, with the failure it met. -/
def drainFrom (outcome : Nat → Option PushError) (i : Nat) :
    List Update → List (Update × Option PushError)
  | [] => []
  | u :: rest => (u, outcome i) :: drainFrom outcome (i + 1) rest

/-- Pushes everything that waits. -/
def drain (outcome : Nat → Option PushError) (q : UpdateQueue) :
    List (Update × Option PushError) :=
  drainFrom outcome 0 q.waiting

end UpdateQueue
end ShareLedger
