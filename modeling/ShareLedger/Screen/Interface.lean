import ShareLedger.Dashboard
import ShareLedger.Game
import ShareLedger.Screen.InputLine
import ShareLedger.Screen.Scrollback
import ShareLedger.Screen.StatusPane
/-!
# Screen.Interface

The whole screen: the status bar, what was typed and answered, and the line to type in.

1. A submitted line is echoed, carried out and answered (`Interface.submit`). The status and the
   dashboard are brought up to date when the reply asks for it.
2. The bar takes the rows that it needs and the line takes three; the rest is for the scrollback.
   Where there is too little room, the panes further down go short.
-/

namespace ShareLedger

/-- The panes of the screen. -/
structure Interface where
  status : StatusPane
  scrollback : Scrollback
  input : InputLine
deriving DecidableEq

namespace Interface

/-- The status of the open game. -/
def statusOf (session : Option Session) : StatusPane where
  name := session.map (·.name)
  status := session.map fun s => .ofLedger s.ledger

/-- The screen of a game; the log of the open game is its history. -/
def ofGame (g : Game) : Interface where
  status := statusOf g.session
  scrollback := .empty
  input := .ofHistory ((g.session.map (·.events)).getD [])

/-- The screen with a greeting. -/
def greet (i : Interface) (greeting : String) : Interface :=
  { i with scrollback := i.scrollback.pushFeedback greeting }

/-! ## Events -/

/-- Carries out a submitted line; the answer is whether to go on. -/
def submit (g : Game) (i : Interface) (queue : UpdateQueue) (line : String) :
    Game × Interface × UpdateQueue × Except StoreError Bool :=
  let echoed := { i with scrollback := i.scrollback.pushCommand line }
  match g.execute line with
  | (g, .error e) => (g, echoed, queue, .error e)
  | (g, .ok reply) =>
    let i := { echoed with scrollback := echoed.scrollback.pushFeedback reply.feedback }
    match reply.effect with
    | .quit => (g, i, queue, .ok false)
    | .refresh =>
      (g, { i with status := statusOf g.session }, queue.sendSession g.session, .ok true)
    | .quiet => (g, i, queue, .ok true)

/-- What an event does; the answer is whether to go on.  The event that quits ends the sitting whatever
stands in the line. -/
def handle (g : Game) (i : Interface) (queue : UpdateQueue) (e : Event) :
    Game × Interface × UpdateQueue × Except StoreError Bool :=
  if e = .quit then (g, i, queue, .ok false)
  else
    match i.scrollback.handle e with
    | some scrollback => (g, { i with scrollback }, queue, .ok true)
    | none =>
      match i.input.handle e with
      | (input, some (.submitted line)) => submit g { i with input } queue line
      | (input, _) => (g, { i with input }, queue, .ok true)

/-! ## Drawing -/

/-- The heights of the three panes. -/
def heights (i : Interface) (width height : Nat) : Nat × Nat × Nat :=
  let status := min (i.status.height width) height
  let input := min 3 (height - status)
  (status, height - status - input, input)

/-- The interface after it was drawn, the screen, and the column and the row of the cursor, if the
line can be drawn. -/
def draw? (i : Interface) (width height : Nat) : Option (Interface × Screen × (Nat × Nat)) :=
  let (top, middle, bottom) := i.heights width height
  let scrollback := i.scrollback.settle width middle
  (i.input.draw? width bottom).map fun (line, (column, row)) =>
    ({ i with scrollback },
      i.status.draw width top ++ scrollback.draw width middle ++ line,
      (column, row + top + middle))

end Interface
end ShareLedger
