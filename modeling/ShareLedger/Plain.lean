import ShareLedger.Dashboard
import ShareLedger.Game
import ShareLedger.Text.Blank
/-!
# Plain

The line program: every input line is answered with its feedback, until the input ends, a line asks
to quit, or something fails.

1. Lines end at a line feed, with a carriage return directly before it if there is one. Blank lines
   are passed over.
2. A prompt, if there is one, is written before every reading of a line, also before the one that
   finds the end of the input.
3. A line that is not UTF-8 ends the program when it is reached.
4. The state of the open game is sent to the dashboard at the start and after every reply whose
   effect is to refresh.
-/

namespace ShareLedger.Plain

/-- Why the line program failed. -/
inductive Failure where
  | store (e : StoreError)
  /-- A line is not UTF-8. -/
  | notText
deriving DecidableEq

/-- The line that tells why the program failed. -/
def Failure.message : Failure → String
  | store e => e.message
  | notText => "stream did not contain valid UTF-8"

/-- What the program has done. -/
structure Transcript where
  /-- All text that was written. -/
  output : String
  result : Except Failure Unit
  /-- The states that were sent to the dashboard. -/
  queue : UpdateQueue
  game : Game

/-- Text written before a transcript. -/
def Transcript.after (text : String) (t : Transcript) : Transcript :=
  { t with output := text ++ t.output }

/-! ## Input -/

/-- The text of bytes, if they are UTF-8. -/
def decode (bytes : List UInt8) : Option String := String.fromUTF8? ⟨bytes.toArray⟩

/-- The lines of an input that goes on after the bytes of `line`, which are held in reverse; a line
that is not UTF-8 has no text. -/
def inputLinesAfter (line : List UInt8) : List UInt8 → List (Option String)
  | [] => if line.isEmpty then [] else [decode line.reverse]
  | b :: bs =>
    if b = 10 then
      let line := match line with
        | 13 :: rest => rest
        | line => line
      decode line.reverse :: inputLinesAfter [] bs
    else inputLinesAfter (b :: line) bs

/-- The lines of an input. -/
def inputLines (bytes : List UInt8) : List (Option String) := inputLinesAfter [] bytes

/-! ## The program -/

/-- What one line that is not blank comes to: the game, the feedback, and whether to go on. -/
def step (g : Game) (queue : UpdateQueue) (line : String) :
    Game × UpdateQueue × Except StoreError (String × Bool) :=
  match g.execute line with
  | (g, .error e) => (g, queue, .error e)
  | (g, .ok reply) =>
    match reply.effect with
    | .quit => (g, queue, .ok (reply.feedback, false))
    | .refresh => (g, queue.sendSession g.session, .ok (reply.feedback, true))
    | .quiet => (g, queue, .ok (reply.feedback, true))

/-- Answers lines. -/
def runLines (prompt : String) (g : Game) (queue : UpdateQueue) :
    List (Option String) → Transcript
  | [] => ⟨prompt, .ok (), queue, g⟩
  | none :: _ => ⟨prompt, .error .notText, queue, g⟩
  | some line :: rest =>
    if Text.allBlank line then (runLines prompt g queue rest).after prompt
    else
      match step g queue line with
      | (g, queue, .error e) => ⟨prompt, .error (.store e), queue, g⟩
      | (g, queue, .ok (feedback, true)) =>
        (runLines prompt g queue rest).after (prompt ++ feedback)
      | (g, queue, .ok (feedback, false)) => ⟨prompt ++ feedback, .ok (), queue, g⟩

/-- Greets, shows the open game and answers lines. -/
def run (g : Game) (greeting : String) (prompt : Option String) (input : List (Option String)) :
    Transcript :=
  (runLines (prompt.getD "") g (UpdateQueue.sendSession ⟨[]⟩ g.session) input).after greeting

end ShareLedger.Plain
