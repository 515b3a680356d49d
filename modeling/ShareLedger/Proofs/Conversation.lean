import ShareLedger.Proofs.Text.Words
import ShareLedger.Proofs.UpToDate
/-!
# Proofs.Conversation

What input lines come to, whichever program reads them.

1. Lines are answered in order until one asks to quit, the store fails, or all are answered
   (`Game.converse`).  Every answer stands beside its command and the session that is open after it.
2. Blanks around a line make no difference to a conversation (`Game.converse_trim`).
3. The line program holds a conversation over the lines of its input that are not blank, up to the
   first one that is no text (`Plain.heard`).  All that it writes and sends can be read off the
   conversation (`Plain.runLines_eq`).
-/

namespace ShareLedger

/-- Sending a session is sending its state, if a game is open. -/
theorem UpdateQueue.sendSession_eq (q : UpdateQueue) (session : Option Session) :
    q.sendSession session = ⟨q.waiting ++ (session.map Update.ofSession).toList⟩ := by
  cases session with
  | none => simp [sendSession]
  | some s => rfl

/-! ## Conversations -/

/-- A command, its answer, and the session that is open afterwards. -/
structure Exchange where
  /-- The line without the blanks around it. -/
  command : String
  reply : Reply
  session : Option Session

/-- How a conversation ends. -/
inductive Ending where
  /-- Every line is answered. -/
  | answered
  /-- The line that is answered last asks to quit. -/
  | quit
  /-- The store fails at a command. -/
  | failed (command : String) (e : StoreError)

/-- What lines come to. -/
structure Conversation where
  exchanges : List Exchange
  ending : Ending
  /-- The game afterwards. -/
  game : Game

/-- What a display is to be shown after an answer: the open game, when the answer asks for it. -/
def Exchange.update? (e : Exchange) : Option Update :=
  if e.reply.effect = .refresh then e.session.map .ofSession else none

namespace Conversation

/-- The feedbacks in order. -/
def feedbacks (c : Conversation) : List String := c.exchanges.map (·.reply.feedback)

/-- What a display is to be shown, in order. -/
def updates (c : Conversation) : List Update := c.exchanges.filterMap (·.update?)

/-- A conversation that goes on from an answer. -/
def behind (e : Exchange) (c : Conversation) : Conversation :=
  { c with exchanges := e :: c.exchanges }

theorem updates_behind (e : Exchange) (c : Conversation) :
    (c.behind e).updates = e.update?.toList ++ c.updates := by
  unfold updates behind
  cases h : e.update? with
  | none => rw [List.filterMap_cons_none h, Option.toList_none, List.nil_append]
  | some u => rw [List.filterMap_cons_some h, Option.toList_some, List.singleton_append]

end Conversation

namespace Game

/-- Answers lines until one asks to quit or the store fails. -/
def converse (g : Game) : List String → Conversation
  | [] => ⟨[], .answered, g⟩
  | line :: rest =>
    match g.execute line with
    | (g, .error e) => ⟨[], .failed (Text.trim line) e, g⟩
    | (g, .ok reply) =>
      let exchange : Exchange := ⟨Text.trim line, reply, g.session⟩
      if reply.effect = .quit then .behind exchange ⟨[], .quit, g⟩
      else (g.converse rest).behind exchange

variable {g g' : Game} {line : String} {lines : List String} {reply : Reply}

@[simp] theorem converse_nil (g : Game) : g.converse [] = ⟨[], .answered, g⟩ := rfl

-- What a line comes to is not looked into.
attribute [local irreducible] execute in
theorem converse_cons (g : Game) (line : String) (lines : List String) :
    g.converse (line :: lines) =
      match g.execute line with
      | (g, .error e) => ⟨[], .failed (Text.trim line) e, g⟩
      | (g, .ok reply) =>
        if reply.effect = .quit then .behind ⟨Text.trim line, reply, g.session⟩ ⟨[], .quit, g⟩
        else (g.converse lines).behind ⟨Text.trim line, reply, g.session⟩ :=
  rfl

theorem converse_failed {e : StoreError} (h : g.execute line = (g', .error e)) :
    g.converse (line :: lines) = ⟨[], .failed (Text.trim line) e, g'⟩ := by
  rw [converse_cons, h]

theorem converse_quit (h : g.execute line = (g', .ok reply)) (hquit : reply.effect = .quit) :
    g.converse (line :: lines) = .behind ⟨Text.trim line, reply, g'.session⟩ ⟨[], .quit, g'⟩ := by
  rw [converse_cons, h]
  dsimp only
  rw [if_pos hquit]

theorem converse_goesOn (h : g.execute line = (g', .ok reply)) (hquit : reply.effect ≠ .quit) :
    g.converse (line :: lines) =
      (g'.converse lines).behind ⟨Text.trim line, reply, g'.session⟩ := by
  rw [converse_cons, h]
  dsimp only
  rw [if_neg hquit]

/-- Blanks around a line make no difference. -/
theorem execute_trim (g : Game) (line : String) : g.execute (Text.trim line) = g.execute line := by
  have hplan : plan g.store.index g.session g.currency (Text.trim line) =
      plan g.store.index g.session g.currency line := by
    unfold plan
    rw [Text.trim_trim]
  unfold execute
  rw [hplan]

/-- Blanks around lines make no difference to a conversation. -/
theorem converse_trim (g : Game) (lines : List String) :
    g.converse (lines.map Text.trim) = g.converse lines := by
  induction lines generalizing g with
  | nil => rfl
  | cons line lines ih =>
      rw [List.map_cons]
      rcases hexecute : g.execute line with ⟨g', e | reply⟩
      · rw [converse_failed hexecute, converse_failed ((g.execute_trim line).trans hexecute),
          Text.trim_trim]
      · have htrimmed := (g.execute_trim line).trans hexecute
        by_cases hquit : reply.effect = .quit
        · rw [converse_quit hexecute hquit, converse_quit htrimmed hquit, Text.trim_trim]
        · rw [converse_goesOn hexecute hquit, converse_goesOn htrimmed hquit, ih, Text.trim_trim]

end Game

/-! ## The line program -/

namespace Plain

/-- The lines of an input that the program carries out: those in front of the first one that is no
text, blank ones left out. -/
def heard : List (Option String) → List String
  | some line :: rest => if Text.allBlank line then heard rest else line :: heard rest
  | _ => []

/-- The texts that are written while lines are read, the feedbacks being those of a conversation.
The prompt, which stands where nothing is given, is written before every reading, and nothing is
written any more after a failure and after the feedback to a line that asks to quit. -/
def writes : List (Option String) → List Exchange → List (Option String)
  | some line :: rest, es =>
    if Text.allBlank line then none :: writes rest es
    else
      match es with
      | [] => [none]
      | e :: es =>
        none :: some e.reply.feedback :: (if e.reply.effect = .quit then [] else writes rest es)
  | _, _ => [none]

/-- How the program ends. -/
def resultOf (input : List (Option String)) : Ending → Except Failure Unit
  | .answered => if input.all (·.isSome) then .ok () else .error .notText
  | .quit => .ok ()
  | .failed _ e => .error (.store e)

section Step

variable {g g' : Game} {q : UpdateQueue} {line : String}

attribute [local irreducible] Game.execute in
theorem step_eq (g : Game) (q : UpdateQueue) (line : String) :
    step g q line =
      match g.execute line with
      | (g, .error e) => (g, q, .error e)
      | (g, .ok reply) =>
        match reply.effect with
        | .quit => (g, q, .ok (reply.feedback, false))
        | .refresh => (g, q.sendSession g.session, .ok (reply.feedback, true))
        | .quiet => (g, q, .ok (reply.feedback, true)) :=
  rfl

theorem step_failed {e : StoreError} (h : g.execute line = (g', .error e)) :
    step g q line = (g', q, .error e) := by
  rw [step_eq, h]

/-- A line that is answered sends what a display is to be shown. -/
theorem step_answered {reply : Reply} (h : g.execute line = (g', .ok reply)) :
    step g q line =
      (g', ⟨q.waiting ++ (Exchange.update? ⟨Text.trim line, reply, g'.session⟩).toList⟩,
        .ok (reply.feedback, reply.effect != .quit)) := by
  rw [step_eq, h]
  dsimp only
  cases heffect : reply.effect with
  | refresh => simp [UpdateQueue.sendSession_eq, Exchange.update?, heffect]
  | quiet | quit => simp [Exchange.update?, heffect]

end Step

section Ends

variable {prompt : String} {g : Game} {q : UpdateQueue} {rest : List (Option String)}

attribute [local irreducible] Text.allBlank step in
theorem runLines_nil : runLines prompt g q [] = ⟨prompt, .ok (), q, g⟩ := rfl

attribute [local irreducible] Text.allBlank step in
theorem runLines_none : runLines prompt g q (none :: rest) = ⟨prompt, .error .notText, q, g⟩ := rfl

end Ends

/-- What the program leaves behind, read off a conversation. -/
def transcriptOf (prompt : String) (q : UpdateQueue) (input : List (Option String))
    (c : Conversation) : Transcript where
  output := String.join ((writes input c.exchanges).map (·.getD prompt))
  result := resultOf input c.ending
  queue := ⟨q.waiting ++ c.updates⟩
  game := c.game

/-- **The line program holds a conversation** over the lines that it hears, and what it leaves
behind can be read off it. -/
theorem runLines_eq (prompt : String) (g : Game) (q : UpdateQueue) (input : List (Option String)) :
    runLines prompt g q input = transcriptOf prompt q input (g.converse (heard input)) := by
  induction input generalizing g q with
  | nil =>
      rw [runLines_nil]
      simp [transcriptOf, writes, heard, resultOf, Conversation.updates]
  | cons line rest ih =>
      cases line with
      | none =>
          rw [runLines_none]
          simp [transcriptOf, writes, heard, resultOf, Conversation.updates]
      | some line =>
          have hresult (ending : Ending) :
              resultOf (some line :: rest) ending = resultOf rest ending := by
            cases ending <;> simp [resultOf]
          by_cases hblank : Text.allBlank line = true
          · rw [runLines_blank hblank, ih]
            simp [transcriptOf, Transcript.after, heard, writes, hblank, hresult]
          · rcases hexecute : g.execute line with ⟨g', e | reply⟩
            · rw [runLines_failed hblank (step_failed hexecute), heard, if_neg hblank,
                Game.converse_failed hexecute]
              simp [transcriptOf, writes, hblank, resultOf, Conversation.updates]
            · have hstep := step_answered (q := q) hexecute
              by_cases hquit : reply.effect = .quit
              · rw [hquit, bne_self_eq_false] at hstep
                rw [runLines_quit hblank hstep, heard, if_neg hblank,
                  Game.converse_quit hexecute hquit]
                rw [transcriptOf, Conversation.updates_behind]
                simp [Conversation.behind, Conversation.updates, writes, hblank, hquit, resultOf]
              · rw [bne_iff_ne.2 hquit] at hstep
                rw [runLines_goesOn hblank hstep, ih, heard, if_neg hblank,
                  Game.converse_goesOn hexecute hquit]
                rw [transcriptOf, transcriptOf, Conversation.updates_behind]
                simp [Transcript.after, Conversation.behind, writes, hblank, hquit, hresult,
                  String.append_assoc]

/-- What is written besides prompts are the feedbacks in order. -/
theorem filterMap_writes (g : Game) (input : List (Option String)) :
    (writes input (g.converse (heard input)).exchanges).filterMap id =
      (g.converse (heard input)).feedbacks := by
  induction input generalizing g with
  | nil => simp [writes, heard, Conversation.feedbacks]
  | cons line rest ih =>
      cases line with
      | none => simp [writes, heard, Conversation.feedbacks]
      | some line =>
          by_cases hblank : Text.allBlank line = true
          · simpa [writes, heard, hblank] using ih g
          · rcases hexecute : g.execute line with ⟨g', e | reply⟩
            · rw [heard, if_neg hblank, Game.converse_failed hexecute]
              simp [writes, hblank, Conversation.feedbacks]
            · by_cases hquit : reply.effect = .quit
              · rw [heard, if_neg hblank, Game.converse_quit hexecute hquit]
                simp [Conversation.behind, writes, hblank, hquit, Conversation.feedbacks]
              · rw [heard, if_neg hblank, Game.converse_goesOn hexecute hquit]
                simpa [Conversation.behind, writes, hblank, hquit, Conversation.feedbacks]
                  using ih g'

end Plain
end ShareLedger
