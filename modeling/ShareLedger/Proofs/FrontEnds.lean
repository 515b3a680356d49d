import ShareLedger.Proofs.Conversation
import ShareLedger.Proofs.Text.Lines
/-!
# Proofs.FrontEnds

The screen and the line program do the same with the same text.

1. The line program reads bytes and hands on whole lines; at the screen the commands of the text
   are typed, which are its lines that are not blank, without the blanks around them
   (`Text.commands`).
2. Lines that are submitted one after another hold a conversation as well
   (`Interface.submitAll_eq`), and it is the one that the line program holds
   (`Plain.converse_heard`).
3. So game, store, answers and updates are the same in the end, failures of the store included
   (`front_ends_agree`).  The screen tells the status after every line that is carried out.
-/

namespace ShareLedger

/-! ## Typed lines and lines that are read -/

/-- The lines of a text that are not blank, without the blanks around them. -/
def Text.commands (text : String) : List String :=
  ((lines text).filter fun line => !allBlank line).map trim

theorem Text.trim_of_mem_commands {text line : String} (h : line ∈ commands text) :
    trim line = line := by
  obtain ⟨whole, -, rfl⟩ := List.mem_map.1 h
  exact trim_trim whole

/-- Whether the screen goes on after a conversation. -/
def Ending.goesOn : Ending → Except StoreError Bool
  | answered => .ok true
  | quit => .ok false
  | failed _ e => .error e

namespace Plain

theorem heard_map_some (lines : List String) :
    heard (lines.map some) = lines.filter fun line => !Text.allBlank line := by
  induction lines with
  | nil => rfl
  | cons line lines ih =>
      rw [List.map_cons, heard, ih]
      by_cases hblank : Text.allBlank line = true
      · rw [if_pos hblank, List.filter_cons_of_neg (by simp [hblank])]
      · rw [if_neg hblank, List.filter_cons_of_pos (by simp [hblank])]

/-- The lines that are read from a text hold the conversation of its commands. -/
theorem converse_heard (g : Game) (text : String) :
    g.converse (heard (inputLines text.toUTF8.data.toList)) = g.converse (Text.commands text) := by
  rw [inputLines_toUTF8, heard_map_some, Text.commands, Game.converse_trim]

/-- Lines that are texts bring the program down only when the store fails. -/
theorem resultOf_map_some (lines : List String) (ending : Ending) :
    resultOf (lines.map some) ending = (ending.goesOn.map fun _ => ()).mapError .store := by
  cases ending with
  | answered =>
      have hall : (lines.map some).all (·.isSome) = true := by simp
      rw [resultOf, if_pos hall]
      rfl
  | quit | failed => rfl

end Plain

/-! ## The screen -/

namespace Scrollback

/-- A command and its answer below everything else. -/
def pushExchange (s : Scrollback) (e : Exchange) : Scrollback :=
  (s.pushCommand e.command).pushFeedback e.reply.feedback

/-- A conversation below everything else.  A command at which the store fails is there without an
answer. -/
def pushConversation (s : Scrollback) (c : Conversation) : Scrollback :=
  let answered := c.exchanges.foldl pushExchange s
  match c.ending with
  | .failed command _ => answered.pushCommand command
  | .answered | .quit => answered

-- How an exchange is set in lines is not looked into.
attribute [local irreducible] pushExchange pushCommand in
theorem pushConversation_behind (s : Scrollback) (e : Exchange) (c : Conversation) :
    s.pushConversation (c.behind e) = (s.pushExchange e).pushConversation c :=
  rfl

end Scrollback

namespace Interface

/-- Submits one line after another, as long as the screen goes on. -/
def submitAll (g : Game) (i : Interface) (q : UpdateQueue) :
    List String → Game × Interface × UpdateQueue × Except StoreError Bool
  | [] => (g, i, q, .ok true)
  | line :: rest =>
    match submit g i q line with
    | (g, i, q, .ok true) => submitAll g i q rest
    | stopped => stopped

variable {g g' : Game} {i i' : Interface} {q q' : UpdateQueue} {line : String} {lines : List String}
  {reply : Reply} {goesOn : Bool}

-- What the line comes to and how it is set in lines is not looked into.
attribute [local irreducible] Game.execute Scrollback.pushCommand Scrollback.pushFeedback in
theorem submit_eq (g : Game) (i : Interface) (q : UpdateQueue) (line : String) :
    submit g i q line =
      match g.execute line with
      | (g, .error e) => (g, { i with scrollback := i.scrollback.pushCommand line }, q, .error e)
      | (g, .ok reply) =>
        let scrollback := i.scrollback.pushExchange ⟨line, reply, g.session⟩
        match reply.effect with
        | .quit => (g, { i with scrollback }, q, .ok false)
        | .refresh =>
          (g, { i with status := statusOf g.session, scrollback }, q.sendSession g.session,
            .ok true)
        | .quiet => (g, { i with scrollback }, q, .ok true) :=
  rfl

theorem submit_failed {e : StoreError} (h : g.execute line = (g', .error e)) :
    submit g i q line =
      (g', { i with scrollback := i.scrollback.pushCommand line }, q, .error e) := by
  rw [submit_eq, h]

/-- A line that is answered is shown with its answer, and what a display is to be shown is sent. -/
theorem submit_answered (h : g.execute line = (g', .ok reply)) :
    ∃ status, submit g i q line =
      (g', { i with status, scrollback := i.scrollback.pushExchange ⟨line, reply, g'.session⟩ },
        ⟨q.waiting ++ (Exchange.update? ⟨line, reply, g'.session⟩).toList⟩,
        .ok (reply.effect != .quit)) := by
  rw [submit_eq, h]
  dsimp only
  cases heffect : reply.effect with
  | refresh =>
      refine ⟨statusOf g'.session, ?_⟩
      simp [UpdateQueue.sendSession_eq, Exchange.update?, heffect]
  | quiet | quit =>
      refine ⟨i.status, ?_⟩
      simp [Exchange.update?, heffect]

@[simp] theorem submitAll_nil : submitAll g i q [] = (g, i, q, .ok true) := rfl

attribute [local irreducible] submit in
theorem submitAll_cons :
    submitAll g i q (line :: lines) =
      match submit g i q line with
      | (g, i, q, .ok true) => submitAll g i q lines
      | stopped => stopped :=
  rfl

theorem submitAll_goesOn (h : submit g i q line = (g', i', q', .ok true)) :
    submitAll g i q (line :: lines) = submitAll g' i' q' lines := by
  rw [submitAll_cons, h]

theorem submitAll_stopped {result : Except StoreError Bool}
    (h : submit g i q line = (g', i', q', result)) (hresult : result ≠ .ok true) :
    submitAll g i q (line :: lines) = (g', i', q', result) := by
  rw [submitAll_cons, h]
  cases result with
  | error e => rfl
  | ok goesOn =>
      cases goesOn with
      | false => rfl
      | true => exact absurd rfl hresult

/-- **The screen holds a conversation** over the lines that are submitted, and what it leaves behind
can be read off it. -/
theorem submitAll_eq (g : Game) (i : Interface) (q : UpdateQueue)
    (htrim : ∀ line ∈ lines, Text.trim line = line) :
    ∃ status, submitAll g i q lines =
      ((g.converse lines).game,
        { i with status, scrollback := i.scrollback.pushConversation (g.converse lines) },
        ⟨q.waiting ++ (g.converse lines).updates⟩, (g.converse lines).ending.goesOn) := by
  induction lines generalizing g i q with
  | nil =>
      refine ⟨i.status, ?_⟩
      simp [Conversation.updates, Scrollback.pushConversation, Ending.goesOn]
  | cons line lines ih =>
      obtain ⟨hline, hlines⟩ := List.forall_mem_cons.1 htrim
      rcases hexecute : g.execute line with ⟨g', e | reply⟩
      · refine ⟨i.status, ?_⟩
        rw [submitAll_stopped (submit_failed hexecute) (by simp), Game.converse_failed hexecute,
          hline]
        simp [Conversation.updates, Scrollback.pushConversation, Ending.goesOn]
      · obtain ⟨status, hsubmit⟩ := submit_answered (i := i) (q := q) hexecute
        by_cases hquit : reply.effect = .quit
        · rw [hquit, bne_self_eq_false] at hsubmit
          refine ⟨status, ?_⟩
          rw [submitAll_stopped hsubmit (by simp), Game.converse_quit hexecute hquit, hline,
            Conversation.updates_behind, Scrollback.pushConversation_behind]
          simp [Conversation.behind, Conversation.updates, Scrollback.pushConversation,
            Ending.goesOn]
        · rw [bne_iff_ne.2 hquit] at hsubmit
          obtain ⟨last, hrest⟩ := ih g' _ _ hlines
          refine ⟨last, ?_⟩
          rw [submitAll_goesOn hsubmit, hrest, Game.converse_goesOn hexecute hquit, hline,
            Conversation.updates_behind, Scrollback.pushConversation_behind, List.append_assoc]
          simp only [Conversation.behind]

/-- Lines that are carried out leave everything up to date. -/
theorem UpToDate.submitAll (h : UpToDate g i q)
    (hlines : submitAll g i q lines = (g', i', q', .ok goesOn)) : UpToDate g' i' q' := by
  induction lines generalizing g i q with
  | nil =>
      cases hlines
      exact h
  | cons line lines ih =>
      rcases hsubmit : Interface.submit g i q line with ⟨after, shown, sent, result⟩
      by_cases hresult : result = .ok true
      · subst hresult
        rw [submitAll_goesOn hsubmit] at hlines
        exact ih (h.submit hsubmit) hlines
      · rw [submitAll_stopped hsubmit hresult] at hlines
        cases hlines
        exact h.submit hsubmit

end Interface

/-! ## Both together -/

/-- **The screen and the line program agree.**  Whatever the game and the text, and whichever writes
fail, the commands of the text leave at the screen the game with its store, the updates and the
success or failure that the line program leaves.  All answers are those of one conversation: between
prompts the line program writes its feedbacks in order, and the screen sets them below their
commands.  After any number of commands that are carried out, the bar tells the open game. -/
theorem front_ends_agree (g : Game) (greeting : String) (prompt : Option String) (text : String) :
    let input := Plain.inputLines text.toUTF8.data.toList
    let run := Plain.run g greeting prompt input
    let begun := (Interface.ofGame g).greet greeting
    let first := UpdateQueue.sendSession ⟨[]⟩ g.session
    let screen := Interface.submitAll g begun first (Text.commands text)
    let c := g.converse (Text.commands text)
    screen.1 = run.game ∧
    (screen.2.2.2.map fun _ => ()).mapError .store = run.result ∧
    screen.2.2.1 = run.queue ∧
    run.queue.waiting = first.waiting ++ c.updates ∧
    run.output =
      greeting ++ String.join ((Plain.writes input c.exchanges).map (·.getD (prompt.getD ""))) ∧
    (Plain.writes input c.exchanges).filterMap id = c.feedbacks ∧
    screen.2.1.scrollback = begun.scrollback.pushConversation c ∧
    ∀ (lines : List String) (goesOn : Bool),
      let after := Interface.submitAll g begun first lines
      after.2.2.2 = .ok goesOn →
      after.2.1.status.name = after.1.session.map (·.name) ∧
        after.2.1.status.status = after.1.session.map fun s => .ofLedger s.ledger := by
  intro input run begun first screen c
  have hconverse : g.converse (Plain.heard input) = c := Plain.converse_heard g text
  have hrun : run = (Plain.transcriptOf (prompt.getD "") first input c).after greeting := by
    rw [← hconverse, ← Plain.runLines_eq]
    rfl
  obtain ⟨status, hscreen⟩ : ∃ status, screen = (c.game,
      { begun with status, scrollback := begun.scrollback.pushConversation c },
      ⟨first.waiting ++ c.updates⟩, c.ending.goesOn) :=
    Interface.submitAll_eq g begun first fun _ => Text.trim_of_mem_commands
  have hresult : run.result = (c.ending.goesOn.map fun _ => ()).mapError .store := by
    rw [← Plain.resultOf_map_some (Text.lines text), ← Plain.inputLines_toUTF8, hrun]
    rfl
  have hwrites : (Plain.writes input c.exchanges).filterMap id = c.feedbacks := by
    rw [← hconverse]
    exact Plain.filterMap_writes g input
  refine ⟨?_, ?_, ?_, ?_, ?_, hwrites, ?_, ?_⟩
  · rw [hscreen, hrun]
    rfl
  · rw [hscreen, hresult]
  · rw [hscreen, hrun]
    rfl
  · rw [hrun]
    rfl
  · rw [hrun]
    rfl
  · rw [hscreen]
  · intro lines goesOn after hgoesOn
    have hbegun : Interface.UpToDate g begun first :=
      (Interface.Reached.begun g greeting).upToDate
    have hafter : after = (after.1, after.2.1, after.2.2.1, .ok goesOn) := by rw [← hgoesOn]
    obtain ⟨hstatus, -⟩ := hbegun.submitAll hafter
    exact ⟨congrArg StatusPane.name hstatus, congrArg StatusPane.status hstatus⟩

/-- A text with blanks and carriage returns that deletes the open game.  The store keeps the command
before that and fails halfway through the deletion. -/
theorem front_ends_agree_half_deleted :
    let store : Store :=
      ⟨⟨some "a", (∅ : Book GameRecord).insert "a" ⟨["next SR"], 0, 0⟩⟩, 0,
        fun k => if k = 2 then .failed "disk full" else .made 7⟩
    let g : Game := ⟨store, some (.replay "a" ["next SR"] "$"), "$"⟩
    let text := "mikko cash 5\r\n \n\tbank \ndelete a\nbank"
    let run := Plain.run g "Hi.\n" (some "> ") (Plain.inputLines text.toUTF8.data.toList)
    let begun := (Interface.ofGame g).greet "Hi.\n"
    let first := UpdateQueue.sendSession ⟨[]⟩ g.session
    let screen := Interface.submitAll g begun first (Text.commands text)
    let answered := Interface.submitAll g begun first ["mikko cash 5", "bank"]
    screen.1.store.index = run.game.store.index ∧
    run.result = .error (.store (.io "disk full")) ∧
    run.output = "Hi.\n> MIKKO now has $5.\n> > Bank size is not set.\n> " ∧
    run.queue.waiting.length = 2 ∧ screen.2.2.1 = run.queue ∧
    screen.2.1.scrollback.entries =
      [.feedback "Hi.", .command "mikko cash 5", .feedback "MIKKO now has $5.", .command "bank",
        .feedback "Bank size is not set.", .command "delete a"] ∧
    answered.2.1.status.name = some "a" := by
  intro store g text run begun first screen answered
  obtain ⟨hgame, hresult, hqueue, hwaiting, houtput, -, hscrollback, hstatus⟩ :=
    front_ends_agree g "Hi.\n" (some "> ") text
  refine ⟨congrArg (·.store.index) hgame, ?_, ?_, ?_, hqueue, ?_, ?_⟩
  · exact hresult.symm.trans (by decide +kernel)
  · exact houtput.trans (by decide +kernel)
  · exact (congrArg List.length hwaiting).trans (by decide +kernel)
  · exact (congrArg Scrollback.entries hscrollback).trans (by decide +kernel)
  · have hanswered : answered.2.2.2 = .ok true := by decide +kernel
    exact (hstatus ["mikko cash 5", "bank"] true hanswered).1.trans (by decide +kernel)

end ShareLedger
