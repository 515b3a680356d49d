import Mathlib.Logic.Relation
import ShareLedger.Proofs.Conversation
/-!
# Proofs.Mirroring

The dashboard sees every state once and in order, while the line program goes on.

1. The line program and a worker run side by side (`Mirroring.Step`).  The program reads lines,
   sends what is to be shown into a channel, and closes the channel when it has ended.  The worker
   takes updates from the channel and pushes one at a time, which may fail.
2. Whichever of them goes first, what has been done and what is still to be done come to the
   transcript of the line program alone (`Mirroring.Step.total_eq`).  This is the invariant that
   carries everything else.
3. So the updates that are pushed are those that are to be shown, and all of them once the worker
   has stopped (`display_sees_every_state`).  No failure of a push makes a difference.
-/

namespace ShareLedger

namespace UpdateQueue

variable {outcome : Nat → Option PushError}

theorem drainFrom_concat (i : Nat) (us : List Update) (u : Update) :
    drainFrom outcome i (us ++ [u]) = drainFrom outcome i us ++ [(u, outcome (i + us.length))] := by
  induction us generalizing i with
  | nil => rfl
  | cons v us ih =>
      rw [List.cons_append, drainFrom, ih, drainFrom, List.cons_append, List.length_cons,
        Nat.add_right_comm, Nat.add_assoc]

end UpdateQueue

/-! ## Side by side -/

/-- What the worker is about. -/
inductive Worker where
  | idle
  | pushing (u : Update)
  | stopped
deriving DecidableEq

/-- The update that is being pushed. -/
def Worker.current? : Worker → Option Update
  | pushing u => some u
  | idle | stopped => none

/-- How many steps a worker can take without anything new. -/
def Worker.toCome : Worker → Nat
  | pushing _ => 2
  | idle => 1
  | stopped => 0

/-- The line program and the worker. -/
structure Mirroring where
  game : Game
  /-- All text that was written. -/
  output : String
  /-- The lines that are not read yet. -/
  rest : List (Option String)
  /-- How the program ended, once it has. -/
  result : Option (Except Plain.Failure Unit)
  /-- What the program has to send before it goes on. -/
  outbox : List Update
  /-- The channel: what was sent and not taken yet. -/
  channel : UpdateQueue
  /-- Whether the channel is closed. -/
  closed : Bool
  worker : Worker
  /-- The pushes that came to an end, oldest first, each with the failure it met. -/
  met : List (Update × Option PushError)

namespace Mirroring

/-- The beginning: the greeting is written and the open game is to be shown. -/
def begun (g : Game) (greeting : String) (input : List (Option String)) : Mirroring where
  game := g
  output := greeting
  rest := input
  result := none
  outbox := (UpdateQueue.sendSession ⟨[]⟩ g.session).waiting
  channel := ⟨[]⟩
  closed := false
  worker := .idle
  met := []

/-- The updates on which a push was called, oldest first. -/
def pushed (s : Mirroring) : List Update := s.met.map (·.1) ++ s.worker.current?.toList

/-- The program goes on from what a line came to. -/
def answer (s : Mirroring) : Game × UpdateQueue × Except StoreError (String × Bool) → Mirroring
  | (game, _, .error e) => { s with game, result := some (.error (.store e)) }
  | (game, updates, .ok (feedback, goesOn)) =>
    { s with
      game
      output := s.output ++ feedback
      result := if goesOn then none else some (.ok ())
      outbox := updates.waiting }

/-- The program reads a line and answers it. -/
def readLine (prompt : String) (s : Mirroring) : Mirroring :=
  let s := { s with output := s.output ++ prompt }
  match s.rest with
  | [] => { s with result := some (.ok ()) }
  | none :: rest => { s with rest, result := some (.error .notText) }
  | some line :: rest =>
    let s := { s with rest }
    if Text.allBlank line then s else s.answer (Plain.step s.game ⟨[]⟩ line)

/-- What either of the two does next; the push numbered `i` goes as `outcome i` says. -/
inductive Step (prompt : String) (outcome : Nat → Option PushError) : Mirroring → Mirroring → Prop
  /-- The program reads a line when everything is sent. -/
  | read {s : Mirroring} (hresult : s.result = none) (houtbox : s.outbox = []) :
    Step prompt outcome s (s.readLine prompt)
  /-- The program sends an update, which is lost when the worker has stopped. -/
  | send {s : Mirroring} {u : Update} {us : List Update} (houtbox : s.outbox = u :: us) :
    Step prompt outcome s
      { s with
        outbox := us
        channel := if s.worker = .stopped then s.channel else s.channel.send u }
  /-- The channel is closed after the program has ended. -/
  | close {s : Mirroring} (hresult : s.result ≠ none) (houtbox : s.outbox = [])
    (hopen : s.closed = false) : Step prompt outcome s { s with closed := true }
  /-- The worker takes the oldest update and calls a push. -/
  | take {s : Mirroring} {u : Update} {us : List Update} (hidle : s.worker = .idle)
    (hchannel : s.channel.waiting = u :: us) :
    Step prompt outcome s { s with channel := ⟨us⟩, worker := .pushing u }
  /-- A push comes to an end, whether it fails or not. -/
  | settle {s : Mirroring} {u : Update} (hpushing : s.worker = .pushing u) :
    Step prompt outcome s
      { s with worker := .idle, met := s.met ++ [(u, outcome s.met.length)] }
  /-- The worker stops when nothing can come any more. -/
  | stop {s : Mirroring} (hidle : s.worker = .idle) (hchannel : s.channel.waiting = [])
    (hclosed : s.closed = true) : Step prompt outcome s { s with worker := .stopped }

/-! ## Reading -/

/-- Everything that reading a line can come to. -/
inductive Reads (prompt : String) (s : Mirroring) : Mirroring → Prop
  | atEnd (hrest : s.rest = []) :
    Reads prompt s { s with output := s.output ++ prompt, result := some (.ok ()) }
  | noText {rest : List (Option String)} (hrest : s.rest = none :: rest) :
    Reads prompt s
      { s with output := s.output ++ prompt, rest, result := some (.error .notText) }
  | blank {line : String} {rest : List (Option String)} (hrest : s.rest = some line :: rest)
    (hblank : Text.allBlank line = true) :
    Reads prompt s { s with output := s.output ++ prompt, rest }
  | failed {line : String} {rest : List (Option String)} {game : Game} {e : StoreError}
    (hrest : s.rest = some line :: rest) (hblank : ¬ Text.allBlank line = true)
    (hexecute : s.game.execute line = (game, .error e)) :
    Reads prompt s
      { s with game, output := s.output ++ prompt, rest, result := some (.error (.store e)) }
  | answered {line : String} {rest : List (Option String)} {game : Game} {reply : Reply}
    (hrest : s.rest = some line :: rest) (hblank : ¬ Text.allBlank line = true)
    (hexecute : s.game.execute line = (game, .ok reply)) :
    Reads prompt s
      { s with
        game
        output := s.output ++ prompt ++ reply.feedback
        rest
        result := if reply.effect != .quit then none else some (.ok ())
        outbox := (Exchange.update? ⟨Text.trim line, reply, game.session⟩).toList }

theorem reads_readLine (prompt : String) (s : Mirroring) :
    Reads prompt s (s.readLine prompt) := by
  rw [readLine]
  dsimp only
  split
  · next hrest => exact .atEnd hrest
  · next rest hrest => exact .noText hrest
  · next line rest hrest =>
      by_cases hblank : Text.allBlank line = true
      · rw [if_pos hblank]
        exact .blank hrest hblank
      · rw [if_neg hblank]
        rcases hexecute : s.game.execute line with ⟨game, e | reply⟩
        · rw [Plain.step_failed hexecute]
          exact .failed hrest hblank hexecute
        · rw [Plain.step_answered hexecute]
          exact .answered hrest hblank hexecute

/-- A line that is read concerns neither the channel nor the worker. -/
theorem Reads.frame {prompt : String} {s s' : Mirroring} (h : Reads prompt s s') :
    s'.channel = s.channel ∧ s'.closed = s.closed ∧ s'.worker = s.worker ∧ s'.met = s.met := by
  cases h <;> exact ⟨rfl, rfl, rfl, rfl⟩

/-! ## One step -/

variable {prompt : String} {outcome : Nat → Option PushError} {s s' : Mirroring}

/-- All updates so far, oldest first. -/
def sent (s : Mirroring) : List Update := s.pushed ++ s.channel.waiting ++ s.outbox

/-- What everything comes to: what has been done, and what the line program alone would still do. -/
def total (prompt : String) (s : Mirroring) : Plain.Transcript :=
  match s.result with
  | none => (Plain.runLines prompt s.game ⟨s.sent⟩ s.rest).after s.output
  | some result => ⟨s.output, result, ⟨s.sent⟩, s.game⟩

theorem total_running (h : s.result = none) :
    s.total prompt = (Plain.runLines prompt s.game ⟨s.sent⟩ s.rest).after s.output := by
  rw [total, h]

theorem total_ended {result : Except Plain.Failure Unit} (h : s.result = some result) :
    s.total prompt = ⟨s.output, result, ⟨s.sent⟩, s.game⟩ := by
  rw [total, h]

/-- Reading a line is doing what was still to be done. -/
theorem Reads.total_eq (h : Reads prompt s s') (hresult : s.result = none)
    (houtbox : s.outbox = []) : s'.total prompt = s.total prompt := by
  rw [total_running hresult]
  cases h with
  | atEnd hrest =>
      rw [hrest, Plain.runLines_nil, total_ended rfl]
      rfl
  | noText hrest =>
      rw [hrest, Plain.runLines_none, total_ended rfl]
      rfl
  | blank hrest hblank =>
      rw [hrest, Plain.runLines_blank hblank, total_running (by exact hresult)]
      simp [Plain.Transcript.after, String.append_assoc, sent, pushed]
  | failed hrest hblank hexecute =>
      rw [hrest, Plain.runLines_failed hblank (Plain.step_failed hexecute), total_ended rfl]
      simp [Plain.Transcript.after, sent, pushed]
  | @answered line _ _ reply hrest hblank hexecute =>
      have hstep := Plain.step_answered (q := ⟨s.sent⟩) hexecute
      rw [hrest]
      cases hgoesOn : reply.effect != .quit with
      | false =>
          rw [hgoesOn] at hstep
          rw [Plain.runLines_quit hblank hstep, total_ended rfl]
          simp [Plain.Transcript.after, String.append_assoc, sent, pushed, houtbox]
      | true =>
          rw [hgoesOn] at hstep
          rw [Plain.runLines_goesOn hblank hstep, total_running rfl]
          simp [Plain.Transcript.after, String.append_assoc, sent, pushed, houtbox]

/-- What holds whichever of the two goes first. -/
structure Orderly (outcome : Nat → Option PushError) (s : Mirroring) : Prop where
  /-- Everything is sent when the channel is closed. -/
  closed : s.closed = true → s.result ≠ none ∧ s.outbox = []
  /-- Everything is taken when the worker stops. -/
  stopped : s.worker = .stopped → s.closed = true ∧ s.channel.waiting = []
  /-- Pushes go as they are told to. -/
  met : s.met = UpdateQueue.drainFrom outcome 0 (s.met.map (·.1))

theorem Orderly.begun (g : Game) (greeting : String) (input : List (Option String)) :
    Orderly outcome (begun g greeting input) where
  closed := nofun
  stopped := nofun
  met := rfl

/-- As long as there is something to read or to send, the channel is open at both ends. -/
theorem Orderly.isOpen (h : Orderly outcome s) (hbusy : s.result = none ∨ s.outbox ≠ []) :
    s.closed = false ∧ s.worker ≠ .stopped := by
  have hopen : s.closed = false := by
    by_contra hclosed
    obtain ⟨hresult, houtbox⟩ := h.closed (by simpa using hclosed)
    exact hbusy.elim hresult fun hne => hne houtbox
  refine ⟨hopen, fun hstopped => ?_⟩
  rw [(h.stopped hstopped).1] at hopen
  cases hopen

theorem Orderly.step (h : Orderly outcome s) (hstep : Step prompt outcome s s') :
    Orderly outcome s' := by
  cases hstep with
  | read hresult _ =>
      obtain ⟨hopen, hworks⟩ := h.isOpen (.inl hresult)
      obtain ⟨-, hclosed, hworker, hmet⟩ := (s.reads_readLine prompt).frame
      refine ⟨fun h' => ?_, fun h' => absurd (hworker ▸ h') hworks, ?_⟩
      · rw [hclosed, hopen] at h'
        cases h'
      · rw [hmet]
        exact h.met
  | send houtbox =>
      obtain ⟨hopen, hworks⟩ := h.isOpen (.inr (by rw [houtbox]; exact List.cons_ne_nil _ _))
      refine ⟨fun h' => ?_, fun h' => absurd h' hworks, h.met⟩
      cases hopen.symm.trans h'
  | close hresult houtbox _ =>
      exact ⟨fun _ => ⟨hresult, houtbox⟩, fun h' => ⟨rfl, (h.stopped h').2⟩, h.met⟩
  | take hidle hchannel => exact ⟨h.closed, nofun, h.met⟩
  | settle hpushing =>
      refine ⟨h.closed, nofun, ?_⟩
      dsimp only
      rw [List.map_append, List.map_singleton, UpdateQueue.drainFrom_concat, ← h.met,
        List.length_map, Nat.zero_add]
  | stop _ hchannel hclosed => exact ⟨h.closed, fun _ => ⟨hclosed, hchannel⟩, h.met⟩

/-- **Every step leaves what everything comes to**, whoever takes it. -/
theorem Step.total_eq (h : Orderly outcome s) (hstep : Step prompt outcome s s') :
    s'.total prompt = s.total prompt := by
  -- A step other than of reading moves an update on, if it does anything to one.
  have hmoved {s s' : Mirroring} (hresult : s'.result = s.result) (hgame : s'.game = s.game)
      (houtput : s'.output = s.output) (hrest : s'.rest = s.rest) (hsent : s'.sent = s.sent) :
      s'.total prompt = s.total prompt := by
    rw [total, total, hresult, hgame, houtput, hrest, hsent]
  cases hstep with
  | read hresult houtbox => exact (s.reads_readLine prompt).total_eq hresult houtbox
  | send houtbox =>
      obtain ⟨-, hworks⟩ := h.isOpen (.inr (by rw [houtbox]; exact List.cons_ne_nil _ _))
      refine hmoved rfl rfl rfl rfl ?_
      rw [sent, sent, houtbox]
      dsimp only [pushed]
      rw [if_neg hworks, UpdateQueue.send]
      simp
  | close _ _ _ => exact hmoved rfl rfl rfl rfl rfl
  | take hidle hchannel =>
      refine hmoved rfl rfl rfl rfl ?_
      simp [sent, pushed, hidle, hchannel, Worker.current?]
  | settle hpushing =>
      refine hmoved rfl rfl rfl rfl ?_
      simp [sent, pushed, hpushing, Worker.current?]
  | stop hidle _ _ =>
      refine hmoved rfl rfl rfl rfl ?_
      simp [sent, pushed, hidle, Worker.current?]

/-! ## Runs -/

/-- The states that are reached from the beginning. -/
def Reached (prompt : String) (outcome : Nat → Option PushError) (g : Game) (greeting : String)
    (input : List (Option String)) : Mirroring → Prop :=
  Relation.ReflTransGen (Step prompt outcome) (begun g greeting input)

section Reached

variable {g : Game} {greeting : String} {input : List (Option String)}

theorem Reached.orderly (h : Reached prompt outcome g greeting input s) : Orderly outcome s := by
  induction h with
  | refl => exact .begun g greeting input
  | tail _ hstep ih => exact ih.step hstep

/-- Everything comes to the transcript of the line program alone. -/
theorem Reached.total_eq {prompt : Option String}
    (h : Reached (prompt.getD "") outcome g greeting input s) :
    s.total (prompt.getD "") = Plain.run g greeting prompt input := by
  induction h with
  | refl => rfl
  | tail hreached hstep ih => exact (hstep.total_eq (Reached.orderly hreached)).trans ih

end Reached

/-- The next step, as long as the worker has not stopped. -/
theorem exists_step (prompt : String) (outcome : Nat → Option PushError)
    (h : s.worker ≠ .stopped) : ∃ s', Step prompt outcome s s' := by
  cases hworker : s.worker with
  | pushing u => exact ⟨_, .settle hworker⟩
  | stopped => exact absurd hworker h
  | idle =>
      cases hchannel : s.channel.waiting with
      | cons u us => exact ⟨_, .take hworker hchannel⟩
      | nil =>
          cases houtbox : s.outbox with
          | cons u us => exact ⟨_, .send houtbox⟩
          | nil =>
              cases hresult : s.result with
              | none => exact ⟨_, .read hresult houtbox⟩
              | some result =>
                  have hended : s.result ≠ none := by rw [hresult]; nofun
                  cases hclosed : s.closed with
                  | false => exact ⟨_, .close hended houtbox hclosed⟩
                  | true => exact ⟨_, .stop hworker hchannel hclosed⟩

/-- How many lines may still be read, the end of the input being one. -/
def unread (s : Mirroring) : Nat := if s.result = none then s.rest.length + 1 else 0

/-- A bound on the steps that are still to come.  A line makes out one update at most, which is
sent, taken and pushed. -/
def toCome (s : Mirroring) : Nat :=
  5 * s.unread + 4 * s.outbox.length + 3 * s.channel.waiting.length + s.worker.toCome +
    (!s.closed).toNat

/-- A line that is read is a line less, and makes out one update at most. -/
theorem Reads.unread_lt (h : Reads prompt s s') (hresult : s.result = none)
    (houtbox : s.outbox = []) : s'.unread < s.unread ∧ s'.outbox.length ≤ 1 := by
  have hunread : s.unread = s.rest.length + 1 := if_pos hresult
  rw [hunread]
  cases h with
  | atEnd hrest | noText hrest | failed hrest _ _ => simp [unread, houtbox]
  | blank hrest _ => simp [unread, hresult, houtbox, hrest]
  | answered hrest _ _ =>
      refine ⟨?_, by simp⟩
      rw [unread, hrest]
      split <;> simp

/-- Every step leaves fewer to come. -/
theorem Step.toCome_lt (hstep : Step prompt outcome s s') : s'.toCome < s.toCome := by
  cases hstep with
  | read hresult houtbox =>
      obtain ⟨hunread, hlength⟩ := (s.reads_readLine prompt).unread_lt hresult houtbox
      obtain ⟨hchannel, hclosed, hworker, -⟩ := (s.reads_readLine prompt).frame
      rw [toCome, toCome, hchannel, hclosed, hworker, houtbox, List.length_nil]
      omega
  | @send u _ houtbox =>
      have hlength : (if s.worker = .stopped then s.channel else s.channel.send u).waiting.length ≤
          s.channel.waiting.length + 1 := by
        split <;> simp [UpdateQueue.send]
      rw [toCome, toCome, houtbox, List.length_cons]
      simp only [unread]
      omega
  | close _ _ hopen => simp [toCome, unread, hopen]
  | take hidle hchannel =>
      simp only [toCome, unread, hidle, hchannel, Worker.toCome, List.length_cons]
      omega
  | settle hpushing => simp [toCome, unread, hpushing, Worker.toCome]
  | stop hidle _ _ => simp [toCome, unread, hidle, Worker.toCome]

/-- No run goes on forever. -/
theorem wellFounded_step (prompt : String) (outcome : Nat → Option PushError) :
    WellFounded fun s' s => Step prompt outcome s s' :=
  Subrelation.wf Step.toCome_lt (measure toCome).wf

/-- However far a run has come, it can go on until the worker has stopped. -/
theorem exists_stopped (prompt : String) (outcome : Nat → Option PushError) (s : Mirroring) :
    ∃ s', Relation.ReflTransGen (Step prompt outcome) s s' ∧ s'.worker = .stopped := by
  induction s using (wellFounded_step prompt outcome).induction with
  | _ s ih =>
      by_cases hstopped : s.worker = .stopped
      · exact ⟨s, .refl, hstopped⟩
      · obtain ⟨next, hstep⟩ := exists_step prompt outcome hstopped
        obtain ⟨last, hsteps, hlast⟩ := ih next hstep
        exact ⟨last, .head hstep hsteps, hlast⟩

/-! ## What is pushed -/

section Pushed

variable {g : Game} {greeting : String} {prompt : Option String} {input : List (Option String)}

/-- What is pushed is the beginning of what the line program alone sends. -/
theorem Reached.pushed_prefix (h : Reached (prompt.getD "") outcome g greeting input s) :
    s.pushed <+: (Plain.run g greeting prompt input).queue.waiting := by
  have hsent : s.pushed <+: s.sent := by
    rw [sent, List.append_assoc]
    exact List.prefix_append _ _
  refine hsent.trans ?_
  rw [← h.total_eq]
  cases hresult : s.result with
  | none =>
      rw [total_running hresult, Plain.runLines_eq]
      exact List.prefix_append _ _
  | some result => simp [total_ended hresult]

/-- Once the worker has stopped, everything is done. -/
theorem Reached.of_stopped (h : Reached (prompt.getD "") outcome g greeting input s)
    (hstopped : s.worker = .stopped) :
    ∃ result, s.result = some result ∧ s.met = UpdateQueue.drain outcome ⟨s.pushed⟩ ∧
      Plain.run g greeting prompt input = ⟨s.output, result, ⟨s.pushed⟩, s.game⟩ := by
  obtain ⟨hclosed, hchannel⟩ := h.orderly.stopped hstopped
  obtain ⟨hended, houtbox⟩ := h.orderly.closed hclosed
  obtain ⟨result, hresult⟩ := Option.ne_none_iff_exists'.1 hended
  have hsent : s.sent = s.pushed := by
    rw [sent, hchannel, houtbox, List.append_nil, List.append_nil]
  have hpushed : s.pushed = s.met.map (·.1) := by
    rw [pushed, hstopped, Worker.current?, Option.toList_none, List.append_nil]
  refine ⟨result, hresult, ?_, ?_⟩
  · rw [UpdateQueue.drain, hpushed]
    exact h.orderly.met
  · rw [← h.total_eq, total_ended hresult, hsent]

end Pushed

end Mirroring

/-- What the line program sends is the open game at the beginning and what its answers ask for. -/
theorem Plain.waiting_run (g : Game) (greeting : String) (prompt : Option String)
    (input : List (Option String)) :
    (run g greeting prompt input).queue.waiting =
      (g.session.map Update.ofSession).toList ++ (g.converse (heard input)).updates := by
  rw [run, runLines_eq, UpdateQueue.sendSession_eq]
  rfl

/-- **The dashboard sees every state once and in order.**  While the line program and the worker
run, whichever of them goes first and whichever pushes fail, the pushes that are called are for the
state that is open at the beginning and the ones that are open after each answer that asks for a
refresh, as far as they have come.  Runs come to an end, and only when the worker has stopped.  All
states are pushed by then, each push goes as it is told to, and the text, the result and the game
with its store are those of the line program alone. -/
theorem display_sees_every_state (g : Game) (greeting : String) (prompt : Option String)
    (input : List (Option String)) (outcome : Nat → Option PushError) :
    let run := Plain.run g greeting prompt input
    let shown :=
      (g.session.map Update.ofSession).toList ++ (g.converse (Plain.heard input)).updates
    (∀ s, Mirroring.Reached (prompt.getD "") outcome g greeting input s →
      s.pushed <+: shown ∧
      (s.worker = .stopped →
        s.pushed = shown ∧ s.met = run.queue.drain outcome ∧ s.output = run.output ∧
          s.result = some run.result ∧ s.game = run.game) ∧
      ((∀ s', ¬ Mirroring.Step (prompt.getD "") outcome s s') → s.worker = .stopped)) ∧
    WellFounded fun s' s => Mirroring.Step (prompt.getD "") outcome s s' := by
  intro run shown
  have hshown : run.queue.waiting = shown := Plain.waiting_run g greeting prompt input
  refine ⟨fun s hreached => ⟨?_, fun hstopped => ?_, fun hstuck => ?_⟩,
    Mirroring.wellFounded_step _ outcome⟩
  · rw [← hshown]
    exact hreached.pushed_prefix
  · obtain ⟨result, hresult, hmet, hrun⟩ := hreached.of_stopped hstopped
    have htotal : run = ⟨s.output, result, ⟨s.pushed⟩, s.game⟩ := hrun
    rw [← hshown, htotal]
    exact ⟨rfl, hmet, rfl, hresult, rfl⟩
  · by_contra hworks
    obtain ⟨next, hstep⟩ := Mirroring.exists_step (prompt.getD "") outcome hworks
    exact hstuck next hstep

/-- A payment, a question, the deletion of the open game and a new game, while the second of three
pushes fails. -/
theorem display_sees_every_state_rejected :
    let store : Store :=
      ⟨⟨some "a", (∅ : Book GameRecord).insert "a" ⟨["next SR"], 0, 0⟩⟩, 0, fun _ => .made 7⟩
    let g : Game := ⟨store, some (.replay "a" ["next SR"] "$"), "$"⟩
    let input := [some "mikko cash 5", some " ", some "bank", some "delete a", some "start b"]
    let outcome (i : Nat) := if i = 1 then some (PushError.rejected 503 "asleep") else none
    ∃ s, Mirroring.Reached "" outcome g "Hi.\n" input s ∧ s.worker = .stopped ∧
      s.pushed.map (·.name) = ["a", "a", "b"] ∧
      s.met.map (·.2) = [none, some (.rejected 503 "asleep"), none] ∧
      s.output = (Plain.run g "Hi.\n" none input).output := by
  intro store g input outcome
  obtain ⟨s, hreached, hstopped⟩ :=
    Mirroring.exists_stopped "" outcome (.begun g "Hi.\n" input)
  obtain ⟨hpushed, hmet, houtput, -, -⟩ :=
    ((display_sees_every_state g "Hi.\n" none input outcome).1 s hreached).2.1 hstopped
  refine ⟨s, hreached, hstopped, ?_, ?_, houtput⟩
  · rw [hpushed]
    decide +kernel
  · rw [hmet]
    decide +kernel

end ShareLedger
