import ShareLedger.Game
import ShareLedger.Proofs.Index
import ShareLedger.Proofs.Undo
/-!
# Proofs.Request

What an input line asks for, and everything that it can come to, failing writes included.

1. A line takes a turn in the open game, opens, starts or deletes a game, or asks for nothing that
   is kept (`Request.read`).
2. A plan is judged with all its ends.  `Plan.Leads P` says of an index that the plan ends in `P`
   whichever write fails, and if none does (`Plan.Leads.run`).
3. What a request can come to is listed once, one case for each write at which it can stop
   (`Request.Outcome`), and every input line comes to one of the cases (`Game.outcome_execute`).  So
   is what a sitting can begin with (`Game.Beginning`).  Laws about lines and sittings are derived
   from the cases and never unfold a plan.
-/

namespace ShareLedger

/-! ## Requests -/

/-- What an input line asks for. -/
inductive Request where
  /-- Nothing that is kept: an answer, or the end of the sitting. -/
  | question
  /-- A turn in the open game. -/
  | turn (t : Turn)
  | openGame (name : String)
  | startGame (name : String)
  | deleteGame (name : String)
deriving DecidableEq

namespace Request

/-- What a command asks for. -/
def ofAction (a : Action) : Request :=
  match a.verb with
  | none | some .listGames | some .holdings | some .values | some .companies | some .bank =>
    .question
  | some .openGame => .openGame (Game.gameName a)
  | some .startGame => .startGame (Game.gameName a)
  | some .deleteGame => .deleteGame (Game.gameName a)
  | some _ => .turn (.act a)

/-- What an input line asks for. -/
def read (line : String) : Request :=
  let trimmed := Text.trim line
  let lowered := Text.lower trimmed
  if Game.abbreviates lowered "quit" || Game.abbreviates lowered "exit" then .question
  else if lowered = "undo" then .turn .undo
  else if lowered = "help" ∨ lowered = "?" then .question
  else ofAction (Action.read trimmed)

/-- Why a request changes nothing: the session refuses the turn, there is no game of the name, or
there is one already. -/
def Refused (index : GameIndex) (session : Option Session) : Request → Prop
  | .question => True
  | .turn t => ∀ s ∈ session, ∃ e, s.attempt t = .error e
  | .openGame name => index.has name = false
  | .startGame name => index.has name = true
  | .deleteGame name => index.has name = false

/-- What a request can come to at an index and a session: the index, the session and the answer or
the failure. -/
inductive Outcome (index : GameIndex) (session : Option Session) (currency : String) :
    Request → GameIndex → Option Session → Except StoreError Reply → Prop
  /-- Nothing has changed. -/
  | quiet {request reply} (hrefused : request.Refused index session)
    (hquiet : reply.effect ≠ .refresh) :
    Outcome index session currency request index session (.ok reply)
  /-- The turn is taken and the log kept. -/
  | kept {s s' t report reply} (now : Amount) (hs : session = some s)
    (hturn : s.attempt t = .ok (s', report)) (hrefresh : reply.effect = .refresh) :
    Outcome index session currency (.turn t) (index.save now s'.name s'.events) (some s')
      (.ok reply)
  /-- The turn is taken, the log is not kept. -/
  | unkept {s s' t report e} (hs : session = some s) (hturn : s.attempt t = .ok (s', report)) :
    Outcome index session currency (.turn t) index (some s') (.error e)
  | opened {name events reply} (hevents : index.eventsOf name = some events)
    (hrefresh : reply.effect = .refresh) :
    Outcome index session currency (.openGame name) (index.point (some name))
      (some (.replay name events currency)) (.ok reply)
  /-- The game is open, the name of the one in play is not set. -/
  | unpointed {name events e} (hevents : index.eventsOf name = some events) :
    Outcome index session currency (.openGame name) index (some (.replay name events currency))
      (.error e)
  | started {name reply} (now : Amount) (hnew : index.has name = false)
    (hrefresh : reply.effect = .refresh) :
    Outcome index session currency (.startGame name)
      ((index.save now name []).point (some name)) (some (.new name currency)) (.ok reply)
  | unstarted {name e} (hnew : index.has name = false) :
    Outcome index session currency (.startGame name) index session (.error e)
  /-- The game is kept, but neither named as the one in play nor open. -/
  | halfStarted {name e} (now : Amount) (hnew : index.has name = false) :
    Outcome index session currency (.startGame name) (index.save now name []) session (.error e)
  /-- A game that is not open is deleted. -/
  | deleted {name reply} (hold : index.has name = true) (hother : ∀ s ∈ session, s.name ≠ name)
    (hrefresh : reply.effect = .refresh) :
    Outcome index session currency (.deleteGame name) (index.delete name) session (.ok reply)
  | undeleted {name e} (hold : index.has name = true) :
    Outcome index session currency (.deleteGame name) index session (.error e)
  /-- The open game is deleted. -/
  | closed {s reply} (hs : session = some s) (hold : index.has s.name = true)
    (hrefresh : reply.effect = .refresh) :
    Outcome index session currency (.deleteGame s.name) ((index.delete s.name).point none) none
      (.ok reply)
  /-- The open game is deleted and closed, the name of the game in play is not cleared. -/
  | halfClosed {s e} (hs : session = some s) (hold : index.has s.name = true) :
    Outcome index session currency (.deleteGame s.name) (index.delete s.name) none (.error e)

end Request

/-! ## Plans -/

variable {σ α : Type}

/-- Every end of the plan is in `P`, whichever of its writes fails and at whatever moments the
others are made. -/
inductive Plan.Leads (P : GameIndex → Option σ → Except StoreError α → Prop) :
    GameIndex → Plan σ α → Prop
  | done {index session answer} (h : P index session (.ok answer)) :
    Leads P index (.done session answer)
  | write {index session change next} (hfailed : ∀ e, P index session (.error e))
    (hmade : ∀ now, Leads P (index.change now change) next) :
    Leads P index (.write session change next)

/-- A plan comes to one of its ends. -/
theorem Plan.Leads.run {P : GameIndex → Option σ → Except StoreError α → Prop} {p : Plan σ α}
    {store : Store} (h : p.Leads P store.index) :
    P (p.run store).1.index (p.run store).2.1 (p.run store).2.2 := by
  induction p generalizing store with
  | done session answer =>
      cases h with
      | done h => exact h
  | write session change next ih =>
      cases h with
      | write hfailed hmade =>
      cases hfate : store.fate store.tried with
      | made now =>
          simp only [Plan.run, Store.write, hfate]
          exact ih (hmade now)
      | failed reason =>
          simp only [Plan.run, Store.write, hfate]
          exact hfailed _

/-! ## What lines come to -/

namespace Game

variable {index : GameIndex} {session : Option Session} {currency name : String}

theorem leads_answer {request : Request} {reply : Reply} (hrefused : request.Refused index session)
    (hquiet : reply.effect ≠ .refresh) :
    (answer session reply).Leads (Request.Outcome index session currency request) index :=
  .done (.quiet hrefused hquiet)

/-- Keeping the log of a game in which a turn was taken. -/
theorem leads_keep {s s' : Session} {t : Turn} {report : String} (feedback : String)
    (hturn : s.attempt t = .ok (s', report)) :
    (keep s' feedback).Leads (Request.Outcome index (some s) currency (.turn t)) index :=
  .write (fun _ => .unkept rfl hturn) fun now => .done (.kept now rfl hturn rfl)

theorem leads_perform (a : Action) :
    (perform session a).Leads (Request.Outcome index session currency (.turn (.act a))) index := by
  cases session with
  | none => exact leads_answer (fun s hs => by cases hs) nofun
  | some s =>
      simp only [perform]
      cases hs : s.perform a with
      | error e =>
          refine leads_answer (fun s' hs' => ?_) nofun
          obtain rfl := Option.some.inj hs'
          exact ⟨e, hs⟩
      | ok result => exact leads_keep _ hs

theorem leads_undo :
    (undo session).Leads (Request.Outcome index session currency (.turn .undo)) index := by
  cases session with
  | none => exact leads_answer (fun s hs => by cases hs) nofun
  | some s =>
      simp only [undo]
      cases hs : s.undo with
      | error e =>
          refine leads_answer (fun s' hs' => ?_) nofun
          obtain rfl := Option.some.inj hs'
          exact ⟨e, hs⟩
      | ok result => exact leads_keep _ hs

theorem leads_openGame (name : String) :
    (openGame index session currency name).Leads
      (Request.Outcome index session currency (.openGame name)) index := by
  unfold openGame
  cases hevents : index.eventsOf name with
  | none =>
      refine leads_answer ?_ nofun
      rw [Request.Refused, GameIndex.has_eq_isSome, hevents]
      rfl
  | some events => exact .write (fun _ => .unpointed hevents) fun _ => .done (.opened hevents rfl)

theorem leads_deleteGame (name : String) :
    (deleteGame index session name).Leads
      (Request.Outcome index session currency (.deleteGame name)) index := by
  unfold deleteGame
  split
  · next hold =>
      refine .write (fun _ => .undeleted hold) fun now => ?_
      split
      · next hopen =>
          obtain ⟨s, rfl, hname⟩ := (Option.any_eq_true _ _).1 hopen
          obtain rfl := beq_iff_eq.1 hname
          exact .write (fun _ => .halfClosed rfl hold) fun _ => .done (.closed rfl hold rfl)
      · next hopen =>
          refine .done (.deleted hold (fun s hs hname => hopen ?_) rfl)
          exact (Option.any_eq_true _ _).2 ⟨s, hs, beq_iff_eq.2 hname⟩
  · next hold => exact leads_answer (Bool.eq_false_iff.2 hold) nofun

/-- A plan that begins a game ends in what holds at each of the three indexes on its way. -/
theorem leads_begin {α : Type} {P : GameIndex → Option Session → Except StoreError α → Prop} {a : α}
    (hunstarted : ∀ e, P index session (.error e))
    (hhalf : ∀ now e, P (index.save now name []) session (.error e))
    (hstarted : ∀ now, P ((index.save now name []).point (some name)) (some (.new name currency))
      (.ok a)) : (begin session currency name a).Leads P index :=
  .write hunstarted fun now => .write (hhalf now) fun _ => .done (hstarted now)

theorem leads_startGame (name : String) :
    (startGame index session currency name).Leads
      (Request.Outcome index session currency (.startGame name)) index := by
  unfold startGame
  split
  · next hold => exact leads_answer hold nofun
  · next hold =>
      have hnew := Bool.eq_false_iff.2 hold
      exact leads_begin (fun _ => .unstarted hnew) (fun now _ => .halfStarted now hnew)
        fun now => .started now hnew rfl

theorem effect_query (session : Option Session) (verb : Verb) :
    (query session verb).effect ≠ .refresh := by
  cases session <;> nofun

theorem leads_command (a : Action) :
    (command index session currency a).Leads
      (Request.Outcome index session currency (.ofAction a)) index := by
  unfold command Request.ofAction
  cases a.verb with
  | none => exact leads_answer trivial nofun
  | some verb =>
      cases verb with
      | listGames => exact leads_answer trivial nofun
      | openGame => exact leads_openGame (gameName a)
      | startGame => exact leads_startGame (gameName a)
      | deleteGame => exact leads_deleteGame (gameName a)
      | holdings | values | companies | bank =>
          exact leads_answer trivial (effect_query session _)
      | _ => exact leads_perform a

theorem leads_plan (line : String) :
    (plan index session currency line).Leads
      (Request.Outcome index session currency (.read line)) index := by
  simp only [plan, Request.read]
  split
  · exact leads_answer trivial nofun
  · split
    · exact leads_undo
    · split
      · exact leads_answer trivial nofun
      · exact leads_command _

/-- What an input line comes to is what its plan comes to. -/
theorem execute_eq {g : Game} {line : String} {store : Store} {session : Option Session}
    {result : Except StoreError Reply}
    (h : (plan g.store.index g.session g.currency line).run g.store = (store, session, result)) :
    g.execute line = (⟨store, session, g.currency⟩, result) := by
  unfold execute
  rw [h]

/-- An input line comes to one of the ends of its plan. -/
theorem execute_of_leads {P : GameIndex → Option Session → Except StoreError Reply → Prop} {g : Game}
    {line : String} (h : (plan g.store.index g.session g.currency line).Leads P g.store.index) :
    P (g.execute line).1.store.index (g.execute line).1.session (g.execute line).2 := by
  have hend := h.run
  rcases hrun : (plan g.store.index g.session g.currency line).run g.store with
    ⟨store, session, result⟩
  rw [hrun] at hend
  rw [execute_eq hrun]
  exact hend

/-- **Everything an input line can come to**, whatever becomes of its writes. -/
theorem outcome_execute (g : Game) (line : String) :
    Request.Outcome g.store.index g.session g.currency (.read line) (g.execute line).1.store.index
      (g.execute line).1.session (g.execute line).2 :=
  execute_of_leads (leads_plan line)

/-! ## What sittings begin with -/

/-- A name that is drawn is not taken. -/
theorem taken_eq_false_of_drawUnused {taken : String → Bool} {words : List UInt32}
    (h : GameName.drawUnused taken words = some name) : taken name = false := by
  induction words using GameName.drawUnused.induct taken with
  | case1 words hdraw =>
      rw [GameName.drawUnused, hdraw] at h
      cases h
  | case2 words drawn rest hdraw htaken ih =>
      rw [GameName.drawUnused, hdraw] at h
      simp only [htaken, if_true] at h
      exact ih h
  | case3 words drawn rest hdraw hfree =>
      rw [GameName.drawUnused, hdraw] at h
      simp only [hfree] at h
      cases h
      exact Bool.eq_false_iff.2 hfree

/-- What a sitting can begin with at an index: the index, the session and the greeting or the
failure. -/
inductive Beginning (index : GameIndex) (session : Option Session) (currency : String) :
    GameIndex → Option Session → Except StoreError String → Prop
  /-- The game in play is gone on with. -/
  | resumed {name events greeting} (hcurrent : index.current = some name)
    (hevents : index.eventsOf name = some events) :
    Beginning index session currency index (some (.replay name events currency)) (.ok greeting)
  /-- There is none, and a new one is started. -/
  | begun {name greeting} (now : Amount) (hnone : ∀ other ∈ index.current, index.has other = false)
    (hnew : index.has name = false) :
    Beginning index session currency ((index.save now name []).point (some name))
      (some (.new name currency)) (.ok greeting)
  | unbegun {e} (hnone : ∀ other ∈ index.current, index.has other = false) :
    Beginning index session currency index session (.error e)
  | halfBegun {name e} (now : Amount) (hnone : ∀ other ∈ index.current, index.has other = false)
    (hnew : index.has name = false) :
    Beginning index session currency (index.save now name []) session (.error e)

/-- **Everything a sitting can begin with**, whatever becomes of its writes. -/
theorem beginning_createOrLoad {g g' : Game} {words : List UInt32}
    {result : Except StoreError String} (h : g.createOrLoad words = some (g', result)) :
    Beginning g.store.index g.session g.currency g'.store.index g'.session result := by
  obtain ⟨p, hp, hrun⟩ := Option.map_eq_some_iff.1 h
  obtain ⟨rfl, rfl⟩ := Prod.mk.inj hrun
  refine Plan.Leads.run ?_
  simp only [resume?] at hp
  split at hp
  · next name events hgoing =>
      obtain rfl := Option.some.inj hp
      obtain ⟨current, hcurrent, hevents⟩ := Option.bind_eq_some_iff.1 hgoing
      obtain ⟨log, hlog, hsame⟩ := Option.map_eq_some_iff.1 hevents
      obtain ⟨rfl, rfl⟩ := Prod.mk.inj hsame
      exact .done (.resumed hcurrent hlog)
  · next hgoing =>
      obtain ⟨name, hdrawn, rfl⟩ := Option.map_eq_some_iff.1 hp
      have hnone : ∀ other ∈ g.store.index.current, g.store.index.has other = false := by
        intro other hother
        rw [hother, Option.bind_some, Option.map_eq_none_iff] at hgoing
        rw [GameIndex.has_eq_isSome, hgoing]
        rfl
      have hnew := taken_eq_false_of_drawUnused hdrawn
      exact leads_begin (fun _ => .unbegun hnone) (fun now _ => .halfBegun now hnone hnew)
        fun now => .begun now hnone hnew

end Game
end ShareLedger
