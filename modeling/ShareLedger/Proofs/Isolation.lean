import ShareLedger.Proofs.Acceptance
import ShareLedger.Proofs.StoreFailure
/-!
# Proofs.Isolation

Games know nothing of each other.

1. What a sitting does to one game is a log to begin with and the turns that were taken while the
   game was open; starting the game anew forgets what was before (`Story`, `Game.story`).
2. The log that is kept of a game is the one that its story leads to, on a session of its own
   (`Story.log`).  Each of the cases in which an input line is answered keeps this
   (`Game.Told.outcome`), whatever the line does to other games, and so does a sitting of any length
   (`Game.Told.play`).
3. A session that was opened anew has another past than the one that went on, and may have another
   ledger.  It has the same log, and a turn does the same to the same log (`Session.events_turn`).
4. A line that neither starts nor deletes a game, nor is carried out while it is open, leaves its
   record as it is (`Request.Outcome.record_eq`).
-/

namespace ShareLedger

/-! ## Stories -/

/-- What happened to one game: the log it began with and the turns taken in it since. -/
structure Story where
  start : List String
  turns : List Turn
deriving DecidableEq

namespace Story

/-- The log after the turns of a story, taken in a session of their own. -/
def log (name currency : String) (story : Story) : List String :=
  ((Session.replay name story.start currency).turnAll story.turns).events

theorem log_start (name currency : String) (events : List String) :
    log name currency ⟨events, []⟩ = events :=
  Session.events_replay name events currency

/-- The story of a game after a request, if there is the game: turns count while the game is open,
and only requests that name the game count besides. -/
def after (name : String) (isOpen : Bool) (story : Option Story) : Request → Option Story
  | .question | .openGame _ => story
  | .turn t => if isOpen then story.map fun st => ⟨st.start, st.turns ++ [t]⟩ else story
  | .startGame other => if other = name then some (story.getD ⟨[], []⟩) else story
  | .deleteGame other => if other = name then none else story

/-- One more turn does to the log of a story what it does to any session with this log. -/
theorem log_concat {name currency : String} {story : Story} {s : Session}
    (hevents : story.log name currency = s.events) (t : Turn) :
    log name currency ⟨story.start, story.turns ++ [t]⟩ = (s.turn t).events := by
  unfold log Session.turnAll at hevents ⊢
  rw [List.foldl_append, List.foldl_cons, List.foldl_nil]
  exact Session.events_turn hevents t

end Story

/-- A request leaves the record of a game alone that is not open and that it neither starts nor
deletes, whatever becomes of its writes. -/
theorem Request.Outcome.record_eq {index index' : GameIndex} {session session' : Option Session}
    {symbol name : String} {request : Request} {result : Except StoreError Reply}
    (h : Outcome index session symbol request index' session' result)
    (hopen : ∀ s ∈ session, s.name ≠ name) (hstart : request ≠ .startGame name)
    (hdelete : request ≠ .deleteGame name) :
    index'.games.get? name = index.games.get? name := by
  cases h with
  | quiet _ _ | unkept _ _ | opened _ _ | unpointed _ | unstarted _ | undeleted _ => rfl
  | kept now hs hturn _ =>
      refine index.get?_save_of_ne now _ ?_
      rw [(Session.name_attempt hturn).1]
      exact (hopen _ hs).symm
  | started now _ _ | halfStarted now _ =>
      exact index.get?_save_of_ne now [] fun hname => hstart (hname ▸ rfl)
  | deleted _ _ _ | closed _ _ _ | halfClosed _ _ =>
      exact index.get?_delete_of_ne fun hname => hdelete (hname ▸ rfl)

namespace Game

/-- Whether a game is open. -/
def isOpen (g : Game) (name : String) : Bool := g.session.any (·.name == name)

/-- What input lines make of the story of a game. -/
def storyFrom (name : String) (g : Game) (story : Option Story) : List String → Option Story
  | [] => story
  | line :: lines =>
    storyFrom name (g.execute line).1 (Story.after name (g.isOpen name) story (.read line)) lines

-- What the line is and what it comes to are not looked into.
attribute [local irreducible] execute Request.read in
theorem storyFrom_cons (name : String) (g : Game) (story : Option Story) (line : String)
    (lines : List String) :
    storyFrom name g story (line :: lines) =
      storyFrom name (g.execute line).1 (Story.after name (g.isOpen name) story (.read line))
        lines := rfl

/-- The story of a game over input lines, from the log that is kept of it at the beginning. -/
def story (g : Game) (name : String) (lines : List String) : Option Story :=
  storyFrom name g ((g.store.index.eventsOf name).map fun events => ⟨events, []⟩) lines

/-! ## The story of a game and its log -/

/-- The log that is kept of a game is what its story leads to, and the log of the open session is
kept. -/
structure Told (name currency : String) (index : GameIndex) (session : Option Session)
    (story : Option Story) : Prop where
  log : index.eventsOf name = story.map (Story.log name currency)
  opened : ∀ s ∈ session, index.eventsOf s.name = some s.events

namespace Told

variable {name currency : String} {index index' : GameIndex} {session session' : Option Session}
  {story : Option Story}

/-- A turn that is taken or refused in the open session, whose log is kept afterwards. -/
theorem turn {s : Session} (h : Told name currency index (some s) story) (t : Turn)
    (hkept : index'.eventsOf s.name = some (s.turn t).events)
    (hothers : ∀ other, other ≠ s.name → index'.eventsOf other = index.eventsOf other) :
    Told name currency index' (some (s.turn t))
      (Story.after name ((some s).any (·.name == name)) story (.turn t)) where
  log := by
    by_cases hname : s.name = name
    · subst hname
      have hlog := h.log
      rw [h.opened s rfl] at hlog
      obtain ⟨st, rfl, hst⟩ := Option.map_eq_some_iff.1 hlog.symm
      have hopen : (some s).any (·.name == s.name) = true := beq_self_eq_true s.name
      rw [hkept, Story.after, if_pos hopen]
      exact congrArg some (Story.log_concat hst t).symm
    · have hclosed : ¬ (some s).any (·.name == name) = true := fun hopen => hname (eq_of_beq hopen)
      rw [hothers name (Ne.symm hname), Story.after, if_neg hclosed]
      exact h.log
  opened := by
    rintro s' ⟨⟩
    rw [(s.name_turn t).1]
    exact hkept

/-- Refused requests change no story. -/
theorem quiet {request : Request} (h : Told name currency index session story)
    (hrefused : request.Refused index session) :
    Told name currency index session
      (Story.after name (session.any (·.name == name)) story request) := by
  cases request with
  | question => exact h
  | openGame other => exact h
  | turn t =>
      cases session with
      | none => exact h
      | some s =>
          obtain ⟨e, he⟩ := hrefused s rfl
          have hsame : s.turn t = s := by rw [Session.turn, he]
          have hkept : index.eventsOf s.name = some (s.turn t).events := by
            rw [hsame]
            exact h.opened s rfl
          have hturn := h.turn t hkept fun _ _ => rfl
          rwa [hsame] at hturn
  | startGame other =>
      by_cases hname : other = name
      · subst hname
        obtain ⟨st, rfl⟩ : ∃ st, story = some st := by
          have hsome := (index.has_eq_isSome other).symm.trans hrefused
          rw [h.log, Option.isSome_map] at hsome
          exact Option.isSome_iff_exists.1 hsome
        rw [Story.after, if_pos rfl]
        exact h
      · rw [Story.after, if_neg hname]
        exact h
  | deleteGame other =>
      by_cases hname : other = name
      · subst hname
        have hnone := GameIndex.eventsOf_eq_none_of_has hrefused
        rw [h.log, Option.map_eq_none_iff] at hnone
        rw [Story.after, if_pos rfl, ← hnone]
        exact h
      · rw [Story.after, if_neg hname]
        exact h

/-- Deleting a game, which is not open afterwards. -/
theorem delete {other : String} {isOpen : Bool} (h : Told name currency index session story)
    (hopen : ∀ s ∈ session', s ∈ session ∧ s.name ≠ other) :
    Told name currency (index.delete other) session'
      (Story.after name isOpen story (.deleteGame other)) where
  log := by
    by_cases hname : other = name
    · subst hname
      rw [Story.after, if_pos rfl]
      exact index.eventsOf_delete other
    · rw [Story.after, if_neg hname, index.eventsOf_delete_of_ne (Ne.symm hname)]
      exact h.log
  opened s hs := by
    obtain ⟨hold, hother⟩ := hopen s hs
    rw [index.eventsOf_delete_of_ne hother]
    exact h.opened s hold

/-- Starting a game that was not there. -/
theorem start {other symbol : String} {isOpen : Bool} (h : Told name currency index session story)
    (now : Amount) (hnew : index.has other = false) :
    Told name currency ((index.save now other []).point (some other)) (some (.new other symbol))
      (Story.after name isOpen story (.startGame other)) where
  log := by
    by_cases hname : other = name
    · subst hname
      have hnone := GameIndex.eventsOf_eq_none_of_has hnew
      rw [h.log, Option.map_eq_none_iff] at hnone
      rw [Story.after, if_pos rfl, hnone, GameIndex.eventsOf_point, GameIndex.eventsOf_save]
      exact congrArg some (Story.log_start other currency []).symm
    · rw [Story.after, if_neg hname, GameIndex.eventsOf_point,
        index.eventsOf_save_of_ne now [] (Ne.symm hname)]
      exact h.log
  opened := by
    rintro s ⟨⟩
    exact index.eventsOf_save now other []

/-- **Every answered line keeps this**, whichever game it is about. -/
theorem outcome {symbol : String} {request : Request} {reply : Reply}
    (h : Told name currency index session story)
    (houtcome : Request.Outcome index session symbol request index' session' (.ok reply)) :
    Told name currency index' session'
      (Story.after name (session.any (·.name == name)) story request) := by
  cases houtcome with
  | quiet hrefused _ => exact h.quiet hrefused
  | @kept s s' t _ _ now hs hturn _ =>
      subst hs
      have hnext : s.turn t = s' := by rw [Session.turn, hturn]
      have hname := (Session.name_attempt hturn).1
      rw [← hnext]
      refine h.turn t ?_ fun other hother => ?_
      · rw [hnext, ← hname]
        exact index.eventsOf_save now _ _
      · exact index.eventsOf_save_of_ne now _ (by rwa [hnext, hname])
  | @opened other events _ hevents _ =>
      refine ⟨h.log, ?_⟩
      rintro s ⟨⟩
      rw [Session.name_replay, Session.events_replay]
      exact hevents
  | started now hnew _ => exact h.start now hnew
  | deleted _ hother _ => exact h.delete fun s hs => ⟨hs, hother s hs⟩
  | @closed s _ _ _ _ =>
      have hdeleted : Told name currency (index.delete s.name) none
          (Story.after name (session.any (·.name == name)) story (.deleteGame s.name)) :=
        h.delete fun s' hs' => absurd hs' (Option.not_mem_none s')
      exact ⟨hdeleted.log, hdeleted.opened⟩

/-- Input lines of which no write fails keep this. -/
theorem play {g : Game} {lines : List String} (h : Told name currency g.store.index g.session story)
    (hmade : g.store.AllMade (g.play lines).store) :
    Told name currency (g.play lines).store.index (g.play lines).session
      (g.storyFrom name story lines) := by
  induction lines generalizing g story with
  | nil => exact h
  | cons line lines ih =>
      obtain ⟨hline, hrest⟩ := allMade_cons hmade
      obtain ⟨reply, houtcome⟩ := outcome_of_allMade hline
      rw [play_cons, storyFrom_cons]
      exact ih (h.outcome houtcome) hrest

end Told

/-- What a sitting begins with keeps the log of the game that it opens. -/
theorem Begins.told {store : Store} {g : Game} (h : Begins store g) (name currency : String) :
    Told name currency g.store.index g.session
      ((g.store.index.eventsOf name).map fun events => ⟨events, []⟩) := by
  refine ⟨?_, ?_⟩
  · rw [Option.map_map]
    have hstart : (Story.log name currency ∘ fun events => ⟨events, []⟩) = id :=
      funext fun events => Story.log_start name currency events
    rw [hstart, Option.map_id_fun, id]
  · cases h with
    | fresh symbol => exact fun s hs => absurd hs (Option.not_mem_none s)
    | resumed h =>
        have hbeginning := beginning_createOrLoad h
        generalize g.store.index = index, g.session = session at hbeginning ⊢
        cases hbeginning with
        | resumed _ hevents =>
            rintro s ⟨⟩
            rw [Session.name_replay, Session.events_replay]
            exact hevents
        | begun now _ _ =>
            rintro s ⟨⟩
            exact GameIndex.eventsOf_save _ now _ []
        | unbegun _ | halfBegun _ _ _ => exact fun s hs => absurd hs (Option.not_mem_none s)

/-- A sitting begins with the logs of its store, and with one game more if it had to begin one. -/
theorem Begins.eventsOf {store : Store} {g : Game} (h : Begins store g) (name : String) :
    g.store.index.eventsOf name = store.index.eventsOf name ∨
      store.index.eventsOf name = none ∧ g.store.index.eventsOf name = some [] := by
  cases h with
  | fresh symbol => exact .inl rfl
  | resumed h =>
      have hbeginning := beginning_createOrLoad h
      generalize g.store.index = index, g.session = session at hbeginning ⊢
      have hsaved (other : String) (now : Amount) (hnew : store.index.has other = false) :
          (store.index.save now other []).eventsOf name = store.index.eventsOf name ∨
            store.index.eventsOf name = none ∧
              (store.index.save now other []).eventsOf name = some [] := by
        by_cases hname : name = other
        · subst hname
          exact .inr ⟨GameIndex.eventsOf_eq_none_of_has hnew, GameIndex.eventsOf_save _ now _ []⟩
        · exact .inl (GameIndex.eventsOf_save_of_ne _ now [] hname)
      cases hbeginning with
      | resumed _ _ | unbegun _ => exact .inl rfl
      | begun now _ hnew | halfBegun now _ hnew => exact hsaved _ now hnew

/-- **Games are isolated from each other.**  A sitting begins with the logs of its store, and with an
empty one for a game that it had to begin.  While no write fails, the log that is kept of a game is
the one to which its story leads in a session of its own, in any currency: nothing else counts that
happened, and there is no log when the story ends with a deletion.  A line that is carried out while
the game is not open, and neither starts nor deletes it, leaves its record as it is, moments
included. -/
theorem games_isolated {store : Store} {g : Game} {lines : List String}
    (hbegins : Begins store g) (hmade : g.store.AllMade (g.play lines).store) (name : String) :
    (g.store.index.eventsOf name = store.index.eventsOf name ∨
      store.index.eventsOf name = none ∧ g.store.index.eventsOf name = some []) ∧
    (∀ currency, (g.play lines).store.index.eventsOf name =
      (g.story name lines).map (Story.log name currency)) ∧
    ∀ line, (∀ s ∈ (g.play lines).session, s.name ≠ name) →
      Request.read line ≠ .startGame name → Request.read line ≠ .deleteGame name →
      ((g.play lines).execute line).1.store.index.games.get? name =
        (g.play lines).store.index.games.get? name := by
  refine ⟨hbegins.eventsOf name, fun currency => ?_, fun line hopen hstart hdelete => ?_⟩
  · have hbegun := hbegins.told name currency
    exact (hbegun.play hmade).log
  · have houtcome := (g.play lines).outcome_execute line
    exact houtcome.record_eq hopen hstart hdelete

/-- A game that is deleted and started again while another one is played and taken back. -/
theorem games_isolated_restarted :
    let store : Store :=
      ⟨⟨some "a", ((∅ : Book GameRecord).insert "a" ⟨["next SR"], 0, 0⟩).insert "b"
        ⟨["next OR"], 0, 0⟩⟩, 0, fun _ => .made 7⟩
    let lines := ["mikko cash 5", "open b", "undo", "delete a", "start a", "gt float 3", "open b",
      "cr float 9", "open a", "undo", "gt income 2", "open b"]
    ∃ g, (Game.mk store none "$").createOrLoad [] = some (g, .ok "Continuing game 'a'.\n") ∧
      g.story "a" lines = some ⟨[], [.act (Action.read "gt float 3"), .undo,
        .act (Action.read "gt income 2")]⟩ ∧
      (g.play lines).store.index.eventsOf "a" = some ["GT income 2"] ∧
      (g.play lines).store.index.eventsOf "b" = some ["CR float 9"] ∧
      ((g.play lines).execute "undo").1.store.index.games.get? "a" =
        (g.play lines).store.index.games.get? "a" := by
  intro store lines
  let g : Game := ⟨store, some (.replay "a" ["next SR"] "$"), "$"⟩
  have hbegun : (Game.mk store none "$").createOrLoad [] =
      some (g, .ok "Continuing game 'a'.\n") := rfl
  have hmade : g.store.AllMade (g.play lines).store := fun _ _ _ => ⟨7, rfl⟩
  obtain ⟨-, ha, hrecord⟩ := games_isolated (.resumed hbegun) hmade "a"
  obtain ⟨-, hb, -⟩ := games_isolated (.resumed hbegun) hmade "b"
  have hopen : (g.play lines).session.map (·.name) = some "b" := by decide +kernel
  refine ⟨g, hbegun, by decide +kernel, (ha "$").trans (by decide +kernel),
    (hb "$").trans (by decide +kernel), hrecord "undo" ?_ (by decide +kernel) (by decide +kernel)⟩
  intro s hs hname
  rw [hs, Option.map_some, hname] at hopen
  exact absurd hopen (by decide)

end Game
end ShareLedger
