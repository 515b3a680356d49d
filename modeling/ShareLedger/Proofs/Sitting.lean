import ShareLedger.Proofs.Request
/-!
# Proofs.Sitting

The store, the name of the game in play and the open session stay in step.

1. In step means: when a game is open, the store names it as the game in play and keeps exactly its
   log; when none is open, the store names none (`Game.InStep`).
2. A plan of which no write fails is answered (`Plan.run_answered`), and each of the cases in which
   an input line is answered leads from in step to in step (`Game.Agrees.outcome`).
3. Beginning a sitting leads there from anything (`Game.inStep_createOrLoad`), a name that points
   nowhere included.
-/

namespace ShareLedger

/-! ## Plans -/

variable {σ α : Type}

/-- Every write that one store tried and an earlier one had not yet tried was made. -/
def Store.AllMade (earlier later : Store) : Prop :=
  ∀ k, earlier.tried ≤ k → k < later.tried → ∃ now, earlier.fate k = .made now

/-- What a plan tries is counted, and no fate is changed. -/
theorem Plan.run_store (p : Plan σ α) (store : Store) :
    store.tried ≤ (p.run store).1.tried ∧ (p.run store).1.fate = store.fate := by
  induction p generalizing store with
  | done session answer => exact ⟨Nat.le_refl _, rfl⟩
  | write session change next ih =>
      cases hfate : store.fate store.tried with
      | made now =>
          simp only [run, Store.write, hfate]
          obtain ⟨htried, hfates⟩ := ih ⟨store.index.change now change, store.tried + 1, store.fate⟩
          exact ⟨Nat.le_of_succ_le htried, hfates⟩
      | failed reason =>
          simp only [run, Store.write, hfate]
          exact ⟨Nat.le_succ _, trivial⟩

/-- A plan of which no write fails is answered. -/
theorem Plan.run_answered {p : Plan σ α} {store : Store}
    (hmade : store.AllMade (p.run store).1) : ∃ answer, (p.run store).2.2 = .ok answer := by
  induction p generalizing store with
  | done session answer => exact ⟨answer, rfl⟩
  | write session change next ih =>
      simp only [run, Store.write] at hmade ⊢
      cases hfate : store.fate store.tried with
      | made now =>
          simp only [hfate] at hmade ⊢
          exact ih fun k hk => hmade k (Nat.le_of_succ_le hk)
      | failed reason =>
          simp only [hfate] at hmade
          obtain ⟨now, hnow⟩ := hmade _ (Nat.le_refl _) (Nat.lt_succ_self _)
          rw [hfate] at hnow
          cases hnow

/-! ## Being in step -/

namespace Game

/-- The store points to the open game and keeps its log, and to no game when none is open. -/
inductive Agrees (index : GameIndex) : Option Session → Prop
  | opened {s : Session} (hcurrent : index.current = some s.name)
    (hevents : index.eventsOf s.name = some s.events) : Agrees index (some s)
  | closed (hcurrent : index.current = none) : Agrees index none

/-- The store of a game agrees with its session. -/
def InStep (g : Game) : Prop := Agrees g.store.index g.session

/-- Whatever an input line asks for, its answer leads from in step to in step. -/
theorem Agrees.outcome {index index' : GameIndex} {session session' : Option Session}
    {currency : String} {request : Request} {reply : Reply} (h : Agrees index session)
    (houtcome : Request.Outcome index session currency request index' session' (.ok reply)) :
    Agrees index' session' := by
  cases houtcome with
  | quiet _ _ => exact h
  | @kept s s' _ _ _ now hs hturn _ =>
      subst hs
      cases h with
      | opened hcurrent _ =>
          rw [← (Session.name_attempt hturn).1] at hcurrent
          exact .opened hcurrent (GameIndex.eventsOf_save index now s'.name s'.events)
  | opened hevents _ =>
      refine .opened ?_ ?_
      · rw [Session.name_replay]; rfl
      · rw [Session.name_replay, Session.events_replay]; exact hevents
  | @started name _ now _ _ => exact .opened rfl (GameIndex.eventsOf_save index now name [])
  | @deleted name _ _ hother _ =>
      cases h with
      | closed hcurrent =>
          refine .closed ?_
          simp [GameIndex.delete, hcurrent]
      | @opened s hcurrent hevents =>
          have hname : s.name ≠ name := hother s rfl
          refine .opened ?_ ?_
          · simp [GameIndex.delete, hcurrent, hname]
          · rw [← hevents]
            exact GameIndex.eventsOf_delete_of_ne index hname
  | closed _ _ _ => exact .closed rfl

/-! ## Sittings -/

/-- The game after input lines. -/
def play (g : Game) (lines : List String) : Game := lines.foldl (fun g line => (g.execute line).1) g

theorem play_cons (g : Game) (line : String) (lines : List String) :
    g.play (line :: lines) = (g.execute line).1.play lines := by
  unfold play
  rw [List.foldl_cons]

theorem execute_store (g : Game) (line : String) :
    g.store.tried ≤ (g.execute line).1.store.tried ∧
      (g.execute line).1.store.fate = g.store.fate := by
  obtain ⟨htried, hfate⟩ := (plan g.store.index g.session g.currency line).run_store g.store
  rcases h : (plan g.store.index g.session g.currency line).run g.store with ⟨store, session, result⟩
  rw [h] at htried hfate
  rw [execute_eq h]
  exact ⟨htried, hfate⟩

theorem play_store (g : Game) (lines : List String) :
    g.store.tried ≤ (g.play lines).store.tried ∧ (g.play lines).store.fate = g.store.fate := by
  induction lines generalizing g with
  | nil => exact ⟨Nat.le_refl _, rfl⟩
  | cons line lines ih =>
      obtain ⟨hfirst, hfate⟩ := g.execute_store line
      obtain ⟨hrest, hfate'⟩ := ih (g.execute line).1
      rw [play_cons]
      exact ⟨Nat.le_trans hfirst hrest, hfate'.trans hfate⟩

/-- When no write of some lines fails, none of the first line does and none of the rest. -/
theorem allMade_cons {g : Game} {line : String} {lines : List String}
    (hmade : g.store.AllMade (g.play (line :: lines)).store) :
    g.store.AllMade (g.execute line).1.store ∧
      (g.execute line).1.store.AllMade ((g.execute line).1.play lines).store := by
  rw [play_cons] at hmade
  obtain ⟨hfirst, hfate⟩ := g.execute_store line
  obtain ⟨hrest, -⟩ := (g.execute line).1.play_store lines
  refine ⟨fun k hk hlt => hmade k hk (Nat.lt_of_lt_of_le hlt hrest), fun k hk hlt => ?_⟩
  rw [hfate]
  exact hmade k (Nat.le_trans hfirst hk) hlt

/-- An input line of which no write fails is answered. -/
theorem outcome_of_allMade {g : Game} {line : String}
    (hmade : g.store.AllMade (g.execute line).1.store) :
    ∃ reply, Request.Outcome g.store.index g.session g.currency (.read line)
      (g.execute line).1.store.index (g.execute line).1.session (.ok reply) := by
  have houtcome := g.outcome_execute line
  rcases hrun : (plan g.store.index g.session g.currency line).run g.store with
    ⟨store, session, result⟩
  rw [execute_eq hrun] at hmade houtcome ⊢
  have hstore : g.store.AllMade ((plan g.store.index g.session g.currency line).run g.store).1 := by
    rw [hrun]; exact hmade
  obtain ⟨reply, hreply⟩ := Plan.run_answered hstore
  rw [hrun] at hreply
  obtain rfl : result = .ok reply := hreply
  exact ⟨reply, houtcome⟩

/-- An input line of which no write fails keeps in step. -/
theorem InStep.execute {g : Game} {line : String} (h : g.InStep)
    (hmade : g.store.AllMade (g.execute line).1.store) : (g.execute line).1.InStep := by
  obtain ⟨reply, houtcome⟩ := outcome_of_allMade hmade
  exact Agrees.outcome h houtcome

/-- Input lines of which no write fails keep in step. -/
theorem InStep.play {g : Game} {lines : List String} (h : g.InStep)
    (hmade : g.store.AllMade (g.play lines).store) : (g.play lines).InStep := by
  induction lines generalizing g with
  | nil => exact h
  | cons line lines ih =>
      obtain ⟨hline, hrest⟩ := allMade_cons hmade
      rw [play_cons]
      exact ih (h.execute hline) hrest

/-- A sitting begins with a game that is open and in play, also when the name of the game in play
points nowhere. -/
theorem opened_createOrLoad {g g' : Game} {words : List UInt32} {greeting : String}
    (h : g.createOrLoad words = some (g', .ok greeting)) :
    ∃ s, g'.session = some s ∧ g'.store.index.current = some s.name ∧
      g'.store.index.eventsOf s.name = some s.events := by
  have hbeginning := beginning_createOrLoad h
  generalize g'.store.index = index, g'.session = session at hbeginning ⊢
  cases hbeginning with
  | resumed hcurrent hevents =>
      refine ⟨_, rfl, ?_, ?_⟩
      · rw [Session.name_replay]; exact hcurrent
      · rw [Session.name_replay, Session.events_replay]; exact hevents
  | @begun name _ now _ _ =>
      exact ⟨_, rfl, rfl, GameIndex.eventsOf_save g.store.index now name []⟩

/-- A sitting begins in step. -/
theorem inStep_createOrLoad {g g' : Game} {words : List UInt32} {greeting : String}
    (h : g.createOrLoad words = some (g', .ok greeting)) : g'.InStep := by
  obtain ⟨s, hs, hcurrent, hevents⟩ := opened_createOrLoad h
  rw [InStep, hs]
  exact .opened hcurrent hevents

/-- Another sitting at a store that is in step goes on with the open game. -/
theorem createOrLoad_of_inStep {g : Game} {s : Session} (h : g.InStep) (hs : g.session = some s)
    (other : Option Session) (currency : String) (words : List UInt32) :
    (Game.mk g.store other currency).createOrLoad words =
      some (⟨g.store, some (.replay s.name s.events currency), currency⟩,
        .ok ("Continuing game '" ++ s.name ++ "'.\n")) := by
  unfold InStep at h
  rw [hs] at h
  cases h with
  | opened hcurrent hevents =>
      simp only [createOrLoad, resume?, hcurrent, hevents, Option.bind_some, Option.map_some,
        Plan.run]

/-- **In step at every point**: after a sitting has begun and while no write fails, the store
points to the open game and keeps its log, and to none when none is open; and a fresh sitting at
the same store opens a game of the same name with the same log. -/
theorem store_in_step {g g' : Game} {words : List UInt32} {greeting : String}
    (hbegun : g.createOrLoad words = some (g', .ok greeting)) (lines : List String)
    (hmade : g'.store.AllMade (g'.play lines).store) :
    (match (g'.play lines).session with
      | some s =>
        (g'.play lines).store.index.current = some s.name ∧
          (g'.play lines).store.index.eventsOf s.name = some s.events
      | none => (g'.play lines).store.index.current = none) ∧
    ∀ s, (g'.play lines).session = some s → ∀ currency words',
      ∃ fresh reopened told,
        (Game.mk (g'.play lines).store none currency).createOrLoad words' =
            some (fresh, .ok told) ∧
          fresh.session = some reopened ∧ reopened.name = s.name ∧ reopened.events = s.events := by
  have hstep := (inStep_createOrLoad hbegun).play hmade
  refine ⟨?_, fun s hs currency words' => ?_⟩
  · unfold InStep at hstep
    generalize (g'.play lines).session = session at hstep ⊢
    cases hstep with
    | opened hcurrent hevents => exact ⟨hcurrent, hevents⟩
    | closed hcurrent => exact hcurrent
  · exact ⟨_, _, _, createOrLoad_of_inStep hstep hs none currency words', rfl,
      Session.name_replay .., Session.events_replay ..⟩

/-- A sitting that deletes the game in play, starts another one, plays it and takes that back. -/
theorem store_in_step_restarted :
    let store : Store :=
      ⟨⟨some "a", (∅ : Book GameRecord).insert "a" ⟨["next SR"], 0, 0⟩⟩, 0, fun _ => .made 7⟩
    let lines := ["delete a", "start b", "mikko buys 2 cr @10", "undo"]
    ∃ g, (Game.mk store none "$").createOrLoad [] = some (g, .ok "Continuing game 'a'.\n") ∧
      g.store.AllMade (g.play lines).store ∧ (g.play lines).session = some (.new "b" "$") ∧
      (g.play lines).store.index.current = some "b" ∧
      (g.play lines).store.index.eventsOf "b" = some [] := by
  intro store lines
  let g : Game := ⟨store, some (.replay "a" ["next SR"] "$"), "$"⟩
  have hbegun : (Game.mk store none "$").createOrLoad [] =
      some (g, .ok "Continuing game 'a'.\n") := rfl
  have hmade : g.store.AllMade (g.play lines).store := fun _ _ _ => ⟨7, rfl⟩
  have hopen : (g.play lines).session = some (.new "b" "$") := by decide +kernel
  have hlaw := (store_in_step hbegun lines hmade).1
  rw [hopen] at hlaw
  exact ⟨g, hbegun, hmade, hopen, hlaw⟩

end Game
end ShareLedger
