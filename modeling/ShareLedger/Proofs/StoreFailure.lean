import ShareLedger.Proofs.Sitting
/-!
# Proofs.StoreFailure

What failing writes leave behind.

1. The store points to a game that it has, if to any, and it has the open game (`Game.Sound`).  Each
   of the cases that a line can come to keeps this, those in which a write fails included; so it
   holds however long a sitting goes on (`Game.Sound.play`).
2. A line of which a write fails leaves the index as it was, except that one that starts a game may
   have added it without a log, and one that deletes a game may have dropped it
   (`Request.Failed`).
3. A turn that is answered as taken has the whole log of the session kept, so that it makes good
   for turns before it that were not kept (`Game.store_failures`).
-/

namespace ShareLedger

/-! ## A game more or less -/

namespace GameIndex

/-- The second index has one game more, whose log is empty; nothing else is different. -/
structure Gains (before : GameIndex) (name : String) (after : GameIndex) : Prop where
  absent : before.has name = false
  log : after.eventsOf name = some []
  others : ∀ other, other ≠ name → after.games.get? other = before.games.get? other
  current : after.current = before.current

/-- The second index has one game less and does not point to it; nothing else is different. -/
structure Loses (before : GameIndex) (name : String) (after : GameIndex) : Prop where
  present : before.has name = true
  absent : after.has name = false
  others : ∀ other, other ≠ name → after.games.get? other = before.games.get? other
  current : after.current = if before.current = some name then none else before.current

theorem gains_save {i : GameIndex} {name : String} (now : Amount) (hnew : i.has name = false) :
    i.Gains name (i.save now name []) where
  absent := hnew
  log := eventsOf_save i now name []
  others _ hother := i.get?_save_of_ne now [] hother
  current := rfl

theorem loses_delete {i : GameIndex} {name : String} (hold : i.has name = true) :
    i.Loses name (i.delete name) where
  present := hold
  absent := by simp [has_delete]
  others _ hother := i.get?_delete_of_ne hother
  current := rfl

end GameIndex

/-! ## Lines of which a write fails -/

namespace Request

/-- What a request of which a write fails does to the index. -/
def Failed (request : Request) (before after : GameIndex) : Prop :=
  match request with
  | .question => False
  | .turn _ => after = before
  | .openGame _ => after = before
  | .startGame name => after = before ∨ before.Gains name after
  | .deleteGame name => after = before ∨ before.Loses name after

namespace Outcome

variable {index index' : GameIndex} {session session' : Option Session} {currency : String}
  {request : Request} {result : Except StoreError Reply}

theorem failed {e : StoreError}
    (h : Outcome index session currency request index' session' (.error e)) :
    request.Failed index index' := by
  cases h with
  | unkept _ _ => exact rfl
  | unpointed _ => exact rfl
  | unstarted _ => exact .inl rfl
  | halfStarted now hnew => exact .inr (GameIndex.gains_save now hnew)
  | undeleted _ => exact .inl rfl
  | halfClosed _ hold => exact .inr (GameIndex.loses_delete hold)

/-- A turn that is answered was refused and has changed nothing, or it was taken and the whole log
of the session is kept. -/
theorem turn_answered {t : Turn} {reply : Reply}
    (h : Outcome index session currency (.turn t) index' session' (.ok reply)) :
    ((∀ s ∈ session, ∃ e, s.attempt t = .error e) ∧ index' = index ∧ session' = session) ∨
      ∃ s s' report, session = some s ∧ s.attempt t = .ok (s', report) ∧ session' = some s' ∧
        index'.eventsOf s'.name = some s'.events := by
  cases h with
  | quiet hrefused _ => exact .inl ⟨hrefused, rfl, rfl⟩
  | kept now hs hturn _ =>
      exact .inr ⟨_, _, _, hs, hturn, rfl, GameIndex.eventsOf_save index now _ _⟩

/-- Only starting a game makes it. -/
theorem has_of_has {name : String}
    (h : Outcome index session currency request index' session' result)
    (hopened : ∀ s ∈ session, index.has s.name = true) (hafter : index'.has name = true) :
    index.has name = true ∨ request = .startGame name := by
  cases h with
  | quiet _ _ => exact .inl hafter
  | kept now hs hturn _ =>
      rw [GameIndex.has_save, (Session.name_attempt hturn).1] at hafter
      obtain hname | hkept := Bool.or_eq_true_iff.1 hafter
      · exact .inl (of_decide_eq_true hname ▸ hopened _ hs)
      · exact .inl hkept
  | unkept _ _ => exact .inl hafter
  | opened _ _ => exact .inl hafter
  | unpointed _ => exact .inl hafter
  | started now _ _ | halfStarted now _ =>
      simp only [GameIndex.has_point, GameIndex.has_save, Bool.or_eq_true,
        decide_eq_true_eq] at hafter
      obtain rfl | hkept := hafter
      · exact .inr rfl
      · exact .inl hkept
  | unstarted _ => exact .inl hafter
  | deleted _ _ _ | closed _ _ _ | halfClosed _ _ =>
      simp only [GameIndex.has_point, GameIndex.has_delete, Bool.and_eq_true] at hafter
      exact .inl hafter.2
  | undeleted _ => exact .inl hafter

end Outcome
end Request

/-! ## What every line keeps -/

namespace Game

/-- The store has the game that it points to and the one that is open. -/
structure Sound (index : GameIndex) (session : Option Session) : Prop where
  pointer : ∀ name ∈ index.current, index.has name = true
  opened : ∀ s ∈ session, index.has s.name = true

variable {index index' : GameIndex} {session session' : Option Session}

/-- Keeping a log loses no game. -/
theorem Sound.save (h : Sound index session) (now : Amount) (name : String)
    (events : List String) : Sound (index.save now name events) session where
  pointer other hother := by
    rw [GameIndex.has_save, h.pointer other hother, Bool.or_true]
  opened s hs := by
    rw [GameIndex.has_save, h.opened s hs, Bool.or_true]

/-- Deleting a game that is not open. -/
theorem Sound.delete (h : Sound index session) {name : String}
    (hother : ∀ s ∈ session, s.name ≠ name) : Sound (index.delete name) session where
  pointer other hpointer := by
    simp only [GameIndex.delete, Option.mem_def] at hpointer
    split at hpointer
    · cases hpointer
    · next hcurrent =>
        have hne : other ≠ name := by
          rintro rfl
          exact hcurrent hpointer
        simp [GameIndex.has_delete, hne, h.pointer other hpointer]
  opened s hs := by
    simp [GameIndex.has_delete, hother s hs, h.opened s hs]

/-- Opening a game that the store has, which is pointed to or not. -/
theorem Sound.open (h : Sound index session) {s : Session} (hs : index.has s.name = true) :
    Sound index (some s) where
  pointer := h.pointer
  opened s' hs' := by
    obtain rfl := Option.some.inj hs'
    exact hs

theorem Sound.point (h : Sound index session) {name : Option String}
    (hname : ∀ other ∈ name, index.has other = true) : Sound (index.point name) session where
  pointer := hname
  opened := h.opened

/-- A game that is begun. -/
theorem Sound.begun (h : Sound index session) (now : Amount) (name currency : String) :
    Sound ((index.save now name []).point (some name)) (some (.new name currency)) := by
  have hname : (index.save now name []).has name = true := by simp [GameIndex.has_save]
  refine ((h.save now name []).point ?_).open hname
  rintro other ⟨⟩
  exact hname

theorem sound_none (hpointer : ∀ name ∈ index.current, index.has name = true) :
    Sound index none :=
  ⟨hpointer, fun s hs => absurd hs (Option.not_mem_none s)⟩

/-- Deleting a game that is open and is closed thereby. -/
theorem Sound.close (h : Sound index session) (name : String) : Sound (index.delete name) none :=
  (sound_none h.pointer).delete fun s hs => absurd hs (Option.not_mem_none s)

/-- **Every line keeps this**, whatever becomes of its writes. -/
theorem Sound.outcome {currency : String} {request : Request} {result : Except StoreError Reply}
    (h : Sound index session)
    (houtcome : Request.Outcome index session currency request index' session' result) :
    Sound index' session' := by
  cases houtcome with
  | quiet _ _ => exact h
  | kept now hs hturn _ =>
      refine (h.save now _ _).open ?_
      simp [GameIndex.has_save]
  | unkept hs hturn =>
      refine h.open ?_
      rw [(Session.name_attempt hturn).1]
      exact h.opened _ hs
  | opened hevents _ =>
      have hname := GameIndex.has_of_eventsOf hevents
      refine (h.point ?_).open ?_
      · rintro other ⟨⟩
        exact hname
      · rw [Session.name_replay]
        exact hname
  | unpointed hevents =>
      refine h.open ?_
      rw [Session.name_replay]
      exact GameIndex.has_of_eventsOf hevents
  | started now _ _ => exact h.begun now _ _
  | unstarted _ => exact h
  | halfStarted now _ => exact h.save now _ []
  | deleted _ hother _ => exact h.delete hother
  | undeleted _ => exact h
  | @closed s _ _ _ _ =>
      exact (h.close s.name).point fun other hother => absurd hother (Option.not_mem_none other)
  | halfClosed _ _ => exact h.close _

theorem Sound.execute {g : Game} (h : Sound g.store.index g.session) (line : String) :
    Sound (g.execute line).1.store.index (g.execute line).1.session :=
  h.outcome (g.outcome_execute line)

theorem Sound.play {g : Game} (h : Sound g.store.index g.session) (lines : List String) :
    Sound (g.play lines).store.index (g.play lines).session := by
  induction lines generalizing g with
  | nil => exact h
  | cons line lines ih =>
      rw [play_cons]
      exact ih (h.execute line)

/-- A game that the store does not have stays away until a line starts it. -/
theorem Sound.absent_play {g : Game} {name : String} {lines : List String}
    (h : Sound g.store.index g.session) (habsent : g.store.index.has name = false)
    (hlines : ∀ line ∈ lines, Request.read line ≠ .startGame name) :
    (g.play lines).store.index.has name = false := by
  induction lines generalizing g with
  | nil => exact habsent
  | cons line lines ih =>
      rw [List.forall_mem_cons] at hlines
      rw [play_cons]
      have hsound := h.execute line
      have houtcome := g.outcome_execute line
      generalize g.execute line = result at hsound houtcome ⊢
      refine ih hsound ?_ hlines.2
      rw [← Bool.not_eq_true]
      intro hafter
      obtain hbefore | hstart := houtcome.has_of_has h.opened hafter
      · rw [habsent] at hbefore
        cases hbefore
      · exact hlines.1 hstart

/-! ## Sittings at a store that fails -/

/-- A sitting at a store: no game is open yet, or the game in play was gone on with or a new one
begun, which may have failed. -/
inductive Begins (store : Store) : Game → Prop
  | fresh (currency : String) : Begins store ⟨store, none, currency⟩
  | resumed {currency : String} {words : List UInt32} {g : Game} {result : Except StoreError String}
    (h : (Game.mk store none currency).createOrLoad words = some (g, result)) : Begins store g

/-- What a sitting begins with is sound, also when its first writes fail. -/
theorem Begins.sound {store : Store} {g : Game} (h : Begins store g)
    (hpointer : ∀ name ∈ store.index.current, store.index.has name = true) :
    Sound g.store.index g.session := by
  have hfresh : Sound store.index none := sound_none hpointer
  cases h with
  | fresh currency => exact hfresh
  | resumed h =>
      have hbeginning := beginning_createOrLoad h
      generalize g.store.index = index, g.session = session at hbeginning ⊢
      cases hbeginning with
      | resumed _ hevents =>
          refine hfresh.open ?_
          rw [Session.name_replay]
          exact GameIndex.has_of_eventsOf hevents
      | @begun name _ now _ _ => exact hfresh.begun now name _
      | unbegun _ => exact hfresh
      | halfBegun now _ _ => exact hfresh.save now _ []

/-- **Failing writes never corrupt the store.**  Whichever writes of a sitting fail, at every point
the store has the game that it points to and the one that is open, and no game comes back without
being started.  A line that fails does to the index no more than `Request.Failed` says; a turn that
is answered was refused, or the whole log of the session is kept. -/
theorem store_failures {store : Store} {g : Game}
    (hpointer : ∀ name ∈ store.index.current, store.index.has name = true)
    (hbegins : Begins store g) (lines : List String) :
    let before := g.play lines
    ((∀ name ∈ before.store.index.current, before.store.index.has name = true) ∧
      ∀ s ∈ before.session, before.store.index.has s.name = true) ∧
    (∀ name later, before.store.index.has name = false →
      (∀ line ∈ later, Request.read line ≠ .startGame name) →
      (before.play later).store.index.has name = false) ∧
    (∀ line e, (before.execute line).2 = .error e →
      (Request.read line).Failed before.store.index (before.execute line).1.store.index) ∧
    ∀ line t reply, Request.read line = .turn t → (before.execute line).2 = .ok reply →
      let after := (before.execute line).1
      ((∀ s ∈ before.session, ∃ e, s.attempt t = .error e) ∧
        after.store.index = before.store.index ∧ after.session = before.session) ∨
      ∃ s s' report, before.session = some s ∧ s.attempt t = .ok (s', report) ∧
        after.session = some s' ∧ after.store.index.eventsOf s'.name = some s'.events := by
  intro before
  have hsound : Sound before.store.index before.session := (hbegins.sound hpointer).play lines
  refine ⟨⟨hsound.pointer, hsound.opened⟩, ?_, fun line e hresult => ?_, ?_⟩
  · intro name later habsent hlines
    exact hsound.absent_play habsent hlines
  · have houtcome := before.outcome_execute line
    -- Neither the reading nor the carrying out of the line plays a part from here on.
    generalize before.execute line = result at hresult houtcome ⊢
    generalize Request.read line = request at houtcome ⊢
    rw [hresult] at houtcome
    exact houtcome.failed
  · intro line t reply ht hresult
    have houtcome := before.outcome_execute line
    generalize before.execute line = result at hresult houtcome ⊢
    rw [ht, hresult] at houtcome
    exact houtcome.turn_answered

/-- A command that is not kept, a game that is started without becoming the one in play, and a
command after which the log of the first game is whole again. -/
theorem store_failures_resumed :
    let store : Store :=
      ⟨⟨some "a", (∅ : Book GameRecord).insert "a" ⟨["next SR"], 0, 0⟩⟩, 0,
        fun k => if k = 0 ∨ k = 2 then .failed "disk full" else .made 7⟩
    ∃ g, (Game.mk store none "$").createOrLoad [] = some (g, .ok "Continuing game 'a'.\n") ∧
      let unkept := g.play ["mikko cash 5"]
      let begun := g.play ["mikko cash 5", "start b"]
      unkept.store.index = store.index ∧ unkept.store.index.Gains "b" begun.store.index ∧
        (begun.execute "mikko cash 7").1.store.index.eventsOf "a" =
          some ["next SR", "MIKKO cash 5", "MIKKO cash 7"] := by
  intro store
  let g : Game := ⟨store, some (.replay "a" ["next SR"] "$"), "$"⟩
  have hbegun : (Game.mk store none "$").createOrLoad [] =
      some (g, .ok "Continuing game 'a'.\n") := rfl
  have hpointer : ∀ name ∈ store.index.current, store.index.has name = true := by
    rintro name ⟨⟩
    rfl
  obtain ⟨-, -, hfailed, -⟩ := store_failures hpointer (.resumed hbegun) ["mikko cash 5"]
  obtain ⟨-, -, -, hkept⟩ := store_failures hpointer (.resumed hbegun) ["mikko cash 5", "start b"]
  have hrequest : Request.read "start b" = .startGame "b" := by decide +kernel
  have hstart := hfailed "start b" (.io "disk full") (by decide +kernel)
  rw [hrequest] at hstart
  -- The command after it is taken, so that the whole log is kept.
  let begun := g.play ["mikko cash 5", "start b"]
  have hanswered : (begun.execute "mikko cash 7").2 =
      .ok ⟨"MIKKO now has $12.\n", .refresh⟩ := by
    decide +kernel
  have hchanged : (begun.execute "mikko cash 7").1.store.index ≠ begun.store.index := by
    decide +kernel
  have hlog : (begun.execute "mikko cash 7").1.session.map (fun s => (s.name, s.events)) =
      some ("a", ["next SR", "MIKKO cash 5", "MIKKO cash 7"]) := by
    decide +kernel
  obtain ⟨s, s', report, -, -, hsession, hevents⟩ :=
    (hkept "mikko cash 7" (.act (Action.read "mikko cash 7")) _ (by decide +kernel)
      hanswered).resolve_left fun h => hchanged h.2.1
  rw [hsession] at hlog
  obtain ⟨hname, hwhole⟩ := Prod.mk.inj (Option.some.inj hlog)
  rw [hname, hwhole] at hevents
  exact ⟨g, hbegun, by decide +kernel, hstart.resolve_left (by decide +kernel), hevents⟩

end Game
end ShareLedger
