import ShareLedger.Plain
import ShareLedger.Proofs.InPlace
import ShareLedger.Proofs.Request
import ShareLedger.Screen.Interface
/-!
# Proofs.UpToDate

Behind a quiet reply nothing has changed, and so nothing that is shown is ever out of date.

1. A reply whose effect is not to refresh leaves the open session, all logs and the name of the game
   in play as they were (`Game.execute_unchanged`).
2. The status bar and the dashboard are brought up to date after replies that ask for it and at no
   other time.  Still the bar shows the open game in whatever state the screen is
   (`Interface.Reached.upToDate`), and what the dashboard was sent last is the open game, under the
   screen and under the line program (`Plain.upToDate_runLines`).
-/

namespace ShareLedger

/-! ## Quiet replies -/

/-- **Nothing changes behind a reply that does not ask for a refresh.** -/
theorem Request.Outcome.unchanged {index index' : GameIndex} {session session' : Option Session}
    {currency : String} {request : Request} {reply : Reply}
    (h : Outcome index session currency request index' session' (.ok reply))
    (hquiet : reply.effect ≠ .refresh) : session' = session ∧ index' = index := by
  cases h with
  | quiet _ _ => exact ⟨rfl, rfl⟩
  | kept _ _ _ hrefresh => exact absurd hrefresh hquiet
  | opened _ hrefresh => exact absurd hrefresh hquiet
  | started _ _ hrefresh => exact absurd hrefresh hquiet
  | deleted _ _ hrefresh => exact absurd hrefresh hquiet
  | closed _ _ hrefresh => exact absurd hrefresh hquiet

namespace Game

variable {g g' : Game} {line : String} {reply : Reply}

theorem execute_unchanged (hreply : g.execute line = (g', .ok reply))
    (hquiet : reply.effect ≠ .refresh) :
    g'.session = g.session ∧ g'.store.index = g.store.index := by
  have houtcome := g.outcome_execute line
  rw [hreply] at houtcome
  exact houtcome.unchanged hquiet

end Game

/-! ## The dashboard -/

namespace UpdateQueue

/-- What was sent last is the state of the open game, if a game is open. -/
def Mirrors (q : UpdateQueue) (session : Option Session) : Prop :=
  ∀ s ∈ session, q.waiting.getLast? = some (.ofSession s)

theorem mirrors_sendSession (q : UpdateQueue) (session : Option Session) :
    (q.sendSession session).Mirrors session := by
  rintro s ⟨⟩
  exact List.getLast?_concat

end UpdateQueue

/-! ## The screen -/

namespace Interface

/-- The states of a screen: it begins with a game and a greeting, it handles events, as long as
nothing fails, and it is drawn at any size in between. -/
inductive Reached : Game → Interface → UpdateQueue → Prop
  | begun (g : Game) (greeting : String) :
    Reached g ((ofGame g).greet greeting) (UpdateQueue.sendSession ⟨[]⟩ g.session)
  | handled {g g' : Game} {i i' : Interface} {q q' : UpdateQueue} {goesOn : Bool} (e : Event)
    (h : Reached g i q) (hevent : handle g i q e = (g', i', q', .ok goesOn)) : Reached g' i' q'
  | drawn {g : Game} {i i' : Interface} {q : UpdateQueue} {screen : Screen} {cursor : Nat × Nat}
    (width height : Nat) (h : Reached g i q)
    (hdrawn : i.draw? width height = some (i', screen, cursor)) : Reached g i' q

/-- The bar shows the open game, and so does the dashboard. -/
structure UpToDate (g : Game) (i : Interface) (q : UpdateQueue) : Prop where
  status : i.status = statusOf g.session
  mirror : q.Mirrors g.session

variable {g g' : Game} {i i' : Interface} {q q' : UpdateQueue} {goesOn : Bool}

/-- A line that is carried out leaves everything up to date. -/
theorem UpToDate.submit {line : String} (h : UpToDate g i q)
    (hline : submit g i q line = (g', i', q', .ok goesOn)) : UpToDate g' i' q' := by
  unfold Interface.submit at hline
  rcases hexecute : g.execute line with ⟨after, _ | reply⟩
  · rw [hexecute] at hline
    cases hline
  · rw [hexecute] at hline
    cases heffect : reply.effect with
    | refresh =>
        simp only [heffect] at hline
        cases hline
        exact ⟨rfl, q.mirrors_sendSession _⟩
    | quiet | quit =>
        obtain ⟨hsession, -⟩ := Game.execute_unchanged hexecute (by rw [heffect]; nofun)
        simp only [heffect] at hline
        cases hline
        exact ⟨hsession ▸ h.status, hsession ▸ h.mirror⟩

/-- An event that is handled leaves everything up to date. -/
theorem UpToDate.handle {e : Event} (h : UpToDate g i q)
    (hevent : handle g i q e = (g', i', q', .ok goesOn)) : UpToDate g' i' q' := by
  unfold Interface.handle at hevent
  split at hevent
  · cases hevent
    exact h
  · split at hevent
    · next scrollback hscroll =>
        cases hevent
        exact ⟨h.status, h.mirror⟩
    · split at hevent
      · next input line hinput =>
          have htyped : UpToDate g { i with input } q := ⟨h.status, h.mirror⟩
          exact htyped.submit hevent
      · next input result hother hinput =>
          cases hevent
          exact ⟨h.status, h.mirror⟩

/-- Drawing leaves the bar as it is. -/
theorem status_draw? {width height : Nat} {screen : Screen} {cursor : Nat × Nat}
    (h : i.draw? width height = some (i', screen, cursor)) : i'.status = i.status := by
  obtain ⟨line, -, hdrawn⟩ := Option.map_eq_some_iff.1 h
  cases hdrawn
  rfl

/-- **Whatever a screen does, it shows the open game as it is.** -/
theorem Reached.upToDate (h : Reached g i q) : UpToDate g i q := by
  induction h with
  | begun g greeting => exact ⟨rfl, UpdateQueue.mirrors_sendSession ⟨[]⟩ g.session⟩
  | handled e _ hevent ih => exact ih.handle hevent
  | drawn width height _ hdrawn ih => exact ⟨(status_draw? hdrawn).trans ih.status, ih.mirror⟩

end Interface

/-! ## The line program -/

namespace Plain

/-- A line that is carried out leaves the dashboard up to date. -/
theorem mirrors_step {g g' : Game} {q q' : UpdateQueue} {line feedback : String} {goesOn : Bool}
    (h : q.Mirrors g.session) (hstep : step g q line = (g', q', .ok (feedback, goesOn))) :
    q'.Mirrors g'.session := by
  unfold step at hstep
  rcases hexecute : g.execute line with ⟨after, _ | reply⟩
  · rw [hexecute] at hstep
    cases hstep
  · rw [hexecute] at hstep
    cases heffect : reply.effect with
    | refresh =>
        simp only [heffect] at hstep
        cases hstep
        exact q.mirrors_sendSession _
    | quiet | quit =>
        obtain ⟨hsession, -⟩ := Game.execute_unchanged hexecute (by rw [heffect]; nofun)
        simp only [heffect] at hstep
        cases hstep
        exact hsession ▸ h

section RunLines

variable {prompt line feedback : String} {g g' : Game} {q q' : UpdateQueue}
  {rest : List (Option String)}

-- Whether a line is blank, and what it comes to, are not looked into.
attribute [local irreducible] Text.allBlank step in
theorem runLines_cons :
    runLines prompt g q (some line :: rest) =
      if Text.allBlank line then (runLines prompt g q rest).after prompt
      else match step g q line with
        | (g, queue, .error e) => ⟨prompt, .error (.store e), queue, g⟩
        | (g, queue, .ok (feedback, true)) =>
          (runLines prompt g queue rest).after (prompt ++ feedback)
        | (g, queue, .ok (feedback, false)) => ⟨prompt ++ feedback, .ok (), queue, g⟩ := rfl

theorem runLines_blank (hblank : Text.allBlank line = true) :
    runLines prompt g q (some line :: rest) = (runLines prompt g q rest).after prompt := by
  rw [runLines_cons, if_pos hblank]

theorem runLines_failed {e : StoreError} (hblank : ¬ Text.allBlank line = true)
    (hstep : step g q line = (g', q', .error e)) :
    runLines prompt g q (some line :: rest) = ⟨prompt, .error (.store e), q', g'⟩ := by
  rw [runLines_cons, if_neg hblank, hstep]

theorem runLines_goesOn (hblank : ¬ Text.allBlank line = true)
    (hstep : step g q line = (g', q', .ok (feedback, true))) :
    runLines prompt g q (some line :: rest) =
      (runLines prompt g' q' rest).after (prompt ++ feedback) := by
  rw [runLines_cons, if_neg hblank, hstep]

theorem runLines_quit (hblank : ¬ Text.allBlank line = true)
    (hstep : step g q line = (g', q', .ok (feedback, false))) :
    runLines prompt g q (some line :: rest) = ⟨prompt ++ feedback, .ok (), q', g'⟩ := by
  rw [runLines_cons, if_neg hblank, hstep]

end RunLines

/-- A transcript leaves the dashboard up to date, unless it ended in a failure of the store. -/
def Transcript.UpToDate (t : Transcript) : Prop :=
  (∀ e, t.result ≠ .error (.store e)) → t.queue.Mirrors t.game.session

/-- However many lines are answered, the dashboard is up to date unless the store fails. -/
theorem upToDate_runLines {prompt : String} {g : Game} {q : UpdateQueue}
    {input : List (Option String)} (h : q.Mirrors g.session) :
    (runLines prompt g q input).UpToDate := by
  induction input generalizing g q with
  | nil => exact fun _ => h
  | cons line rest ih =>
      cases line with
      | none => exact fun _ => h
      | some line =>
          by_cases hblank : Text.allBlank line = true
          · rw [runLines_blank hblank]
            exact ih h
          · rcases hstep : step g q line with ⟨g', q', e | ⟨feedback, goesOn⟩⟩
            · rw [runLines_failed hblank hstep]
              exact fun hresult => absurd rfl (hresult e)
            · have hmirrors := mirrors_step h hstep
              cases goesOn with
              | false =>
                  rw [runLines_quit hblank hstep]
                  exact fun _ => hmirrors
              | true =>
                  rw [runLines_goesOn hblank hstep]
                  exact ih hmirrors

end Plain

/-- **Nothing changes behind a quiet reply.**  A line that is answered without a refresh leaves the
open session and the index as they were; a turn that is taken in place changes nothing when it is
refused, whatever action it is.  So whatever state a screen is in, its bar shows the open game, and
what the dashboard was sent last is the open game, under the screen and under the line program. -/
theorem quiet_replies_change_nothing :
    (∀ (g : Game) (line : String) (reply : Reply), (g.execute line).2 = .ok reply →
      reply.effect = .quiet ∨ reply.effect = .quit →
      (g.execute line).1.session = g.session ∧
        (g.execute line).1.store.index = g.store.index) ∧
    (∀ (s : Session) (t : Turn),
      (∀ e s', Session.attemptInPlace t s = .error e s' → s.attempt t = .error e ∧ s' = s) ∧
      ∀ report s', Session.attemptInPlace t s = .ok report s' → s.attempt t = .ok (s', report)) ∧
    (∀ (g : Game) (i : Interface) (q : UpdateQueue), Interface.Reached g i q →
      i.status = Interface.statusOf g.session ∧
        ∀ s ∈ g.session, q.waiting.getLast? = some (.ofSession s)) ∧
    ∀ (g : Game) (greeting : String) (prompt : Option String) (input : List (Option String)),
      (∀ e, (Plain.run g greeting prompt input).result ≠ .error (.store e)) →
        ∀ s ∈ (Plain.run g greeting prompt input).game.session,
          (Plain.run g greeting prompt input).queue.waiting.getLast? = some (.ofSession s) := by
  refine ⟨fun g line reply hreply heffect => ?_, fun s t => ?_, fun g i q hreached => ?_,
    fun g greeting prompt input hresult => ?_⟩
  · have hquiet : reply.effect ≠ .refresh := by
      obtain heffect | heffect := heffect <;> rw [heffect] <;> nofun
    rcases hexecute : g.execute line with ⟨g', result⟩
    rw [hexecute] at hreply
    obtain rfl : result = .ok reply := hreply
    exact Game.execute_unchanged hexecute hquiet
  · exact ⟨fun e s' h => InPlace.refused (s.attemptInPlace_eq t ▸ h),
      fun report s' h => InPlace.accepted (s.attemptInPlace_eq t ▸ h)⟩
  · obtain ⟨hstatus, hmirror⟩ := hreached.upToDate
    exact ⟨hstatus, hmirror⟩
  · have hbegun : (UpdateQueue.sendSession ⟨[]⟩ g.session).Mirrors g.session :=
      UpdateQueue.mirrors_sendSession _ _
    exact Plain.upToDate_runLines hbegun hresult

/-- A line that is refused, a gift of no amount, which no line reads as, and a payment under the
screen and under the line program. -/
theorem quiet_replies_change_nothing_refused :
    let s : Session := .replay "a" ["next SR"] "$"
    let g : Game :=
      ⟨⟨⟨some "a", (∅ : Book GameRecord).insert "a" ⟨["next SR"], 0, 0⟩⟩, 0, fun _ => .made 7⟩,
        some s, "$"⟩
    let gift : Turn := .act ⟨some .give, some "MIKKO", some "GT", none, 0, none, none⟩
    let typed := Interface.handle g ((Interface.ofGame g).greet "")
      (UpdateQueue.sendSession ⟨[]⟩ g.session) (.paste "mikko cash 5")
    let sent := Interface.handle typed.1 typed.2.1 typed.2.2.1 .submit
    let run := Plain.run g "" none [some "next XY", none, some "bank"]
    (g.execute "next XY").1.session = some s ∧
      (∃ s', Session.attemptInPlace gift s = .error (.notANumber "amount") s' ∧ s' = s) ∧
      sent.2.1.status = Interface.statusOf sent.1.session ∧
      run.queue.waiting.getLast? = some (.ofSession s) := by
  intro s g gift typed sent run
  obtain ⟨hline, hturn, hscreen, hrun⟩ := quiet_replies_change_nothing
  have hbegun := Interface.Reached.begun g ""
  have hpasted : typed = (typed.1, typed.2.1, typed.2.2.1, .ok true) := rfl
  have hpaid : sent.2.2.2 = .ok true := by decide +kernel
  have hsubmitted : sent = (sent.1, sent.2.1, sent.2.2.1, .ok true) := by rw [← hpaid]
  have hsent := (hbegun.handled _ hpasted).handled _ hsubmitted
  have hopen : g.session = run.game.session := by decide +kernel
  refine ⟨?_, ⟨_, rfl, ?_⟩, (hscreen _ _ _ hsent).1, ?_⟩
  · have hrefused : (g.execute "next XY").2 =
        .ok ⟨(Refusal.unknownRound "XY").message ++ "\n", .quiet⟩ := by decide +kernel
    exact (hline g "next XY" _ hrefused (.inl rfl)).1
  · exact ((hturn s gift).1 _ _ rfl).2
  · have hended : run.result = .error .notText := by decide +kernel
    exact hrun g "" none _ (fun e h => nomatch hended.symm.trans h) s hopen.symm

end ShareLedger
