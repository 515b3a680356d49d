import ShareLedger.Proofs.Log
import ShareLedger.Proofs.Operation
/-!
# Proofs.Undo

Taking back is the inverse of carrying out.

1. An action that is carried out has an entry, which is the one that its log gains
   (`Session.events_perform`).
2. Taking back does not look at what the ledger has become: it replays the entries before.  So from
   a replayed session, carrying out any actions and taking back as many leads to that very session,
   whatever the actions and the entries of its log are (`Session.undoAll_performAll`).
3. In any order of carrying out and taking back, the ledger after a taking back is that of the
   entries that are left (`Session.undo_exact_inverse`).
-/

namespace ShareLedger

/-- What is carried out is logged. -/
theorem Operation.isLogged_of_verb {op : Operation} {verb : Verb} (h : op.verb = some verb) :
    verb.isLogged := by
  cases op <;> cases h <;> rfl

/-- An action that is accepted has a log entry, also one that no line is read as. -/
theorem Action.exists_entry_of_apply {l : Ledger} {log : List String} {a : Action} {p : Posting}
    (h : l.apply log a = .ok p) : ∃ e, a.entry = some e := by
  obtain ⟨op, hop, -⟩ := Ledger.exists_operation_of_apply h
  have hverb := verb_eq_of_operation hop
  unfold entry
  cases ha : a.verb with
  | none =>
      rw [Ledger.apply, ha] at h
      cases h
  | some verb =>
      have hlogged := Operation.isLogged_of_verb (hverb.symm.trans ha)
      dsimp only
      rw [if_pos hlogged]
      exact ⟨_, rfl⟩

/-! ## Turns -/

/-- What can be done with a session: an action is asked for, or the last entry is taken back. -/
inductive Turn where
  | act (a : Action)
  | undo
deriving DecidableEq

namespace Session

/-- Takes a turn; the answer is the session after it and its report, or the entry that it took
back. -/
def attempt (s : Session) : Turn → Except Refusal (Session × String)
  | .act a => s.perform a
  | .undo => s.undo

/-- The session after a turn; what is refused changes nothing. -/
def turn (s : Session) (t : Turn) : Session :=
  match s.attempt t with
  | .ok (s', _) => s'
  | .error _ => s

/-- The session after turns in order. -/
def turnAll (s : Session) (ts : List Turn) : Session := ts.foldl turn s

/-- Carries out actions in order, all of which must be accepted. -/
def performAll (s : Session) : List Action → Except Refusal Session
  | [] => .ok s
  | a :: as =>
    match s.perform a with
    | .ok (s', _) => s'.performAll as
    | .error e => .error e

/-- Takes back `n` entries; the answer is the session without them and the entries in the order in
which they were taken back. -/
def undoAll (s : Session) : Nat → Except Refusal (Session × List String)
  | 0 => .ok (s, [])
  | n + 1 =>
    match s.undo with
    | .ok (s', entry) => (s'.undoAll n).map fun (s'', entries) => (s'', entry :: entries)
    | .error e => .error e

variable {s s' : Session} {a : Action} {report entry : String}

theorem name_attempt {t : Turn} (h : s.attempt t = .ok (s', report)) :
    s'.name = s.name ∧ s'.currency = s.currency := by
  cases t with
  | act a => exact name_perform h
  | undo => exact name_undo h

theorem name_turn (s : Session) (t : Turn) :
    (s.turn t).name = s.name ∧ (s.turn t).currency = s.currency := by
  unfold turn
  cases hs : s.attempt t with
  | error e => exact ⟨rfl, rfl⟩
  | ok result => exact name_attempt hs

theorem name_turnAll (s : Session) (ts : List Turn) :
    (s.turnAll ts).name = s.name ∧ (s.turnAll ts).currency = s.currency := by
  induction ts generalizing s with
  | nil => exact ⟨rfl, rfl⟩
  | cons t ts ih =>
      obtain ⟨hname, hcurrency⟩ := ih (s.turn t)
      exact ⟨hname.trans (s.name_turn t).1, hcurrency.trans (s.name_turn t).2⟩

/-! ## Carrying out -/

/-- An action that is carried out adds exactly its entry to the log. -/
theorem events_perform (h : s.perform a = .ok (s', report)) :
    ∃ e, a.entry = some e ∧ s'.events = s.events ++ [e] := by
  obtain ⟨p, happly, -, rfl⟩ := perform_eq_ok.1 h
  obtain ⟨e, he⟩ := Action.exists_entry_of_apply happly
  refine ⟨e, he, ?_⟩
  rw [he]
  rfl

/-- Actions that are carried out add their entries in order. -/
theorem events_performAll {as : List Action} (h : s.performAll as = .ok s') :
    s'.name = s.name ∧ s'.currency = s.currency ∧
      ∃ entries, as.map (·.entry) = entries.map some ∧ s'.events = s.events ++ entries := by
  induction as generalizing s with
  | nil =>
      obtain rfl := Except.ok.inj h
      exact ⟨rfl, rfl, [], rfl, (List.append_nil _).symm⟩
  | cons a as ih =>
      simp only [performAll] at h
      cases hs : s.perform a with
      | error e =>
          rw [hs] at h
          cases h
      | ok result =>
          obtain ⟨next, report⟩ := result
          rw [hs] at h
          obtain ⟨hname, hcurrency⟩ := name_perform hs
          obtain ⟨e, he, hevents⟩ := events_perform hs
          obtain ⟨hname', hcurrency', entries, hentries, hevents'⟩ := ih h
          refine ⟨hname'.trans hname, hcurrency'.trans hcurrency, e :: entries, ?_, ?_⟩
          · rw [List.map_cons, List.map_cons, he, hentries]
          · rw [hevents', hevents, List.append_assoc, List.singleton_append]

/-! ## Taking back -/

theorem undo_concat {earlier : List String} (h : s.events = earlier ++ [entry]) :
    s.undo = .ok (replay s.name earlier s.currency, entry) :=
  undo_eq_ok.2 ⟨earlier, h, rfl⟩

/-- Taking back entries gives the session of the entries before them. -/
theorem undoAll_append {start entries : List String} (h : s.events = start ++ entries)
    (hne : entries ≠ []) :
    s.undoAll entries.length = .ok (replay s.name start s.currency, entries.reverse) := by
  induction entries using List.reverseRecOn generalizing s with
  | nil => exact absurd rfl hne
  | append_singleton entries last ih =>
      rw [← List.append_assoc] at h
      rw [List.length_append, List.length_singleton, undoAll, undo_concat h, List.reverse_append]
      dsimp only
      by_cases hnil : entries = []
      · subst hnil
        rw [List.append_nil]
        rfl
      · rw [ih (events_replay ..) hnil, name_replay, currency_replay]
        rfl

/-- From a replayed session, carrying out actions and taking back as many leads to that session. -/
theorem undoAll_performAll {name currency : String} {start : List String} {as : List Action}
    (h : (replay name start currency).performAll as = .ok s) :
    ∃ entries, as.map (·.entry) = entries.map some ∧ s.events = start ++ entries ∧
      s.undoAll as.length = .ok (replay name start currency, entries.reverse) := by
  obtain ⟨hname, hcurrency, entries, hentries, hevents⟩ := events_performAll h
  rw [name_replay] at hname
  rw [currency_replay] at hcurrency
  rw [events_replay] at hevents
  refine ⟨entries, hentries, hevents, ?_⟩
  have hlength : as.length = entries.length := by
    simpa using congrArg List.length hentries
  by_cases hnil : entries = []
  · -- Nothing was carried out, so that the session is the replayed one.
    obtain rfl := hnil
    obtain rfl := List.length_eq_zero_iff.1 hlength
    obtain rfl := Except.ok.inj h
    rfl
  · rw [hlength, undoAll_append hevents hnil, hname, hcurrency]

/-- Nothing is taken back from an empty log. -/
theorem undo_of_events_eq_nil (h : s.events = []) :
    s.undo = .error .nothingToUndo ∧ s.turn .undo = s := by
  have hundo : s.undo = .error .nothingToUndo := by
    simp only [undo, h, List.getLast?_nil]
  simp only [turn, attempt, hundo, and_self]

/-- **Taking back is the exact inverse of carrying out**: from the session of any log, actions that
are carried out add one entry each, and as many takings back give their entries in reverse and lead
to the session that it was.  After any turns a taking back leads to the session of the entries that
are left, and one that finds no entry changes nothing. -/
theorem undo_exact_inverse (name currency : String) (start : List String) :
    let s₀ := replay name start currency
    (∀ as s, s₀.performAll as = .ok s →
      ∃ entries, as.map (·.entry) = entries.map some ∧ s.events = start ++ entries ∧
        s.undoAll as.length = .ok (s₀, entries.reverse)) ∧
    ∀ turns,
      let s := s₀.turnAll turns
      (∀ a s' report, s.perform a = .ok (s', report) →
        ∃ e, a.entry = some e ∧ s'.events = s.events ++ [e]) ∧
      (∀ s' entry, s.undo = .ok (s', entry) →
        s.events = s'.events ++ [entry] ∧ s' = replay name s'.events currency) ∧
      (s.events = [] → s.undo = .error .nothingToUndo ∧ s.turn .undo = s) := by
  intro s₀
  refine ⟨fun as s => undoAll_performAll, fun turns => ?_⟩
  intro s
  obtain ⟨hname, hcurrency⟩ := s₀.name_turnAll turns
  refine ⟨fun a s' report => events_perform, fun s' entry hundo => ?_, undo_of_events_eq_nil⟩
  obtain ⟨earlier, hevents, rfl⟩ := undo_eq_ok.1 hundo
  rw [events_replay]
  refine ⟨hevents, ?_⟩
  rw [hname, hcurrency, name_replay, currency_replay]

/-- Three actions are taken back one after another, behind an entry that is read as nothing. -/
theorem undo_exact_inverse_prev :
    let s₀ := replay "test" ["cr float 100", "no such command", "cr dividend 10"] "$"
    let as := [Action.read "cr pays prev # again", Action.read "mikko sells 3 cr @5",
      Action.read "close cr"]
    ∃ s, s₀.performAll as = .ok s ∧
      s.undoAll 3 =
        .ok (s₀, ["close CR", "MIKKO sell 3 CR @5", "CR dividend PREV # again"]) ∧
      (s₀.turnAll [.undo, .undo, .undo]).turn .undo = replay "test" [] "$" := by
  intro s₀ as
  obtain ⟨hall, hturns⟩ := undo_exact_inverse "test" "$"
    ["cr float 100", "no such command", "cr dividend 10"]
  obtain ⟨s, hs⟩ : ∃ s, s₀.performAll as = .ok s := ⟨_, rfl⟩
  obtain ⟨entries, hentries, -, hundo⟩ := hall as s hs
  have hlogged : as.map (·.entry) =
      ["CR dividend PREV # again", "MIKKO sell 3 CR @5", "close CR"].map some := by
    decide +kernel
  obtain rfl := (List.map_inj_right fun _ _ => Option.some.inj).1 (hentries.symm.trans hlogged)
  have hempty : s₀.turnAll [.undo, .undo, .undo] = replay "test" [] "$" := by decide +kernel
  have hlast := (hturns [.undo, .undo, .undo]).2.2 (by rw [hempty]; rfl)
  exact ⟨s, hs, hundo, hlast.2.trans hempty⟩

end Session
end ShareLedger
