import Mathlib.Data.List.Induction
import ShareLedger.Session
/-!
# Proofs.Log

What replaying, carrying out and taking back do to the name, the log and the currency of a session.

1. The session of a log has that log and the name and currency that it was replayed with, whatever
   its entries say (`Session.events_replay`).
2. The session of a longer log is one more replayed entry (`Session.replay_concat`).
3. Carrying out an action appends its entry to the log (`Session.perform_eq_ok`), taking back drops
   the last one (`Session.undo_eq_ok`).  Neither changes the name or the currency.
-/

namespace ShareLedger.Session

/-! ## Replaying -/

/-- One more entry is replayed on the session of the entries before it. -/
theorem replay_concat (name : String) (events : List String) (entry currency : String) :
    replay name (events ++ [entry]) currency = (replay name events currency).replayEntry entry := by
  unfold replay
  rw [List.foldl_append]
  rfl

@[simp] theorem name_replay (name : String) (events : List String) (currency : String) :
    (replay name events currency).name = name := by
  induction events using List.reverseRecOn with
  | nil => rfl
  | append_singleton events entry ih => rw [replay_concat]; exact ih

@[simp] theorem currency_replay (name : String) (events : List String) (currency : String) :
    (replay name events currency).currency = currency := by
  induction events using List.reverseRecOn with
  | nil => rfl
  | append_singleton events entry ih => rw [replay_concat]; exact ih

/-- The session of a log has that log. -/
@[simp] theorem events_replay (name : String) (events : List String) (currency : String) :
    (replay name events currency).events = events := by
  induction events using List.reverseRecOn with
  | nil => rfl
  | append_singleton events entry ih =>
      rw [replay_concat]
      exact congrArg (· ++ [entry]) ih

/-! ## Carrying out and taking back -/

/-- An action is carried out when the ledger accepts it; then its entry is appended. -/
theorem perform_eq_ok {s s' : Session} {a : Action} {report : String} :
    s.perform a = .ok (s', report) ↔
      ∃ p, s.ledger.apply s.events a = .ok p ∧ report = p.text ∧
        s' = { s with events := s.events ++ a.entry.toList, ledger := p.ledger } := by
  unfold perform
  cases s.ledger.apply s.events a with
  | error e => simp
  | ok p =>
      simp only [Except.ok.injEq, Prod.mk.injEq, exists_eq_left']
      exact ⟨fun ⟨hs, hr⟩ => ⟨hr.symm, hs.symm⟩, fun ⟨hr, hs⟩ => ⟨hs.symm, hr.symm⟩⟩

/-- Taking back gives the session of the log without its last entry. -/
theorem undo_eq_ok {s s' : Session} {entry : String} :
    s.undo = .ok (s', entry) ↔
      ∃ earlier, s.events = earlier ++ [entry] ∧ s' = replay s.name earlier s.currency := by
  unfold undo
  cases hlast : s.events.getLast? with
  | none =>
      rw [List.getLast?_eq_none_iff.1 hlast]
      simp
  | some last =>
      obtain ⟨earlier, hevents⟩ := List.getLast?_eq_some_iff.1 hlast
      simp only [hevents, List.dropLast_concat, Except.ok.injEq, Prod.mk.injEq]
      constructor
      · rintro ⟨rfl, rfl⟩
        exact ⟨earlier, rfl, rfl⟩
      · rintro ⟨earlier', heq, rfl⟩
        obtain ⟨rfl, hsame⟩ := List.append_inj' heq rfl
        exact ⟨rfl, List.singleton_inj.1 hsame⟩

/-- Carrying out an action leaves the name and the currency. -/
theorem name_perform {s s' : Session} {a : Action} {report : String}
    (h : s.perform a = .ok (s', report)) : s'.name = s.name ∧ s'.currency = s.currency := by
  obtain ⟨p, -, -, rfl⟩ := perform_eq_ok.1 h
  exact ⟨rfl, rfl⟩

/-- Taking back leaves the name and the currency. -/
theorem name_undo {s s' : Session} {entry : String} (h : s.undo = .ok (s', entry)) :
    s'.name = s.name ∧ s'.currency = s.currency := by
  obtain ⟨earlier, -, rfl⟩ := undo_eq_ok.1 h
  exact ⟨name_replay .., currency_replay ..⟩

end ShareLedger.Session
