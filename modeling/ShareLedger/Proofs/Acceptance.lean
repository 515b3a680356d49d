import ShareLedger.Proofs.BankFrame
import ShareLedger.Proofs.Undo
/-!
# Proofs.Acceptance

Whether a command is accepted is settled by the command alone.

1. No ledger refuses what another one accepts, and the log so far has no say either: it only gives
   `PREV` its amount (`Ledger.exists_apply`).
2. So a turn does to the log of one session what it does to any other log that is the same, however
   the two ledgers differ (`Session.events_turn`).
-/

namespace ShareLedger

/-! ## Commands -/

/-- An operation that one ledger carries out is carried out by every ledger. -/
theorem Ledger.exists_run {l : Ledger} {op : Operation} {p : Posting} (h : l.run op = .ok p)
    (l' : Ledger) : ∃ p', l'.run op = .ok p' := by
  cases op with
  | setValue _ value | setIncome _ value =>
      cases value with
      | none => cases h
      | some n => exact ⟨_, rfl⟩
  | setBankSize size symbol =>
      have hsize : size ≠ 0 := by
        rintro rfl
        cases h
      obtain ⟨p', hrun, -⟩ := l'.run_setBankSize symbol hsize
      exact ⟨p', hrun⟩
  | _ => exact ⟨_, rfl⟩

namespace Action

variable {log : List String} {a : Action}

/-- Whether a dividend has an amount does not depend on the log. -/
theorem exists_dividendAmount {verb : Verb} {n : Amount} (h : dividendAmount log verb a = .ok n)
    (log' : List String) : ∃ n', dividendAmount log' verb a = .ok n' := by
  unfold dividendAmount at h ⊢
  obtain ⟨company, hcompany, h⟩ := bind_eq_ok.1 h
  rw [hcompany, ok_bind]
  split
  · exact ⟨_, rfl⟩
  · next hprevious =>
      rw [if_neg hprevious] at h
      split
      · exact ⟨0, rfl⟩
      · next hobject =>
          rw [if_neg hobject] at h
          exact ⟨n, h⟩

/-- Only dividends look at the log. -/
theorem operation_eq_of_not_dividend (hdividend : a.verb ≠ some .dividend)
    (hhalf : a.verb ≠ some .halfDividend) (log log' : List String) :
    a.operation log = a.operation log' := by
  unfold operation
  cases hverb : a.verb with
  | none => rfl
  | some verb =>
      cases verb with
      | dividend => exact absurd hverb hdividend
      | halfDividend => exact absurd hverb hhalf
      | _ => rfl

end Action

/-- **What one ledger accepts, every ledger accepts**, whatever the log is. -/
theorem Ledger.exists_apply {l : Ledger} {log : List String} {a : Action} {p : Posting}
    (h : l.apply log a = .ok p) (l' : Ledger) (log' : List String) :
    ∃ p', l'.apply log' a = .ok p' := by
  obtain ⟨op, hop, hrun⟩ := exists_operation_of_apply h
  by_cases hdividend : a.verb = some .dividend ∨ a.verb = some .halfDividend
  · -- A dividend is paid once it has an amount and a company.
    unfold Action.operation at hop
    obtain hverb | hverb := hdividend
    all_goals
      rw [hverb] at hop
      obtain ⟨n, hn, hop⟩ := bind_eq_ok.1 hop
      obtain ⟨company, hcompany, -⟩ := bind_eq_ok.1 hop
      obtain ⟨n', hn'⟩ := Action.exists_dividendAmount hn log'
      simp only [apply, hverb, carryOut, hn', hcompany, ok_bind]
      exact ⟨_, rfl⟩
  · obtain ⟨hother, hhalf⟩ := not_or.1 hdividend
    obtain ⟨p', hrun'⟩ := exists_run hrun l'
    refine ⟨p', ?_⟩
    rw [apply_eq, Action.operation_eq_of_not_dividend hother hhalf log' log, hop]
    exact hrun'

/-! ## Turns -/

namespace Session

variable {s s' : Session}

/-- A session refuses a turn when one with the same log does. -/
theorem exists_attempt {t : Turn} {result : Session × String} (hevents : s'.events = s.events)
    (h : s.attempt t = .ok result) : ∃ result', s'.attempt t = .ok result' := by
  obtain ⟨next, report⟩ := result
  cases t with
  | act a =>
      obtain ⟨p, happly, -, -⟩ := perform_eq_ok.1 h
      obtain ⟨p', happly'⟩ := Ledger.exists_apply happly s'.ledger s'.events
      exact ⟨_, perform_eq_ok.2 ⟨p', happly', rfl, rfl⟩⟩
  | undo =>
      obtain ⟨earlier, hlog, -⟩ := undo_eq_ok.1 h
      exact ⟨_, undo_concat (hevents.trans hlog)⟩

/-- What a turn that is taken makes of the log depends on the log alone. -/
theorem events_attempt {t : Turn} {next next' : Session} {report report' : String}
    (hevents : s'.events = s.events) (h : s.attempt t = .ok (next, report))
    (h' : s'.attempt t = .ok (next', report')) : next'.events = next.events := by
  cases t with
  | act a =>
      obtain ⟨e, he, hnext⟩ := events_perform h
      obtain ⟨e', he', hnext'⟩ := events_perform h'
      obtain rfl := Option.some.inj (he.symm.trans he')
      rw [hnext, hnext', hevents]
  | undo =>
      obtain ⟨earlier, hlog, rfl⟩ := undo_eq_ok.1 h
      obtain ⟨earlier', hlog', rfl⟩ := undo_eq_ok.1 h'
      rw [hevents, hlog] at hlog'
      rw [events_replay, events_replay]
      exact (List.append_inj' hlog' rfl).1.symm

/-- **A turn does the same to the same log**, whatever the ledgers are. -/
theorem events_turn (hevents : s'.events = s.events) (t : Turn) :
    (s'.turn t).events = (s.turn t).events := by
  unfold turn
  cases hs : s.attempt t with
  | ok result =>
      obtain ⟨⟨next', report'⟩, hs'⟩ := exists_attempt hevents hs
      rw [hs']
      exact events_attempt hevents hs hs'
  | error e =>
      cases hs' : s'.attempt t with
      | error e' => exact hevents
      | ok result' =>
          obtain ⟨result, hok⟩ := exists_attempt hevents.symm hs'
          rw [hs] at hok
          cases hok

end Session
end ShareLedger
