import ShareLedger.Proofs.BankFrame
import ShareLedger.Proofs.Entry
import ShareLedger.Proofs.Undo
/-!
# Proofs.Replay

Replaying a log against having played it.

1. Moves are typed lines, carried out or refused, and takings back (`Move`).
2. The log of a session is replayed to the session's own ledger, its bank set aside, and the two
   banks differ exactly while a bank size stands whose entry is read as another one
   (`Session.Faithful`).
3. A move keeps this (`Session.Faithful.move`).  Taking back replays, which puts the replayed bank
   in the place of the one that was played.
-/

namespace ShareLedger

/-! ## Moves -/

/-- What can be done with an open game. -/
inductive Move where
  /-- A line is typed. -/
  | line (text : String)
  /-- The last entry is taken back. -/
  | undo

namespace Session

/-- The session after a move; what is refused changes nothing. -/
def move (s : Session) : Move → Session
  | .line text =>
    match s.perform (Action.read text) with
    | .ok (s', _) => s'
    | .error _ => s
  | .undo =>
    match s.undo with
    | .ok (s', _) => s'
    | .error _ => s

/-- The session after moves in order. -/
def moveAll (s : Session) (ms : List Move) : Session := ms.foldl move s

/-- The command for the bank size that stands as it was typed, after a move; `typed` is the one
before it.  Taking back replays the log, after which none stands as it was typed. -/
def typedSize (s : Session) (typed : Option Action) : Move → Option Action
  | .line text =>
    match s.perform (Action.read text) with
    | .ok _ => if (Action.read text).verb = some .bankSize then some (Action.read text) else typed
    | .error _ => typed
  | .undo =>
    match s.undo with
    | .ok _ => none
    | .error _ => typed

/-- The command for the bank size that stands as it was typed, after moves in order. -/
def typedSizeAll : Session → Option Action → List Move → Option Action
  | _, typed, [] => typed
  | s, typed, m :: ms => typedSizeAll (s.move m) (s.typedSize typed m) ms

end Session

/-- Whether the entry of a command for the bank size is read as another bank size, in a game that
began with a currency. -/
def Action.Misread (currency : String) (a : Action) : Prop :=
  ∃ m, a.misreading = some m ∧ ¬ (a.quantity = some m ∧ a.object = some currency)

namespace Session

/-! ## The ledger of a log -/

/-- The ledger that the log of a session is replayed to. -/
def replayed (s : Session) : Ledger := (replay s.name s.events s.currency).ledger

theorem replayed_replay (name : String) (events : List String) (currency : String) :
    (replay name events currency).replayed = (replay name events currency).ledger := by
  rw [replayed, name_replay, events_replay, currency_replay]

/-- The currency of the game is that of the ledger, whatever the entries say. -/
theorem defaultCurrency_replay (name : String) (events : List String) (currency : String) :
    (replay name events currency).ledger.defaultCurrency = currency := by
  induction events using List.reverseRecOn with
  | nil => rfl
  | append_singleton events entry ih =>
      rw [replay_concat, replayEntry]
      dsimp only
      split
      · next p happly =>
          obtain ⟨op, -, hrun⟩ := Ledger.exists_operation_of_apply happly
          rw [Ledger.defaultCurrency_run hrun, ih]
      · exact ih

/-- An entry that is read as a command that asks for an operation has that operation carried out
when it is replayed. -/
theorem replay_concat_ledger (name currency : String) {entry : String} {events : List String}
    {op : Operation} {p : Posting} (hop : (Action.read entry).operation events = .ok op)
    (hrun : (replay name events currency).ledger.run op = .ok p) :
    (replay name (events ++ [entry]) currency).ledger = p.ledger := by
  have happly : (replay name events currency).ledger.apply events (Action.read entry) = .ok p := by
    rw [Ledger.apply_eq, hop]
    exact hrun
  rw [replay_concat, replayEntry]
  dsimp only
  rw [events_replay, happly]

/-! ## What every move keeps -/

/-- The bank that a log is replayed to when a command for the bank size stands as it was typed. -/
def replayedBank (s : Session) (a : Action) : Bank :=
  match a.misreading with
  | some m => ⟨some m, s.currency⟩
  | none => s.ledger.bank

/-- The log of a session is replayed to the session's ledger, the bank set aside; the banks are the
same, or as a command for the bank size that stands as it was typed has it. -/
structure Faithful (s : Session) (typed : Option Action) : Prop where
  ledger : s.replayed.withBank s.ledger.bank = s.ledger
  currency : s.ledger.defaultCurrency = s.currency
  bank : typed = none → s.replayed.bank = s.ledger.bank
  typedBank : ∀ a ∈ typed,
    s.ledger.bank = ⟨a.quantity, a.object.getD s.currency⟩ ∧ s.replayed.bank = s.replayedBank a

/-- A replayed session is faithful. -/
theorem faithful_replay (name : String) (events : List String) (currency : String) :
    (replay name events currency).Faithful none := by
  have hreplayed := replayed_replay name events currency
  refine ⟨?_, ?_, fun _ => ?_, fun a ha => by cases ha⟩
  · rw [hreplayed, Ledger.withBank_bank]
  · rw [defaultCurrency_replay, currency_replay]
  · rw [hreplayed]

/-- The session after an accepted action. -/
def logged (s : Session) (a : Action) (p : Posting) : Session :=
  { s with events := s.events ++ a.entry.toList, ledger := p.ledger }

variable {s : Session} {typed : Option Action} {a b : Action} {p : Posting}

theorem Faithful.replayed_eq (h : s.Faithful typed) :
    s.replayed = s.ledger.withBank s.replayed.bank := by
  have hledger := congrArg (·.withBank s.replayed.bank) h.ledger
  exact hledger

/-- What an entry is read as is carried out on the ledger that the entries before it lead to. -/
theorem replayed_logged {op : Operation} {p' : Posting} (hread : a.ReadsAs b)
    (hop : b.operation s.events = .ok op) (hrun : s.replayed.run op = .ok p') :
    (s.logged a p).replayed = p'.ledger := by
  obtain ⟨e, he, rfl⟩ := hread
  have hreplay := replay_concat_ledger s.name s.currency hop hrun
  simpa [replayed, logged, he] using hreplay

/-- A command that is accepted and does not set the bank size keeps the log faithful. -/
theorem Faithful.logged_other (h : s.Faithful typed) (hlogged : a.Logged)
    (hnote : ∀ c ∈ a.comment, Action.IsNote c) (hbank : a.verb ≠ some .bankSize)
    (happly : s.ledger.apply s.events a = .ok p) : (s.logged a p).Faithful typed := by
  obtain ⟨op, hop, hrun⟩ := Ledger.exists_operation_of_apply happly
  have hother : ∀ size symbol, op ≠ .setBankSize size symbol := by
    rintro size symbol rfl
    exact hbank (Action.operation_eq_setBankSize.1 hop).1
  obtain ⟨b, hread, hsame⟩ := hlogged.exists_reading hnote hbank
  obtain ⟨p', hrun', hledger⟩ := Ledger.run_withBank hrun hother s.replayed.bank
  rw [← h.replayed_eq] at hrun'
  have hreplayed := replayed_logged (p := p) hread ((hsame _).trans hop) hrun'
  rw [hledger] at hreplayed
  have hkept : (s.logged a p).ledger.bank = s.ledger.bank := Ledger.bank_run hrun hother
  refine ⟨?_, ?_, fun hnone => ?_, fun c hc => ?_⟩
  · rw [hreplayed, Ledger.withBank_withBank]
    exact Ledger.withBank_bank _
  · exact (Ledger.defaultCurrency_run hrun).trans h.currency
  · rw [hreplayed, hkept]
    exact h.bank hnone
  · obtain ⟨htyped, hbank⟩ := h.typedBank c hc
    rw [hreplayed, hkept]
    refine ⟨htyped, hbank.trans ?_⟩
    unfold replayedBank
    rw [hkept]
    rfl

/-- What a command for the bank size sets, as it was typed. -/
theorem exists_size_of_apply (h : s.Faithful typed) (hbank : a.verb = some .bankSize)
    (happly : s.ledger.apply s.events a = .ok p) :
    ∃ size, a.quantity = some size ∧ size ≠ 0 ∧
      p.ledger = s.ledger.withBank ⟨some size, a.object.getD s.currency⟩ := by
  obtain ⟨op, hop, hrun⟩ := Ledger.exists_operation_of_apply happly
  have hverb := Action.verb_eq_of_operation hop
  rw [hbank] at hverb
  cases op with
  | setBankSize size symbol =>
      obtain ⟨-, hquantity, rfl⟩ := Action.operation_eq_setBankSize.1 hop
      have hsize : size ≠ 0 := by
        rintro rfl
        cases hrun
      obtain ⟨p', hrun', hledger⟩ := Ledger.run_setBankSize s.ledger a.object hsize
      rw [hrun] at hrun'
      obtain rfl := Except.ok.inj hrun'
      rw [h.currency] at hledger
      exact ⟨size, hquantity, hsize, hledger⟩
  | _ => cases hverb

/-- What the entry of a command for the bank size sets when it is replayed. -/
theorem replayed_logged_bankSize (h : s.Faithful typed) {size : Amount} (hsize : size ≠ 0)
    (hb : b.verb = some .bankSize) (hquantity : b.quantity = some size) (hread : a.ReadsAs b) :
    (s.logged a p).replayed = s.replayed.withBank ⟨some size, b.object.getD s.currency⟩ := by
  have hcurrency : s.replayed.defaultCurrency = s.currency := by
    rw [h.replayed_eq, Ledger.defaultCurrency_withBank, h.currency]
  have hop : b.operation s.events = .ok (.setBankSize size b.object) :=
    Action.operation_eq_setBankSize.2 ⟨hb, hquantity, rfl⟩
  obtain ⟨p', hrun, hledger⟩ := Ledger.run_setBankSize s.replayed b.object hsize
  rw [replayed_logged hread hop hrun, hledger, hcurrency]

/-- A command for the bank size that is accepted stands as it was typed. -/
theorem Faithful.logged_bankSize (h : s.Faithful typed) (hlogged : a.Logged)
    (hnote : ∀ c ∈ a.comment, Action.IsNote c) (hbank : a.verb = some .bankSize)
    (happly : s.ledger.apply s.events a = .ok p) : (s.logged a p).Faithful (some a) := by
  obtain ⟨size, hquantity, hsize, hledger⟩ := exists_size_of_apply h hbank happly
  have hread := hlogged.readsAs_bankSize hnote hbank
  have hzero := hlogged.misreading_ne_zero hbank
  have hreplayed : (s.logged a p).replayed =
      s.replayed.withBank ((s.logged a p).replayedBank a) := by
    unfold replayedBank
    cases hm : a.misreading with
    | none =>
        rw [hm] at hread
        rw [replayed_logged_bankSize h hsize hbank hquantity hread]
        simp only [logged, hledger, Ledger.bank_withBank]
    | some m =>
        rw [hm] at hread hzero
        exact replayed_logged_bankSize h (fun hm => hzero (congrArg some hm)) rfl rfl hread
  refine ⟨?_, ?_, nofun, fun c hc => ?_⟩
  · rw [hreplayed, h.replayed_eq]
    simp only [logged, hledger, Ledger.withBank_withBank, Ledger.bank_withBank]
  · simp only [logged, hledger, Ledger.defaultCurrency_withBank]
    exact h.currency
  · obtain rfl := Option.some.inj hc
    rw [hreplayed, Ledger.bank_withBank, hquantity]
    simp only [logged, hledger, Ledger.bank_withBank, and_true]

/-- **Every move keeps the log faithful.** -/
theorem Faithful.move (h : s.Faithful typed) (m : Move) :
    (s.move m).Faithful (s.typedSize typed m) := by
  cases m with
  | line text =>
      simp only [Session.move, typedSize]
      cases hs : s.perform (Action.read text) with
      | error e => exact h
      | ok result =>
          obtain ⟨p, happly, -, hnext⟩ := perform_eq_ok.1 hs
          obtain hnext : result.1 = s.logged (Action.read text) p := hnext
          have hlogged := Action.logged_of_apply happly
          have hnote : ∀ c ∈ (Action.read text).comment, Action.IsNote c :=
            fun c hc => Action.isNote_of_read hc
          dsimp only
          rw [hnext]
          split
          · next hbank => exact h.logged_bankSize hlogged hnote hbank happly
          · next hbank => exact h.logged_other hlogged hnote hbank happly
  | undo =>
      simp only [Session.move, typedSize]
      cases hs : s.undo with
      | error e => exact h
      | ok result =>
          obtain ⟨earlier, -, hnext⟩ := undo_eq_ok.1 hs
          dsimp only
          rw [hnext]
          exact faithful_replay s.name earlier s.currency

theorem Faithful.moveAll (h : s.Faithful typed) (ms : List Move) :
    (s.moveAll ms).Faithful (typedSizeAll s typed ms) := by
  induction ms generalizing s typed with
  | nil => exact h
  | cons m ms ih => exact ih (h.move m)

/-- A move is a turn with an action that is read from a line. -/
theorem name_move (s : Session) (m : Move) :
    (s.move m).name = s.name ∧ (s.move m).currency = s.currency := by
  cases m with
  | line text => exact s.name_turn (.act (Action.read text))
  | undo => exact s.name_turn .undo

theorem name_moveAll (s : Session) (ms : List Move) :
    (s.moveAll ms).name = s.name ∧ (s.moveAll ms).currency = s.currency := by
  induction ms generalizing s with
  | nil => exact ⟨rfl, rfl⟩
  | cons m ms ih =>
      obtain ⟨hname, hcurrency⟩ := ih (s.move m)
      exact ⟨hname.trans (s.name_move m).1, hcurrency.trans (s.name_move m).2⟩

/-- The banks are the same unless the entry of the bank size that stands is read as another one. -/
theorem Faithful.bank_eq_iff (h : s.Faithful typed) :
    s.replayed.bank = s.ledger.bank ↔ ∀ a ∈ typed, ¬ a.Misread s.currency := by
  cases typed with
  | none =>
      have hsame := h.bank rfl
      simp [hsame]
  | some a =>
      obtain ⟨htyped, hreplayed⟩ := h.typedBank a rfl
      have hmisread : s.replayed.bank = s.ledger.bank ↔ ¬ a.Misread s.currency := by
        unfold replayedBank at hreplayed
        cases hm : a.misreading with
        | none =>
            rw [hm] at hreplayed
            simp [Action.Misread, hreplayed, hm]
        | some m =>
            -- Only a bank size with a symbol is read as anything else.
            obtain ⟨symbol, hsymbol⟩ : ∃ symbol, a.object = some symbol := by
              unfold Action.misreading at hm
              split at hm
              · next symbol n hobject hquantity => exact ⟨symbol, hobject⟩
              · cases hm
            rw [hm] at hreplayed
            rw [hreplayed, htyped]
            simp only [Action.Misread, hm, hsymbol, Option.getD_some, Option.some.injEq,
              Bank.mk.injEq, exists_eq_left', not_not]
            exact and_congr eq_comm eq_comm
      simpa using hmisread

/-- **Replaying against playing**: after any moves, the log is replayed to a session of the same
name and log whose ledger differs from the one that was played at most in the bank; and it differs
there exactly when a bank size stands as it was typed whose entry is read as another one. -/
theorem replay_of_moves (name currency : String) (moves : List Move) :
    let s := (new name currency).moveAll moves
    let r := replay name s.events currency
    s.name = name ∧ r.name = name ∧ r.events = s.events ∧
      r.ledger.withBank s.ledger.bank = s.ledger ∧
      (r.ledger = s.ledger ↔
        ∀ a, typedSizeAll (new name currency) none moves = some a → ¬ a.Misread currency) := by
  intro s r
  obtain ⟨hname, hcurrency⟩ := (new name currency).name_moveAll moves
  have hfaithful : s.Faithful (typedSizeAll (new name currency) none moves) :=
    (faithful_replay name [] currency).moveAll moves
  have hreplayed : s.replayed = r.ledger := by
    rw [replayed, hname, hcurrency]
    rfl
  have hledger := hfaithful.ledger
  have hbank := hfaithful.bank_eq_iff
  have hcurrency' : s.currency = currency := hcurrency
  rw [hreplayed] at hledger hbank
  rw [hcurrency'] at hbank
  refine ⟨hname, name_replay .., events_replay .., hledger, Iff.trans ⟨?_, ?_⟩ hbank⟩
  · intro hsame
    rw [hsame]
  · intro hsame
    rw [← hledger, ← hsame, Ledger.withBank_bank]

/-- What is typed as a size of 5 with a minus sign as its symbol is replayed as a size of -5. -/
theorem exists_replay_ne :
    ¬ ∀ (name currency : String) (moves : List Move),
      (replay name ((new name currency).moveAll moves).events currency).ledger =
        ((new name currency).moveAll moves).ledger := by
  intro h
  have hcase := h "test" "$" [.line "banksize -+5"]
  revert hcase
  decide +kernel

end Session
end ShareLedger
