import ShareLedger.Proofs.Log
import ShareLedger.Proofs.Operation
/-!
# Proofs.Rounds

The round of a game is a count of its log.

1. Whether an action begins a round, and of which kind, is seen from the action alone: no ledger and
   no log refuses it (`Action.operation_eq_nextRound`).  Nothing else touches the round
   (`Ledger.round_run`).
2. One more round counts one more of its kind (`Round.ofKinds_concat`), so replaying a log counts
   the entries in it that begin a round (`Session.round_replay`).
3. Season and operating round go up in dictionary order with every entry that begins a round, until
   a counter is full (`Round.counts_lt_next`).
-/

namespace ShareLedger

/-! ## Entries that begin a round -/

namespace Action

variable {a : Action} {log : List String} {kind : RoundKind}

/-- The kind of the round that an action begins. -/
def roundKind? (a : Action) : Option RoundKind :=
  if a.verb = some .nextRound then a.object.bind RoundKind.read? else none

theorem roundKind?_eq_some : a.roundKind? = some kind ↔
    a.verb = some .nextRound ∧ ∃ word, a.object = some word ∧ RoundKind.read? word = some kind := by
  simp [roundKind?, Option.bind_eq_some_iff]

/-- An action asks for a round exactly when it names a kind of round. -/
theorem operation_eq_nextRound :
    a.operation log = .ok (.nextRound kind) ↔ a.roundKind? = some kind := by
  rw [roundKind?_eq_some]
  constructor
  · intro hop
    have hverb : a.verb = some .nextRound := verb_eq_of_operation hop
    rw [operation, hverb] at hop
    obtain ⟨word, hobject, hop⟩ := bind_eq_ok.1 hop
    cases hkind : RoundKind.read? word with
    | none => rw [hkind] at hop; cases hop
    | some read =>
        rw [hkind] at hop
        cases hop
        exact ⟨hverb, word, needObject_eq_ok.1 hobject, hkind⟩
  · rintro ⟨hverb, word, hobject, hkind⟩
    rw [operation, hverb]
    simp only [needObject, hobject, ok_bind, hkind]
    rfl

/-- A verb without a round is refused by every log. -/
theorem operation_ne_ok (hverb : a.verb = some .nextRound) (hnone : a.roundKind? = none)
    (op : Operation) : a.operation log ≠ .ok op := by
  intro hop
  have hopverb := verb_eq_of_operation hop
  rw [hverb] at hopverb
  cases op with
  | nextRound kind =>
      rw [operation_eq_nextRound.1 hop] at hnone
      cases hnone
  | _ => cases hopverb

end Action

namespace Ledger

variable {l : Ledger} {op : Operation} {p : Posting}

/-- Only a new round touches the round. -/
theorem round_run (h : l.run op = .ok p) :
    p.ledger.round = match op with
      | .nextRound kind => some (Round.next l.round kind)
      | _ => l.round := by
  have htraded : (l.tradeAll op.trades).round = l.round := by rw [tradeAll_eq]
  rw [run_stages h]
  cases op with
  | nextRound kind => simp only [Operation.settle, creditAll_round, htraded]
  | setValue _ value | setIncome _ value =>
      cases value <;> exact (creditAll_round _ _).trans htraded
  | _ => exact (creditAll_round _ _).trans htraded

/-- A command for a round is accepted exactly when it names a kind of round, and begins that round. -/
theorem apply_eq_nextRound {log : List String} {a : Action} (hverb : a.verb = some .nextRound) :
    l.apply log a = .ok p ↔ ∃ kind, a.roundKind? = some kind ∧ p = l.nextRound kind := by
  rw [apply_eq, bind_eq_ok]
  constructor
  · rintro ⟨op, hop, hrun⟩
    cases hkind : a.roundKind? with
    | none => exact absurd hop (Action.operation_ne_ok hverb hkind op)
    | some kind =>
        obtain rfl := Except.ok.inj (hop.symm.trans (Action.operation_eq_nextRound.2 hkind))
        exact ⟨kind, rfl, (Except.ok.inj hrun).symm⟩
  · rintro ⟨kind, hkind, rfl⟩
    exact ⟨.nextRound kind, Action.operation_eq_nextRound.2 hkind, rfl⟩

end Ledger

/-! ## Counting rounds -/

namespace Round

variable {kinds : List RoundKind} {kind : RoundKind}

/-- The number of operating rounds since the last stock round. -/
def operatingSince (kinds : List RoundKind) : Nat :=
  (kinds.reverse.takeWhile (· = .operating)).length

/-- The round that rounds of the given kinds lead to, oldest first. -/
def ofKinds (kinds : List RoundKind) : Option Round :=
  kinds.getLast?.map fun kind =>
    { kind
      season := min (kinds.count .stock) cap
      operating := min (operatingSince kinds) cap }

/-- Season and operating round, none of them if there is no round yet. -/
def counts (round : Option Round) : Nat × Nat :=
  ((round.map (·.season)).getD 0, (round.map (·.operating)).getD 0)

theorem countUp_min (n : Nat) : countUp (min n cap) = min (n + 1) cap := by
  unfold countUp
  split <;> omega

theorem counts_ofKinds (kinds : List RoundKind) :
    counts (ofKinds kinds) = (min (kinds.count .stock) cap, min (operatingSince kinds) cap) := by
  cases h : kinds.getLast? with
  | none =>
      obtain rfl := List.getLast?_eq_none_iff.1 h
      rfl
  | some kind => simp [counts, ofKinds, h]

theorem next_eq (round : Option Round) (kind : RoundKind) :
    next round kind =
      match kind with
      | .stock => ⟨.stock, countUp (counts round).1, 0⟩
      | .operating => ⟨.operating, (counts round).1, countUp (counts round).2⟩ := rfl

/-- One more round counts one more of its kind. -/
theorem ofKinds_concat (kinds : List RoundKind) (kind : RoundKind) :
    ofKinds (kinds ++ [kind]) = some (next (ofKinds kinds) kind) := by
  rw [next_eq, counts_ofKinds]
  cases kind with
  | stock => simp [ofKinds, operatingSince, countUp_min]
  | operating => simp [ofKinds, operatingSince, countUp_min]

/-- Season and operating round go up in dictionary order, unless the counter that a round of the
kind puts up is full. -/
theorem counts_lt_next {round : Option Round} (hseason : kind = .stock → (counts round).1 < cap)
    (hoperating : kind = .operating → (counts round).2 < cap) :
    Prod.Lex (· < ·) (· < ·) (counts round) (counts (some (next round kind))) := by
  rw [Prod.lex_def, next_eq]
  cases kind with
  | stock =>
      left
      calc (counts round).1
        _ < (counts round).1 + 1 := Nat.lt_succ_self _
        _ = countUp (counts round).1 := (if_pos (hseason rfl)).symm
  | operating =>
      right
      refine ⟨rfl, ?_⟩
      calc (counts round).2
        _ < (counts round).2 + 1 := Nat.lt_succ_self _
        _ = countUp (counts round).2 := (if_pos (hoperating rfl)).symm

end Round

/-! ## The round of a log -/

namespace Session

variable {s : Session} {entry : String}

/-- The kind of the round that an entry begins when it is replayed on a session, which it does if it
is a `next` entry and accepted. -/
def begins (s : Session) (entry : String) : Option RoundKind :=
  if (Action.read entry).verb = some .nextRound then
    match s.ledger.apply s.events (Action.read entry) with
    | .ok p => p.ledger.round.map (·.kind)
    | .error _ => none
  else none

/-- The kinds of the rounds that entries begin when they are replayed on a session, oldest first. -/
def roundsBegun (s : Session) : List String → List RoundKind
  | [] => []
  | entry :: events => (s.begins entry).toList ++ (s.replayEntry entry).roundsBegun events

/-- Which round an entry begins does not depend on the session. -/
theorem begins_eq (s : Session) (entry : String) :
    s.begins entry = (Action.read entry).roundKind? := by
  unfold begins
  split
  · next hverb =>
      have hiff {p : Posting} : s.ledger.apply s.events (Action.read entry) = .ok p ↔ _ :=
        Ledger.apply_eq_nextRound hverb
      cases happly : s.ledger.apply s.events (Action.read entry) with
      | ok p =>
          obtain ⟨kind, hkind, rfl⟩ := hiff.1 happly
          have hrun : s.ledger.run (.nextRound kind) = .ok (s.ledger.nextRound kind) := rfl
          dsimp only
          rw [hkind, Ledger.round_run hrun]
          cases kind <;> rfl
      | error e =>
          cases hkind : (Action.read entry).roundKind? with
          | some kind =>
              rw [hiff.2 ⟨kind, hkind, rfl⟩] at happly
              cases happly
          | none => rfl
  · next hverb => rw [Action.roundKind?, if_neg hverb]

/-- An entry begins a round exactly when it is a `next` entry and accepted. -/
theorem isSome_begins : (s.begins entry).isSome = true ↔
    (Action.read entry).verb = some .nextRound ∧
      ∃ p, s.ledger.apply s.events (Action.read entry) = .ok p := by
  rw [begins_eq, Option.isSome_iff_exists]
  constructor
  · rintro ⟨kind, hkind⟩
    have hverb := (Action.roundKind?_eq_some.1 hkind).1
    exact ⟨hverb, _, (Ledger.apply_eq_nextRound hverb).2 ⟨kind, hkind, rfl⟩⟩
  · rintro ⟨hverb, p, happly⟩
    obtain ⟨kind, hkind, -⟩ := (Ledger.apply_eq_nextRound hverb).1 happly
    exact ⟨kind, hkind⟩

/-- Replaying an entry puts the round forward if the entry begins one, and otherwise leaves it. -/
theorem round_replayEntry (s : Session) (entry : String) :
    (s.replayEntry entry).ledger.round =
      match s.begins entry with
      | some kind => some (Round.next s.ledger.round kind)
      | none => s.ledger.round := by
  rw [begins_eq, replayEntry]
  dsimp only
  cases hkind : (Action.read entry).roundKind? with
  | some kind =>
      have hverb := (Action.roundKind?_eq_some.1 hkind).1
      rw [(Ledger.apply_eq_nextRound hverb).2 ⟨kind, hkind, rfl⟩]
      have hrun : s.ledger.run (.nextRound kind) = .ok (s.ledger.nextRound kind) := rfl
      exact Ledger.round_run hrun
  | none =>
      cases happly : s.ledger.apply s.events (Action.read entry) with
      | ok p =>
          obtain ⟨op, hop, hrun⟩ := Ledger.exists_operation_of_apply happly
          have hround := Ledger.round_run hrun
          cases op with
          | nextRound kind =>
              rw [Action.operation_eq_nextRound.1 hop] at hkind
              cases hkind
          | _ => exact hround
      | error e => rfl

theorem roundsBegun_concat (s : Session) (events : List String) (entry : String) :
    s.roundsBegun (events ++ [entry]) =
      s.roundsBegun events ++ ((events.foldl replayEntry s).begins entry).toList := by
  induction events generalizing s with
  | nil => simp [roundsBegun]
  | cons first events ih => simp [roundsBegun, ih, List.append_assoc]

/-- The rounds that entries begin are those that their words name, in whatever session. -/
theorem roundsBegun_eq (s : Session) (events : List String) :
    s.roundsBegun events = events.filterMap fun entry => (Action.read entry).roundKind? := by
  induction events generalizing s with
  | nil => rfl
  | cons entry events ih =>
      rw [roundsBegun, begins_eq, ih, List.filterMap_cons]
      cases (Action.read entry).roundKind? with
      | some kind => rfl
      | none => rfl

/-- **Replaying counts the rounds of a log.** -/
theorem round_replay (name : String) (events : List String) (currency : String) :
    (replay name events currency).ledger.round =
      Round.ofKinds ((new name currency).roundsBegun events) := by
  induction events using List.reverseRecOn with
  | nil => rfl
  | append_singleton events entry ih =>
      rw [replay_concat, round_replayEntry, roundsBegun_concat, ← replay, ih]
      cases (replay name events currency).begins entry with
      | some kind => exact (Round.ofKinds_concat _ kind).symm
      | none => rw [Option.toList_none, List.append_nil]

-- An operating round in front of all stock rounds counts until the first one, and words that name
-- no round count for nothing.
example : (replay "g" ["next or", "next x", "next sr", "mikko cash 5", "next oops"] "$").ledger.round =
    some ⟨.operating, 1, 1⟩ := by
  decide +kernel

/-- **The round counts the log.**  There is a round exactly when an entry of the log begins one.  It
is of the kind of the last such entry, its season is the number of stock rounds and its operating
round the number of operating rounds since the last stock round, as far as the counters go.  An
entry begins a round exactly when it is a `next` entry and accepted, and the kind of the round is the
one that its word names; then season and operating round go up in dictionary order, unless the counter
is full.  No other entry changes the round. -/
theorem round_counts_log (name : String) (events : List String) (currency : String) :
    let s := replay name events currency
    let kinds := (new name currency).roundsBegun events
    (kinds = events.filterMap fun entry => (Action.read entry).roundKind?) ∧
      (s.ledger.round = none ↔ kinds = []) ∧
      (∀ round, s.ledger.round = some round → kinds.getLast? = some round.kind ∧
        round.season = min (kinds.count .stock) Round.cap ∧
        round.operating = min (Round.operatingSince kinds) Round.cap) ∧
      ∀ entry,
        let later := replay name (events ++ [entry]) currency
        let before := Round.counts s.ledger.round
        s.begins entry = (Action.read entry).roundKind? ∧
        ((s.begins entry).isSome = true ↔ (Action.read entry).verb = some .nextRound ∧
          ∃ p, s.ledger.apply events (Action.read entry) = .ok p) ∧
        (∀ kind, s.begins entry = some kind →
          (kind = .stock → before.1 < Round.cap) → (kind = .operating → before.2 < Round.cap) →
          Prod.Lex (· < ·) (· < ·) before (Round.counts later.ledger.round)) ∧
        (s.begins entry = none → later.ledger.round = s.ledger.round) := by
  intro s kinds
  have hround : s.ledger.round = Round.ofKinds kinds := round_replay name events currency
  refine ⟨roundsBegun_eq _ events, ?_, fun round hsome => ?_, fun entry => ⟨begins_eq s entry, ?_,
    fun kind hkind hseason hoperating => ?_, fun hnone => ?_⟩⟩
  · rw [hround, Round.ofKinds, Option.map_eq_none_iff, List.getLast?_eq_none_iff]
  · rw [hround, Round.ofKinds, Option.map_eq_some_iff] at hsome
    obtain ⟨kind, hlast, rfl⟩ := hsome
    exact ⟨hlast, rfl, rfl⟩
  · have hevents : s.events = events := events_replay name events currency
    rw [isSome_begins, hevents]
  · rw [replay_concat, round_replayEntry, hkind]
    exact Round.counts_lt_next hseason hoperating
  · rw [replay_concat, round_replayEntry, hnone]

end Session
end ShareLedger
