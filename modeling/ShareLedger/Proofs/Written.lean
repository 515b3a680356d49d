import Mathlib.Data.List.Forall2
import ShareLedger.Proofs.Acceptance
import ShareLedger.Proofs.Replay
/-!
# Proofs.Written

What a session writes to its log, a replay of the log accepts.

1. The entry of a command that is accepted is read with the verb of the command, and every ledger
   accepts it (`Action.Logged.exists_writtenAs`).
2. The commands behind the entries of a log are listed beside it (`Session.commandsAll`).  Taking
   back drops the last of both, so that every entry stays beside its own command
   (`Session.Written.move`).
3. A replay tells which entries it passes over and why (`Session.rejections`).  Of a log that was
   written by commands it passes over none (`Session.written_replays`).
-/

namespace ShareLedger

/-! ## Entries of accepted commands -/

/-- The entry is the one that the command is logged with, it is read with the verb of the command,
and whatever ledger and log it meets, it is accepted. -/
structure Action.WrittenAs (entry : String) (a : Action) : Prop where
  entry_eq : a.entry = some entry
  verb : (read entry).verb = a.verb
  accepted : ∀ (l : Ledger) (log : List String), ∃ p, l.apply log (read entry) = .ok p

/-- **An accepted command is written as an entry that is accepted.** -/
theorem Action.Logged.exists_writtenAs {a : Action} {l : Ledger} {log : List String} {p : Posting}
    (h : Logged a) (hnote : ∀ c ∈ a.comment, IsNote c) (happly : l.apply log a = .ok p) :
    ∃ entry, WrittenAs entry a := by
  by_cases hbank : a.verb = some .bankSize
  · obtain ⟨entry, hentry, hread⟩ := h.readsAs_bankSize hnote hbank
    refine ⟨entry, hentry, ?_, fun l' log' => ?_⟩
    · rw [hread]
      split
      · exact hbank.symm
      · rfl
    · rw [hread]
      split
      · next m hm =>
          -- What the symbol and the size are read as is another size, but never a zero.
          have hsize : m ≠ 0 := fun hzero => h.misreading_ne_zero hbank (hzero ▸ hm)
          obtain ⟨p', hrun, -⟩ := l'.run_setBankSize none hsize
          refine ⟨p', ?_⟩
          rw [Ledger.apply_eq, operation_eq_setBankSize.2 ⟨rfl, rfl, rfl⟩]
          exact hrun
      · exact Ledger.exists_apply happly l' log'
  · obtain ⟨b, ⟨entry, hentry, rfl⟩, hsame⟩ := h.exists_reading hnote hbank
    obtain ⟨op, hop, -⟩ := Ledger.exists_operation_of_apply happly
    refine ⟨entry, hentry, ?_, fun l' log' => ?_⟩
    · rw [verb_eq_of_operation ((hsame log).trans hop), verb_eq_of_operation hop]
    · obtain ⟨p', happly'⟩ := Ledger.exists_apply happly l' log'
      refine ⟨p', ?_⟩
      rw [Ledger.apply_eq, hsame, ← Ledger.apply_eq]
      exact happly'

namespace Session

/-! ## Replays that pass over entries -/

/-- The entries that a replay which goes on from a session passes over, with the reasons. -/
def rejections (s : Session) : List String → List (String × Refusal)
  | [] => []
  | entry :: rest =>
    let later := (s.replayEntry entry).rejections rest
    match s.ledger.apply s.events (Action.read entry) with
    | .ok _ => later
    | .error e => (entry, e) :: later

/-- Nothing is passed over when every entry is accepted whatever it meets. -/
theorem rejections_eq_nil {entries : List String}
    (h : ∀ entry ∈ entries, ∀ (l : Ledger) (log : List String),
      ∃ p, l.apply log (Action.read entry) = .ok p) (s : Session) : s.rejections entries = [] := by
  induction entries generalizing s with
  | nil => rfl
  | cons entry rest ih =>
      obtain ⟨hentry, hrest⟩ := List.forall_mem_cons.1 h
      obtain ⟨p, happly⟩ := hentry s.ledger s.events
      simp only [rejections, happly]
      exact ih hrest (s.replayEntry entry)

/-- An entry that is accepted is carried out when it is replayed. -/
theorem replay_concat_of_apply {name currency entry : String} {events : List String} {p : Posting}
    (h : (replay name events currency).ledger.apply events (Action.read entry) = .ok p) :
    (replay name (events ++ [entry]) currency).ledger = p.ledger := by
  obtain ⟨op, hop, hrun⟩ := Ledger.exists_operation_of_apply h
  exact replay_concat_ledger name currency hop hrun

/-! ## Commands beside their entries -/

/-- The commands behind the entries of the log after a move, `as` being those before it. -/
def commands (s : Session) (as : List Action) : Move → List Action
  | .line text =>
    match s.perform (Action.read text) with
    | .ok _ => as ++ [Action.read text]
    | .error _ => as
  | .undo =>
    match s.undo with
    | .ok _ => as.dropLast
    | .error _ => as

/-- The commands behind the entries of the log after moves in order. -/
def commandsAll : Session → List Action → List Move → List Action
  | _, as, [] => as
  | s, as, m :: ms => commandsAll (s.move m) (s.commands as m) ms

/-- Every entry of the log stands beside the command that it is written for. -/
def Written (s : Session) (as : List Action) : Prop := List.Forall₂ Action.WrittenAs s.events as

variable {s : Session} {as : List Action}

/-- **Every move keeps the entries beside their commands.** -/
theorem Written.move (h : s.Written as) (m : Move) : (s.move m).Written (s.commands as m) := by
  cases m with
  | line text =>
      simp only [Session.move, commands]
      cases hs : s.perform (Action.read text) with
      | error e => exact h
      | ok result =>
          obtain ⟨p, happly, -, hnext⟩ := perform_eq_ok.1 hs
          obtain ⟨entry, hwritten⟩ := (Action.logged_of_apply happly).exists_writtenAs
            (fun c hc => Action.isNote_of_read hc) happly
          have hevents : result.1.events = s.events ++ [entry] := by
            rw [hnext, hwritten.entry_eq]
            rfl
          dsimp only
          rw [Written, hevents]
          exact List.rel_append h (.cons hwritten .nil)
  | undo =>
      simp only [Session.move, commands]
      cases hs : s.undo with
      | error e => exact h
      | ok result =>
          obtain ⟨earlier, hevents, hnext⟩ := undo_eq_ok.1 hs
          have hearlier : earlier = s.events.dropLast := by rw [hevents, List.dropLast_concat]
          dsimp only
          rw [hnext, Written, events_replay, hearlier, List.dropLast_eq_take,
            List.dropLast_eq_take, ← h.length_eq]
          exact List.forall₂_take _ h

theorem Written.moveAll (h : s.Written as) (ms : List Move) :
    (s.moveAll ms).Written (commandsAll s as ms) := by
  induction ms generalizing s as with
  | nil => exact h
  | cons m ms ih => exact ih (h.move m)

/-- The command beside an entry. -/
theorem Written.getElem? (h : s.Written as) {i : Nat} {entry : String}
    (hi : s.events[i]? = some entry) : ∃ a, as[i]? = some a ∧ Action.WrittenAs entry a := by
  obtain ⟨hlt, rfl⟩ := List.getElem?_eq_some_iff.1 hi
  obtain ⟨hlength, hall⟩ := List.forall₂_iff_get.1 h
  exact ⟨as[i], List.getElem?_eq_getElem (hlength ▸ hlt), hall i hlt (hlength ▸ hlt)⟩

/-- **What is written is accepted**: after any moves, every entry of the log is the one that its
command was logged with and is read with the verb of that command, and the ledger that the entries
before it are replayed to accepts it and becomes the one that the entries up to it are replayed to.
So a replay of the log passes over nothing. -/
theorem written_replays (name currency : String) (moves : List Move) :
    let s := (new name currency).moveAll moves
    let as := commandsAll (new name currency) [] moves
    as.length = s.events.length ∧
    (∀ i entry, s.events[i]? = some entry →
      let before := s.events.take i
      ∃ a verb p, as[i]? = some a ∧ a.entry = some entry ∧ a.verb = some verb ∧
        (Action.read entry).verb = some verb ∧
        (replay name before currency).ledger.apply before (Action.read entry) = .ok p ∧
        (replay name (s.events.take (i + 1)) currency).ledger = p.ledger) ∧
    (new name currency).rejections s.events = [] := by
  intro s as
  have hstart : (new name currency).Written [] := .nil
  have hwritten : s.Written as := hstart.moveAll moves
  refine ⟨hwritten.length_eq.symm, fun i entry hi => ?_, ?_⟩
  · intro before
    obtain ⟨a, ha, hentry⟩ := hwritten.getElem? hi
    obtain ⟨p, happly⟩ := hentry.accepted (replay name before currency).ledger before
    obtain ⟨verb, hverb⟩ : ∃ verb, (Action.read entry).verb = some verb := by
      apply Option.ne_none_iff_exists'.1
      intro hnone
      rw [Ledger.apply, hnone] at happly
      cases happly
    have htake : s.events.take (i + 1) = before ++ [entry] := by
      rw [List.take_add_one, hi]
      rfl
    refine ⟨a, verb, p, ha, hentry.entry_eq, hentry.verb ▸ hverb, hverb, happly, ?_⟩
    rw [htake, replay_concat_of_apply happly]
  · refine rejections_eq_nil (fun entry hmem => ?_) _
    obtain ⟨i, hi⟩ := List.mem_iff_getElem?.1 hmem
    obtain ⟨a, -, hentry⟩ := hwritten.getElem? hi
    exact hentry.accepted

/-- A company that is named like a price, a symbol that is read as a sign, a name that grows in
capitals, and a comment with a mark in it. -/
theorem written_replays_misread :
    let moves : List Move :=
      [.line "10 b 5 @3 @4 from from # a # b", .line "banksize -+5", .line "next or", .undo,
        .line "ß pays nothing", .line "fly me to the moon", .line "# 1 # 2"]
    let s := (new "test" "$").moveAll moves
    let before := ["10 buy 5 @3 @4 from FROM # a # b"]
    s.events = before ++ ["banksize -5", "SS dividend 0", "# 1 # 2"] ∧
      (Action.read "banksize -5").verb = some .bankSize ∧
      (∃ p, (replay "test" before "$").ledger.apply before (Action.read "banksize -5") = .ok p) ∧
      (new "test" "$").rejections s.events = [] := by
  intro moves s before
  obtain ⟨-, hentries, hnone⟩ := written_replays "test" "$" moves
  have hevents : s.events = before ++ ["banksize -5", "SS dividend 0", "# 1 # 2"] := by
    decide +kernel
  have hentry : s.events[1]? = some "banksize -5" := by
    rw [hevents]
    rfl
  have hbefore : s.events.take 1 = before := by
    rw [hevents]
    rfl
  obtain ⟨a, verb, p, ha, -, hverb, hread, happly, -⟩ := hentries 1 "banksize -5" hentry
  rw [hbefore] at happly
  have hcommand : (commandsAll (new "test" "$") [] moves)[1]?.bind (·.verb) = some .bankSize := by
    decide +kernel
  rw [ha, Option.bind_some, hverb] at hcommand
  exact ⟨hevents, hread.trans hcommand, ⟨p, happly⟩, hnone⟩

end Session
end ShareLedger
