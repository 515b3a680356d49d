import ShareLedger.Proofs.Replay
/-!
# Proofs.LastDividend

What `PREV` stands for.

1. The history of a session has for every entry of the log the operation that was carried out when
   the entry was written (`Session.recordAll`).  Taking back drops the last of them.
2. What the log is searched for is what the history says: the amount of the last dividend of the
   same company and kind, whether that was given as a number, by a word or by `PREV`
   (`History.Tells.previousAmount_eq`).
3. An entry of a dividend asks for the dividend that was paid, with the entries before it as the
   log; so replaying pays the same amounts (`Session.prev_repeats_last`).
-/

namespace ShareLedger

open Text (IsWord)

/-! ## Dividends as operations -/

namespace Operation

/-- The dividend of a verb. -/
def ofDividend (verb : Verb) (company : String) (n : Amount) : Operation :=
  match verb with
  | .halfDividend => .payHalfDividends company n
  | _ => .payDividends company n

/-- The amount of an operation that is a dividend of the given kind and company. -/
def paid? (verb : Verb) (company : String) : Operation → Option Amount
  | .payDividends paying n => if verb = .dividend ∧ paying = company then some n else none
  | .payHalfDividends paying n => if verb = .halfDividend ∧ paying = company then some n else none
  | _ => none

end Operation

/-- The verbs of dividends. -/
def Verb.dividends : List Verb := [.dividend, .halfDividend]

variable {verb : Verb} {company : String} {n : Amount} {a : Action} {log : List String}

theorem Operation.paid?_ofDividend (hverb : verb ∈ Verb.dividends) (company : String) (n : Amount) :
    (ofDividend verb company n).paid? verb company = some n := by
  simp only [Verb.dividends, List.mem_cons, List.not_mem_nil, or_false] at hverb
  obtain rfl | rfl := hverb <;> simp [ofDividend, paid?]

theorem Operation.eq_ofDividend_of_paid? {op : Operation} (h : op.paid? verb company = some n) :
    op = ofDividend verb company n := by
  unfold paid? at h
  split at h
  · split at h
    · next hsame =>
        obtain ⟨rfl, rfl⟩ := hsame
        rw [Option.some.inj h]
        rfl
    · cases h
  · split at h
    · next hsame =>
        obtain ⟨rfl, rfl⟩ := hsame
        rw [Option.some.inj h]
        rfl
    · cases h
  · cases h

theorem Operation.verb_ofDividend (hverb : verb ∈ Verb.dividends) (company : String) (n : Amount) :
    (ofDividend verb company n).verb = some verb := by
  simp only [Verb.dividends, List.mem_cons, List.not_mem_nil, or_false] at hverb
  obtain rfl | rfl := hverb <;> rfl

theorem Operation.ofDividend_inj {company' : String} {n' : Amount}
    (h : ofDividend verb company n = ofDividend verb company' n') : company = company' ∧ n = n' := by
  unfold ofDividend at h
  split at h <;> cases h <;> exact ⟨rfl, rfl⟩

/-- A dividend is never refused. -/
theorem Ledger.exists_run_ofDividend (l : Ledger) (verb : Verb) (company : String) (n : Amount) :
    ∃ p, l.run (.ofDividend verb company n) = .ok p := by
  unfold Operation.ofDividend
  split
  · exact ⟨_, rfl⟩
  · exact ⟨_, rfl⟩

/-! ## What a dividend pays -/

namespace Action

/-- The amount that a dividend pays, `last` being that of the dividend before it: `PREV` repeats it,
a number is paid as it is, and any other word pays nothing. -/
def amountUsed (a : Action) (last : Amount) : Amount :=
  if a.refersToPrevious then last else if a.object.isSome then 0 else a.quantity.getD 0

/-- A dividend asks for the payment of the amount that it uses, the last amount being looked up in
the log. -/
theorem operation_dividend (hverb : verb ∈ Verb.dividends) (ha : a.verb = some verb)
    (hsubject : a.subject = some company) (hamount : a.object = none → a.quantity ≠ none) :
    a.operation log =
      .ok (.ofDividend verb company (a.amountUsed ((previousAmount log company verb).getD 0))) := by
  have hneed : a.needSubject = .ok company := by rw [needSubject, hsubject]
  have hused : dividendAmount log verb a =
      .ok (a.amountUsed ((previousAmount log company verb).getD 0)) := by
    unfold dividendAmount amountUsed
    rw [hneed, ok_bind]
    split
    · rfl
    · split
      · rfl
      · next hobject =>
          obtain ⟨n, hn⟩ := Option.ne_none_iff_exists'.1 (hamount (by simpa using hobject))
          rw [needQuantity, hn]
          rfl
  simp only [Verb.dividends, List.mem_cons, List.not_mem_nil, or_false] at hverb
  unfold operation
  obtain rfl | rfl := hverb <;>
  · rw [ha]
    dsimp only
    rw [hused, ok_bind, hneed]
    rfl

/-- Only a dividend of the company asks for one. -/
theorem subject_of_operation_eq_ofDividend (hverb : verb ∈ Verb.dividends)
    (h : a.operation log = .ok (.ofDividend verb company n)) :
    a.verb = some verb ∧ a.subject = some company := by
  have ha : a.verb = some verb :=
    (verb_eq_of_operation h).trans (Operation.verb_ofDividend hverb company n)
  refine ⟨ha, ?_⟩
  unfold operation at h
  simp only [Verb.dividends, List.mem_cons, List.not_mem_nil, or_false] at hverb
  rw [ha] at h
  obtain rfl | rfl := hverb
  all_goals
    obtain ⟨_, -, h⟩ := bind_eq_ok.1 h
    obtain ⟨subject, hsubject, h⟩ := bind_eq_ok.1 h
    cases h
    unfold needSubject at hsubject
    split at hsubject
    · next s hs => rw [hs, Except.ok.inj hsubject]
    · cases hsubject

/-! ## Lines with dividends -/

/-- The amount that the word in its place stands for in a dividend, `last` being that of the dividend
before it. -/
def amountMeant (word : String) (last : Amount) : Amount :=
  match Amount.read? word with
  | some n => n
  | none => if isPrevious (Text.upper word) then last else 0

/-- How a line of three words with a dividend in the middle is read. -/
theorem read_dividend {line subject word amount : String} (hverb : verb ∈ Verb.dividends)
    (hline : Text.words (commandPart line) = [subject, word, amount])
    (hword : Keyword.find Keyword.binary word = some verb) :
    (read line).verb = some verb ∧ (read line).subject = some (Text.upper subject) ∧
      ((read line).object = none → (read line).quantity ≠ none) ∧
      ∀ last, (read line).amountUsed last = amountMeant amount last := by
  rw [read_eq, hline]
  simp only [ofWords, ofBinary, hword, amountMeant]
  cases Amount.read? amount with
  | some n => exact ⟨rfl, rfl, fun _ => Option.some_ne_none n, fun _ => rfl⟩
  | none =>
      simp only [Verb.dividends, List.mem_cons, List.not_mem_nil, or_false] at hverb
      obtain rfl | rfl := hverb
      all_goals
        refine ⟨rfl, rfl, fun hobject => absurd hobject (Option.some_ne_none _), fun last => ?_⟩
        simp only [amountUsed, refersToPrevious, Option.any_some, Option.isSome_some, if_true]

/-- A dividend has a name for its company and a number, or a word for the amount. -/
theorem Logged.dividend_cases (h : Logged a) (hverb : verb ∈ Verb.dividends)
    (ha : a.verb = some verb) :
    ∃ subject, a.subject = some subject ∧ IsName subject ∧
      ((∃ n : Amount, n.Readable ∧ a.object = none ∧ a.quantity = some n) ∨
        ∃ word, a.object = some word) := by
  cases h with
  | @amount _ subject n note _ hsubject hn => exact ⟨subject, rfl, hsubject, .inl ⟨n, hn, rfl, rfl⟩⟩
  | @dividendWord _ subject word note _ hsubject => exact ⟨subject, rfl, hsubject, .inr ⟨word, rfl⟩⟩
  | name hverb' hobject =>
      have hother : ∀ v ∈ [Verb.close, .nextRound, .rounding], v ∉ Verb.dividends := by decide
      obtain rfl := Option.some.inj ha
      exact absurd hverb (hother _ hverb')
  | _ =>
      obtain rfl := Option.some.inj ha
      simp [Verb.dividends] at hverb

/-! ## Entries of dividends -/

/-- A dividend without a word has a number. -/
theorem Logged.quantity_ne_none (h : Logged a) (hverb : verb ∈ Verb.dividends)
    (ha : a.verb = some verb) (hobject : a.object = none) : a.quantity ≠ none := by
  obtain ⟨-, -, -, ⟨n, -, -, hquantity⟩ | ⟨word, hword⟩⟩ := h.dividend_cases hverb ha
  · simp [hquantity]
  · rw [hobject] at hword
    cases hword

/-- The amount of a dividend is one word of its entry, which is a number unless it is `PREV`. -/
theorem Logged.read?_dividendToken (h : Logged a) (hverb : verb ∈ Verb.dividends)
    (ha : a.verb = some verb) :
    IsWord a.dividendToken ∧ Amount.read? a.dividendToken =
      if a.refersToPrevious then none else some (a.amountUsed 0) := by
  have hprevious : IsWord previousWord ∧ Amount.read? previousWord = none := by decide
  have hzero : IsWord "0" ∧ Amount.read? "0" = some 0 := by decide
  obtain ⟨-, -, -, ⟨n, hn, hobject, hquantity⟩ | ⟨word, hobject⟩⟩ := h.dividend_cases hverb ha
  · simp only [dividendToken, refersToPrevious, amountUsed, hobject, hquantity, Option.any_none,
      Option.isSome_none, Option.getD_some, Bool.false_eq_true, if_false]
    exact ⟨Amount.isWord_text n, Amount.read?_text hn⟩
  · simp only [dividendToken, refersToPrevious, amountUsed, hobject, Option.any_some,
      Option.isSome_some, if_true]
    split
    · exact hprevious
    · exact hzero

/-- What the log has for the company in the entry of a dividend. -/
theorem Logged.dividendIn_entry (h : Logged a) (hnote : ∀ c ∈ a.comment, IsNote c)
    (hverb : verb ∈ Verb.dividends) (ha : a.verb = some verb) (hsubject : a.subject = some company) :
    ∃ e, a.entry = some e ∧
      dividendIn company verb e = if a.refersToPrevious then none else some (a.amountUsed 0) := by
  obtain ⟨htoken, hread⟩ := h.read?_dividendToken hverb ha
  obtain ⟨subject, hsubject', hname, -⟩ := h.dividend_cases hverb ha
  obtain rfl := Option.some.inj (hsubject.symm.trans hsubject')
  have hwords : verb.isLogged ∧ IsWord verb.word ∧
      a.entryWords verb = [company, verb.word, a.dividendToken] := by
    simp only [Verb.dividends, List.mem_cons, List.not_mem_nil, or_false] at hverb
    obtain rfl | rfl := hverb
    · exact ⟨rfl, by decide, by simp only [entryWords, hsubject, Option.getD_some]⟩
    · exact ⟨rfl, by decide, by simp only [entryWords, hsubject, Option.getD_some]⟩
  obtain ⟨hlogged, hword, hentry⟩ := hwords
  have hall : ∀ w ∈ a.entryWords verb, IsWord w := by
    rw [hentry]
    simp only [List.forall_mem_cons]
    exact ⟨hname.toIsWord, hword, htoken, List.forall_mem_nil _⟩
  obtain ⟨e, he, hcommand, -⟩ := words_entry ha hlogged hall hnote
  refine ⟨e, he, ?_⟩
  rw [dividendIn, hcommand, hentry]
  dsimp only
  rw [if_pos ⟨rfl, rfl⟩, hread]

/-- An entry in which the log has an amount for a company in capitals is read as that dividend. -/
theorem operation_of_dividendIn {entry : String} (hverb : verb ∈ Verb.dividends)
    (hcompany : Text.upper company = company) (h : dividendIn company verb entry = some n)
    (log : List String) : (read entry).operation log = .ok (.ofDividend verb company n) := by
  obtain ⟨-, hfind⟩ := find_word.2.1 verb
    (List.mem_append_left [Verb.value, .cash, .float, .income] hverb)
  unfold dividendIn at h
  split at h
  · next subject word amount hcommand =>
      split at h
      · next hsame =>
          obtain ⟨rfl, rfl⟩ := hsame
          have hread : read entry =
              { verb := some verb, subject := some subject, quantity := some n,
                comment := commentPart entry } := by
            rw [read_eq, hcommand]
            simp only [ofWords, ofBinary, hfind, h, hcompany]
          have hused : (read entry).amountUsed ((previousAmount log subject verb).getD 0) = n := by
            rw [hread]
            rfl
          have hasked : (read entry).operation log = .ok (.ofDividend verb subject
              ((read entry).amountUsed ((previousAmount log subject verb).getD 0))) :=
            operation_dividend hverb (by rw [hread]) (by rw [hread])
              (by rw [hread]; exact fun _ => Option.some_ne_none n)
          rw [hasked, hused]
      · cases h
  · cases h

end Action

/-! ## Histories -/

/-- The entries of a log, each with the operation that was carried out when it was written. -/
abbrev History := List (String × Operation)

namespace History

/-- The entries by themselves. -/
def entries (h : History) : List String := h.map (·.1)

/-- The amount of the last dividend of a company; zero when there is none. -/
def lastPaid (h : History) (verb : Verb) (company : String) : Amount :=
  (h.reverse.findSome? fun past => past.2.paid? verb company).getD 0

/-- An entry behind a log asks for its operation, bank sizes set aside, and as far as dividends are
searched for it has the amount that was paid; `PREV` has none and leaves the one before it. -/
structure EntryTells (log : List String) (entry : String) (op : Operation) : Prop where
  resolves : op.verb ≠ some .bankSize → (Action.read entry).operation log = .ok op
  amount : ∀ verb ∈ Verb.dividends, ∀ company, Text.upper company = company →
    (previousAmount (log ++ [entry]) company verb).getD 0 =
      (op.paid? verb company).getD ((previousAmount log company verb).getD 0)

/-- Every entry tells its operation to those who have the entries before it. -/
def Tells (h : History) : Prop :=
  ∀ before entry op after, h = before ++ (entry, op) :: after → EntryTells (entries before) entry op

variable {h : History} {entry : String} {op : Operation}

@[simp] theorem entries_concat (h : History) (entry : String) (op : Operation) :
    entries (h ++ [(entry, op)]) = entries h ++ [entry] := by
  simp [entries]

theorem lastPaid_concat (h : History) (entry : String) (op : Operation) (verb : Verb)
    (company : String) :
    lastPaid (h ++ [(entry, op)]) verb company =
      (op.paid? verb company).getD (lastPaid h verb company) := by
  simp only [lastPaid, List.reverse_append, List.reverse_singleton, List.singleton_append,
    List.findSome?_cons]
  cases op.paid? verb company <;> rfl

theorem tells_nil : Tells [] := by
  intro before entry op after hsplit
  simp at hsplit

/-- A history that has begun to be told goes on with any entry that tells its operation. -/
theorem Tells.concat (hpast : Tells h) (hentry : EntryTells (entries h) entry op) :
    Tells (h ++ [(entry, op)]) := by
  intro before entry' op' after hsplit
  obtain rfl | ⟨earlier, last, rfl⟩ := List.eq_nil_or_concat after
  · obtain ⟨rfl, hlast⟩ := List.append_inj' hsplit rfl
    obtain ⟨rfl, rfl⟩ := Prod.mk.inj (List.singleton_inj.1 hlast)
    exact hentry
  · rw [List.concat_eq_append, ← List.cons_append, ← List.append_assoc] at hsplit
    exact hpast before entry' op' earlier (List.append_inj' hsplit rfl).1

/-- The beginning of a history tells what it told before. -/
theorem Tells.beginning {later : History} (hall : Tells (h ++ later)) : Tells h := by
  rintro before entry op after rfl
  exact hall before entry op (after ++ later) (by simp)

/-- **The log is searched for what was paid.** -/
theorem Tells.previousAmount_eq (hall : Tells h) {verb : Verb} (hverb : verb ∈ Verb.dividends)
    {company : String} (hcompany : Text.upper company = company) :
    (previousAmount (entries h) company verb).getD 0 = lastPaid h verb company := by
  induction h using List.reverseRecOn with
  | nil => rfl
  | append_singleton past last ih =>
      obtain ⟨entry, op⟩ := last
      have hentry : EntryTells (entries past) entry op := hall past entry op [] rfl
      rw [entries_concat, hentry.amount verb hverb company hcompany, lastPaid_concat, ih hall.beginning]

end History

open History (EntryTells Tells lastPaid)

/-! ## Entries that are written -/

theorem previousAmount_concat (log : List String) (entry company : String) (verb : Verb) :
    (previousAmount (log ++ [entry]) company verb).getD 0 =
      (dividendIn company verb entry).getD ((previousAmount log company verb).getD 0) := by
  simp only [previousAmount, List.reverse_append, List.reverse_singleton, List.singleton_append,
    List.findSome?_cons]
  cases dividendIn company verb entry <;> rfl

/-- The entry of an accepted command tells the operation that the command asked for. -/
theorem Action.Logged.entryTells {op : Operation} (h : Logged a)
    (hnote : ∀ c ∈ a.comment, IsNote c) (hop : a.operation log = .ok op) :
    ∃ e, a.entry = some e ∧ EntryTells log e op := by
  have hverb := verb_eq_of_operation hop
  -- The entry, and that it asks for the same unless it sets a bank size.
  obtain ⟨e, he, hread, hresolves⟩ : ∃ e, a.entry = some e ∧ (read e).verb = a.verb ∧
      (op.verb ≠ some .bankSize → (read e).operation log = .ok op) := by
    by_cases hbank : a.verb = some .bankSize
    · obtain ⟨e, he, hread⟩ := h.readsAs_bankSize hnote hbank
      refine ⟨e, he, ?_, fun hne => absurd (hverb.symm.trans hbank) hne⟩
      rw [hread]
      split
      · exact hbank.symm
      · rfl
    · obtain ⟨b, ⟨e, he, rfl⟩, hsame⟩ := h.exists_reading hnote hbank
      have hop' := (hsame log).trans hop
      exact ⟨e, he, (verb_eq_of_operation hop').trans hverb.symm, fun _ => hop'⟩
  refine ⟨e, he, hresolves, fun verb hdividend company hcompany => ?_⟩
  rw [previousAmount_concat]
  cases hpaid : op.paid? verb company with
  | some n =>
      obtain rfl := Operation.eq_ofDividend_of_paid? hpaid
      obtain ⟨ha, hsubject⟩ := subject_of_operation_eq_ofDividend hdividend hop
      obtain ⟨e', he', hin⟩ := h.dividendIn_entry hnote hdividend ha hsubject
      obtain rfl := Option.some.inj (he.symm.trans he')
      have hasked : a.operation log = .ok (.ofDividend verb company
          (a.amountUsed ((previousAmount log company verb).getD 0))) :=
        operation_dividend hdividend ha hsubject (h.quantity_ne_none hdividend ha)
      rw [hop] at hasked
      obtain ⟨-, rfl⟩ := Operation.ofDividend_inj (Except.ok.inj hasked)
      rw [hin, amountUsed, amountUsed]
      split <;> rfl
  | none =>
      have hnone : dividendIn company verb e = none := by
        rw [Option.eq_none_iff_forall_ne_some]
        intro n hn
        have hasked := operation_of_dividendIn hdividend hcompany hn log
        have hsame : op.verb = some verb := by
          rw [← hverb, ← hread, verb_eq_of_operation hasked, Operation.verb_ofDividend hdividend]
        have hother : op.verb ≠ some .bankSize := by
          rintro hbank
          obtain rfl := Option.some.inj (hsame.symm.trans hbank)
          simp [Verb.dividends] at hdividend
        rw [hresolves hother] at hasked
        obtain rfl := Except.ok.inj hasked
        rw [Operation.paid?_ofDividend hdividend] at hpaid
        cases hpaid
      rw [hnone]

/-! ## Sessions with their histories -/

namespace Session

/-- The history of a session after a move, `h` being the history before it. -/
def record (s : Session) (h : History) : Move → History
  | .line text =>
    match s.perform (Action.read text), (Action.read text).entry,
        (Action.read text).operation s.events with
    | .ok _, some entry, .ok op => h ++ [(entry, op)]
    | _, _, _ => h
  | .undo =>
    match s.undo with
    | .ok _ => h.dropLast
    | .error _ => h

/-- The history of a session after moves in order. -/
def recordAll : Session → History → List Move → History
  | _, h, [] => h
  | s, h, m :: ms => recordAll (s.move m) (s.record h m) ms

/-- The history has the log of the session, and its entries tell their operations. -/
structure Recorded (s : Session) (h : History) : Prop where
  events : s.events = History.entries h
  tells : Tells h

variable {s : Session} {h : History} {p : Posting}

/-- What is accepted is carried out. -/
theorem perform_of_apply (happly : s.ledger.apply s.events a = .ok p) :
    s.perform a = .ok (s.logged a p, p.text) :=
  perform_eq_ok.2 ⟨p, happly, rfl, rfl⟩

/-- What a line that is carried out adds to the log and to the history. -/
theorem record_of_apply (h : History) {text : String}
    (happly : s.ledger.apply s.events (Action.read text) = .ok p) :
    ∃ e op, (Action.read text).entry = some e ∧
      (Action.read text).operation s.events = .ok op ∧ s.ledger.run op = .ok p ∧
      EntryTells s.events e op ∧ s.record h (.line text) = h ++ [(e, op)] := by
  obtain ⟨op, hop, hrun⟩ := Ledger.exists_operation_of_apply happly
  have hlogged := Action.logged_of_apply happly
  obtain ⟨e, he, htells⟩ := hlogged.entryTells (fun c hc => Action.isNote_of_read hc) hop
  refine ⟨e, op, he, hop, hrun, htells, ?_⟩
  simp only [record, perform_of_apply happly, he, hop]

/-- **Every move keeps the history true.** -/
theorem Recorded.move (hs : s.Recorded h) (m : Move) : (s.move m).Recorded (s.record h m) := by
  cases m with
  | line text =>
      cases happly : s.ledger.apply s.events (Action.read text) with
      | error e =>
          have hperform : s.perform (Action.read text) = .error e := by
            simp only [perform, happly]
          simp only [Session.move, record, hperform]
          exact hs
      | ok p =>
          obtain ⟨e, op, he, -, -, htells, hrecord⟩ := record_of_apply h happly
          rw [hrecord]
          simp only [Session.move, perform_of_apply happly]
          refine ⟨?_, hs.tells.concat (hs.events ▸ htells)⟩
          rw [History.entries_concat, ← hs.events, logged, he]
          rfl
  | undo =>
      simp only [Session.move, record]
      cases hundo : s.undo with
      | error e => exact hs
      | ok result =>
          obtain ⟨earlier, hevents, hnext⟩ := undo_eq_ok.1 hundo
          dsimp only
          rw [hnext]
          obtain rfl | ⟨past, last, rfl⟩ := List.eq_nil_or_concat h
          · rw [hs.events] at hevents
            simp [History.entries] at hevents
          · obtain ⟨entry, op⟩ := last
            have hlog := hs.events
            have hall := hs.tells
            rw [List.concat_eq_append] at hlog hall ⊢
            rw [hevents, History.entries_concat] at hlog
            rw [List.dropLast_concat]
            refine ⟨?_, hall.beginning⟩
            rw [events_replay]
            exact (List.append_inj' hlog rfl).1

theorem Recorded.moveAll (hs : s.Recorded h) (ms : List Move) :
    (s.moveAll ms).Recorded (recordAll s h ms) := by
  induction ms generalizing s h with
  | nil => exact hs
  | cons m ms ih => exact ih (hs.move m)

/-- A line for a dividend is always carried out, and pays what its amount stands for. -/
theorem Recorded.dividend (hs : s.Recorded h) {line subject word amount : String} {verb : Verb}
    (hverb : verb ∈ Verb.dividends)
    (hline : Text.words (Action.commandPart line) = [subject, word, amount])
    (hword : Keyword.find Keyword.binary word = some verb) :
    let company := Text.upper subject
    let op := Operation.ofDividend verb company
      (Action.amountMeant amount (lastPaid h verb company))
    ∃ p e, s.ledger.run op = .ok p ∧
      s.perform (Action.read line) = .ok (s.logged (Action.read line) p, p.text) ∧
      s.record h (.line line) = h ++ [(e, op)] := by
  intro company op
  obtain ⟨ha, hsubject, hamount, hused⟩ := Action.read_dividend hverb hline hword
  have hop : (Action.read line).operation s.events = .ok op := by
    rw [Action.operation_dividend hverb ha hsubject hamount, hused, hs.events,
      hs.tells.previousAmount_eq hverb (Text.upper_upper subject)]
  obtain ⟨p, hrun⟩ := s.ledger.exists_run_ofDividend verb company
    (Action.amountMeant amount (lastPaid h verb company))
  have happly : s.ledger.apply s.events (Action.read line) = .ok p := by
    rw [Ledger.apply_eq, hop]
    exact hrun
  obtain ⟨e, op', -, hop', -, -, hrecord⟩ := record_of_apply h happly
  obtain rfl := Except.ok.inj (hop.symm.trans hop')
  exact ⟨p, e, hrun, perform_of_apply happly, hrecord⟩

/-- An entry of a dividend is replayed to the payment that was made, whatever the log goes on
with. -/
theorem Recorded.replay_dividend (hs : s.Recorded h) {before after : History} {e company : String}
    {verb : Verb} {n : Amount} (hverb : verb ∈ Verb.dividends)
    (hsplit : h = before ++ (e, .ofDividend verb company n) :: after) (name currency : String) :
    (Action.read e).operation (History.entries before) = .ok (.ofDividend verb company n) ∧
      ∃ p, (replay name (History.entries before) currency).ledger.run
          (.ofDividend verb company n) = .ok p ∧
        (replay name (History.entries before ++ [e]) currency).ledger = p.ledger := by
  have hother : (Operation.ofDividend verb company n).verb ≠ some .bankSize := by
    rw [Operation.verb_ofDividend hverb]
    rintro hbank
    obtain rfl := Option.some.inj hbank
    simp [Verb.dividends] at hverb
  have hop := (hs.tells before e _ after hsplit).resolves hother
  obtain ⟨p, hrun⟩ := (replay name (History.entries before) currency).ledger.exists_run_ofDividend
    verb company n
  exact ⟨hop, p, hrun, replay_concat_ledger name currency hop hrun⟩

/-- **`PREV` repeats the last dividend**: after any moves, a line for a dividend pays what its amount
stands for, the last amount being that of the last dividend of the same company and kind that is
still logged; and each entry of a dividend pays the same again when the log is replayed. -/
theorem prev_repeats_last (name currency : String) (moves : List Move) :
    let s := (new name currency).moveAll moves
    let h := recordAll (new name currency) [] moves
    s.events = History.entries h ∧
    (∀ line subject word amount verb, verb ∈ Verb.dividends →
      Text.words (Action.commandPart line) = [subject, word, amount] →
      Keyword.find Keyword.binary word = some verb →
      let company := Text.upper subject
      let op := Operation.ofDividend verb company
        (Action.amountMeant amount (lastPaid h verb company))
      ∃ p e, s.ledger.run op = .ok p ∧
        s.perform (Action.read line) = .ok (s.logged (Action.read line) p, p.text) ∧
        s.record h (.line line) = h ++ [(e, op)]) ∧
    ∀ before e verb company n after, verb ∈ Verb.dividends →
      h = before ++ (e, Operation.ofDividend verb company n) :: after →
      (Action.read e).operation (History.entries before) = .ok (.ofDividend verb company n) ∧
        ∃ p, (replay name (History.entries before) currency).ledger.run
            (.ofDividend verb company n) = .ok p ∧
          (replay name (History.entries before ++ [e]) currency).ledger = p.ledger := by
  intro s h
  have hs : s.Recorded h := Recorded.moveAll ⟨rfl, History.tells_nil⟩ moves
  refine ⟨hs.events, ?_, ?_⟩
  · intro line subject word amount verb hverb hline hword
    exact hs.dividend hverb hline hword
  · intro before e verb company n after hverb hsplit
    exact hs.replay_dividend hverb hsplit name currency

/-- A dividend that was paid by `PREV` is repeated after the one behind it was taken back. -/
theorem prev_repeats_last_undone :
    let moves : List Move :=
      [.line "cr dividend 10", .line "cr halfdividend 60", .line "gt dividend prev",
        .line "cr pays pr # again", .line "cr dividend 30", .undo]
    let s := (new "test" "$").moveAll moves
    let h := recordAll (new "test" "$") [] moves
    s.events = ["CR dividend 10", "CR halfdividend 60", "GT dividend PREV",
        "CR dividend PREV # again"] ∧
      (∃ p e, s.ledger.run (.payDividends "CR" 10) = .ok p ∧
        s.perform (Action.read "Cr d PREV") = .ok (s.logged (Action.read "Cr d PREV") p, p.text) ∧
        s.record h (.line "Cr d PREV") = h ++ [(e, .payDividends "CR" 10)]) ∧
      (Action.read "CR dividend PREV # again").operation
          ["CR dividend 10", "CR halfdividend 60", "GT dividend PREV"] =
        .ok (.payDividends "CR" 10) := by
  intro moves s h
  obtain ⟨-, hlive, hreplayed⟩ := prev_repeats_last "test" "$" moves
  have hdividend : Verb.dividend ∈ Verb.dividends := by decide
  have hop : Operation.ofDividend .dividend (Text.upper "Cr")
      (Action.amountMeant "PREV" (lastPaid h .dividend (Text.upper "Cr"))) =
      .payDividends "CR" 10 := by
    decide +kernel
  have hline := hlive "Cr d PREV" "Cr" "d" "PREV" .dividend hdividend (by decide +kernel)
    (by decide +kernel)
  have hsplit : h =
      [("CR dividend 10", .payDividends "CR" 10), ("CR halfdividend 60", .payHalfDividends "CR" 60),
        ("GT dividend PREV", .payDividends "GT" 0)] ++
      ("CR dividend PREV # again", .payDividends "CR" 10) :: [] := by
    decide +kernel
  refine ⟨by decide +kernel, ?_, (hreplayed _ _ .dividend "CR" 10 [] hdividend hsplit).1⟩
  rw [← hop]
  exact hline

end Session
end ShareLedger
