import ShareLedger.Proofs.Entry
/-!
# Proofs.Decoding

What the log entry of a command keeps of the command.

1. The entry of an accepted line is read as the line's own command, in all seven fields, unless the
   line is a dividend or a bank size.
2. The entry of a dividend keeps everything but a word in place of the amount: its verb, company and
   comment are the same, and it is its own entry (`Action.Keeps`).
-/

namespace ShareLedger.Action

/-- The second action is the first one up to what an entry does not keep: it has the same verb,
subject and comment, and is written to a log in the same way. -/
structure Keeps (a b : Action) : Prop where
  verb : b.verb = a.verb
  subject : b.subject = a.subject
  comment : b.comment = a.comment
  entry : b.entry = a.entry

theorem Keeps.refl (a : Action) : a.Keeps a := ⟨rfl, rfl, rfl, rfl⟩

/-- A dividend with a word is written like the dividend that its entry is read as. -/
theorem keeps_dividendWord {verb : Verb} {subject : String} {note : Option String} (word : String)
    (hverb : verb ∈ [Verb.dividend, .halfDividend]) :
    Keeps
      { verb := some verb, subject := some subject, object := some word, quantity := some 1,
        comment := note }
      (if isPrevious word then
        { verb := some verb, subject := some subject, object := some previousWord,
          quantity := some 1, comment := note }
      else
        { verb := some verb, subject := some subject, quantity := some 0, comment := note }) := by
  have hprevious : isPrevious previousWord = true := by decide
  have hzero : Amount.text 0 = "0" := by decide
  by_cases hword : isPrevious word = true
  · have htoken (n : Amount) (w : String) (hw : isPrevious w = true) :
        dividendToken
          { verb := some verb, subject := some subject, object := some w, quantity := some n,
            comment := note } = previousWord := by
      simp [dividendToken, refersToPrevious, hw]
    rw [if_pos hword]
    refine ⟨rfl, rfl, rfl, ?_⟩
    simp only [List.mem_cons, List.not_mem_nil, or_false] at hverb
    obtain rfl | rfl := hverb <;>
      simp only [Action.entry, entryHead, htoken 1 _ hprevious, htoken 1 _ hword]
  · have hnumber :
        dividendToken
          { verb := some verb, subject := some subject, quantity := some 0, comment := note } =
          "0" := by
      simp [dividendToken, refersToPrevious, hzero]
    have hother :
        dividendToken
          { verb := some verb, subject := some subject, object := some word, quantity := some 1,
            comment := note } = "0" := by
      simp [dividendToken, refersToPrevious, hword]
    rw [if_neg hword]
    refine ⟨rfl, rfl, rfl, ?_⟩
    simp only [List.mem_cons, List.not_mem_nil, or_false] at hverb
    obtain rfl | rfl := hverb <;>
      simp only [Action.entry, entryHead, hnumber, hother]

/-- **The entry of a command keeps the command**, bank sizes set aside: what it is read as is
written in the same way, and only the word of a dividend can get lost. -/
theorem Logged.exists_keeps {a : Action} (h : Logged a) (hnote : ∀ c ∈ a.comment, IsNote c)
    (hbank : a.verb ≠ some .bankSize) :
    ∃ b, a.ReadsAs b ∧ a.Keeps b ∧
      (a.verb ≠ some .dividend → a.verb ≠ some .halfDividend → b = a) := by
  by_cases hword : (a.verb = some .dividend ∨ a.verb = some .halfDividend) ∧ a.object ≠ none
  · obtain ⟨hdividend, hobject⟩ := hword
    cases h with
    | dividendWord hverb hsubject =>
        refine ⟨_, readsAs_dividendWord _ hverb hsubject hnote, keeps_dividendWord _ hverb, ?_⟩
        intro hne hne'
        obtain hd | hd := hdividend
        · exact absurd hd hne
        · exact absurd hd hne'
    | amount | bankSize | companyCredits | comment => exact absurd rfl hobject
    | name hverb hobject =>
        simp only [List.mem_cons, List.not_mem_nil, or_false] at hverb
        obtain rfl | rfl | rfl := hverb <;> obtain hd | hd := hdividend <;> cases hd
    | buy | sell | give | bankSymbol => obtain hd | hd := hdividend <;> cases hd
  · have hnumber : a.verb = some .dividend ∨ a.verb = some .halfDividend → a.object = none := by
      intro hdividend
      by_contra hobject
      exact hword ⟨hdividend, hobject⟩
    exact ⟨a, h.readsAs_self hnote hnumber hbank, Keeps.refl a, fun _ _ => rfl⟩

/-- The verbs of lines whose entries say all that the lines say. -/
def exactVerbs : List Verb :=
  [.buy, .sell, .give, .value, .float, .cash, .income, .close, .nextRound, .rounding,
    .companyCredits, .comment]

/-- **The log entry of an accepted line stands for the line**: it is read as the very action of the
line, and the entry of a dividend as a dividend of the same company with the same comment, whose
entry it is. -/
theorem read_entry_of_apply {line : String} {l : Ledger} {log : List String} {p : Posting}
    (h : l.apply log (read line) = .ok p) :
    (∀ verb ∈ exactVerbs, (read line).verb = some verb →
      ∃ e, (read line).entry = some e ∧ read e = read line) ∧
    ((read line).verb = some .dividend ∨ (read line).verb = some .halfDividend →
      ∃ e, (read line).entry = some e ∧ (read e).verb = (read line).verb ∧
        (read e).subject = (read line).subject ∧ (read e).comment = (read line).comment ∧
        (read e).entry = some e) := by
  have hlogged := logged_of_apply h
  have hnote : ∀ c ∈ (read line).comment, IsNote c := fun c hc => isNote_of_read hc
  refine ⟨fun verb hmem hverb => ?_, fun hdividend => ?_⟩
  · have hexact : verb ≠ .bankSize ∧ verb ≠ .dividend ∧ verb ≠ .halfDividend := by
      refine ⟨?_, ?_, ?_⟩ <;> rintro rfl <;> exact absurd hmem (by decide)
    obtain ⟨hbank, hdividend, hhalf⟩ := hexact
    obtain ⟨b, ⟨e, hentry, hread⟩, -, hsame⟩ := hlogged.exists_keeps hnote (by simpa [hverb])
    have hb : b = read line := hsame (by simpa [hverb]) (by simpa [hverb])
    exact ⟨e, hentry, hread.trans hb⟩
  · have hbank : (read line).verb ≠ some .bankSize := by
      obtain hd | hd := hdividend <;> rw [hd] <;> nofun
    obtain ⟨b, ⟨e, hentry, rfl⟩, hkeeps, -⟩ := hlogged.exists_keeps hnote hbank
    exact ⟨e, hentry, hkeeps.verb, hkeeps.subject, hkeeps.comment, hkeeps.entry.trans hentry⟩

/-- A purchase whose company is named like a price and whose seller like the word in front of a
seller, and a dividend that pays nothing to a name that grows in capitals. -/
theorem read_entry_of_apply_misleading :
    let purchase := "10 b 5 @3 -4 from from junk # a # b"
    let dividend := "ß pays nothing # 1 # 2"
    (∃ p, (Ledger.empty "$").apply [] (read purchase) = .ok p) ∧
      read "10 buy 5 @3 @-4 from FROM # a # b" = read purchase ∧
      (∃ p, (Ledger.empty "$").apply [] (read dividend) = .ok p) ∧
      (read dividend).entry = some "SS dividend 0 # 1 # 2" ∧
      (read "SS dividend 0 # 1 # 2").verb = (read dividend).verb ∧
      (read "SS dividend 0 # 1 # 2").subject = (read dividend).subject ∧
      (read "SS dividend 0 # 1 # 2").comment = (read dividend).comment ∧
      (read "SS dividend 0 # 1 # 2").entry = some "SS dividend 0 # 1 # 2" := by
  intro purchase dividend
  have hpurchase : read purchase =
      { verb := some .buy, subject := some "10", object := some "@3", quantity := some 5,
        price := -4, source := some "FROM", comment := some "a # b" } := by
    decide +kernel
  have hdividend : read dividend =
      { verb := some .dividend, subject := some "SS", object := some "NOTHING",
        quantity := some 1, comment := some "1 # 2" } := by
    decide +kernel
  have hbuy : (Ledger.empty "$").apply [] (read purchase) =
      .ok ((Ledger.empty "$").buyShares "10" "@3" 5 (-4) (some "FROM")) := by
    rw [hpurchase]
    rfl
  have hpays : (Ledger.empty "$").apply [] (read dividend) =
      .ok ((Ledger.empty "$").payDividends "SS" 0) := by
    rw [hdividend]
    rfl
  obtain ⟨e, he, hread⟩ := (read_entry_of_apply hbuy).1 .buy (by decide) (by rw [hpurchase])
  obtain ⟨e', he', hverb, hsubject, hcomment, hentry⟩ :=
    (read_entry_of_apply hpays).2 (.inl (by rw [hdividend]))
  have hbuyEntry : (read purchase).entry = some "10 buy 5 @3 @-4 from FROM # a # b" := by
    rw [hpurchase]
    decide +kernel
  have hpaysEntry : (read dividend).entry = some "SS dividend 0 # 1 # 2" := by
    rw [hdividend]
    decide +kernel
  obtain rfl := Option.some.inj (he.symm.trans hbuyEntry)
  obtain rfl := Option.some.inj (he'.symm.trans hpaysEntry)
  exact ⟨⟨_, hbuy⟩, hread, ⟨_, hpays⟩, hpaysEntry, hverb, hsubject, hcomment, hentry⟩

end ShareLedger.Action
