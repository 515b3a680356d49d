import ShareLedger.Proofs.Accepted
/-!
# Proofs.Entry

The log entry of an accepted command, read again.

1. The entry of a command is read as the command itself (`Action.Logged.readsAs_self`), with two
   exceptions.
2. The word of a dividend is not kept: `PREV` is written out, any other word becomes a zero.  What
   is asked for is the same all the same (`Action.operation_dividendWord`).
3. The symbol of a bank size stands directly in front of the size.  When the two are an amount
   together, the entry is read as that amount without a symbol (`Action.misreading`).
-/

namespace ShareLedger.Action

open Amount (Readable)
open Text (IsWord)

variable {note : Option String}

/-! ## Reading entries -/

/-- The entry of the first action is read as the second one. -/
def ReadsAs (a b : Action) : Prop := ∃ e, a.entry = some e ∧ read e = b

/-- Reading an entry is reading its words. -/
theorem readsAs_ofWords {a b : Action} {verb : Verb} (hnote : ∀ c ∈ a.comment, IsNote c)
    (hverb : a.verb = some verb) (hlogged : verb.isLogged)
    (hwords : ∀ w ∈ a.entryWords verb, IsWord w)
    (hread : { ofWords a.comment.isSome (a.entryWords verb) with comment := a.comment } = b) :
    a.ReadsAs b := by
  obtain ⟨e, he, hwhole⟩ := read_entry_eq_ofWords hverb hlogged hwords hnote
  exact ⟨e, he, hwhole.trans hread⟩

/-- The words of entries stand for the same verbs in the lines that the entries are. -/
theorem find_word :
    (∀ verb ∈ [Verb.buy, .sell, .give],
      IsWord verb.word ∧ Keyword.find Keyword.variadic verb.word = some verb) ∧
    (∀ verb ∈ [Verb.dividend, .halfDividend, .value, .cash, .float, .income],
      IsWord verb.word ∧ Keyword.find Keyword.binary verb.word = some verb) ∧
    (∀ verb ∈ [Verb.close, .nextRound, .rounding, .bankSize],
      IsWord verb.word ∧ Keyword.find Keyword.unary verb.word = some verb) ∧
    IsWord Verb.companyCredits.word ∧
      Keyword.find Keyword.queries Verb.companyCredits.word = some .companyCredits := by
  decide +kernel

theorem readPrice?_text {n : Amount} (h : n.Readable) : readPrice? ("@" ++ n.text) = some n := by
  have hchars : ("@" ++ n.text).toList = '@' :: n.text.toList := by simp
  rw [readPrice?, hchars]
  exact Amount.readChars_text h

/-- A price is read as it is written, and what follows it is left. -/
theorem takeOr_priceWords {price : Amount} {rest : List String} (hprice : price.Readable)
    (hrest : ∀ w ∈ rest.head?, readPrice? w = none) :
    takeOr readPrice? 0 (priceWords price ++ rest) = (price, rest) := by
  unfold priceWords
  split
  · next hzero =>
      rw [List.nil_append, hzero]
      cases rest with
      | nil => rfl
      | cons w ws => rw [takeOr, hrest w rfl]
  · rw [List.singleton_append, takeOr, readPrice?_text hprice]

/-- A seller is read as it is written. -/
theorem head?_sourceWords {source : Option String} (h : ∀ s ∈ source, IsName s) :
    (skipIf (Text.sameUpToAsciiCase · "from") (sourceWords source)).head?.map Text.upper =
      source := by
  cases source with
  | none => rfl
  | some seller =>
      have hfrom : Text.sameUpToAsciiCase "from" "from" = true := by decide
      rw [sourceWords, skipIf, if_pos hfrom, List.head?_cons, Option.map_some,
        (h seller rfl).upper_eq]

theorem isWord_priceWords {price : Amount} : ∀ w ∈ priceWords price, IsWord w := by
  have hat : IsWord "@" := by decide
  intro w hw
  unfold priceWords at hw
  split at hw
  · cases hw
  · rw [List.mem_singleton.1 hw]
    exact hat.append (Amount.isWord_text price)

theorem isWord_sourceWords {source : Option String} (h : ∀ s ∈ source, IsName s) :
    ∀ w ∈ sourceWords source, IsWord w := by
  have hfrom : IsWord "from" := by decide
  cases source with
  | none => exact List.forall_mem_nil _
  | some seller => simpa [sourceWords] using ⟨hfrom, (h seller rfl).toIsWord⟩

/-- A trade is read as its entry writes it. -/
theorem ofTrade_words {company : String} {n price : Amount} {source : Option String}
    (hcompany : IsName company) (hn : n.Readable) (hprice : price.Readable)
    (hsource : ∀ s ∈ source, IsName s) (verb : Verb) (subject : String) :
    ofTrade verb subject (n.text :: company :: (priceWords price ++ sourceWords source)) =
      { verb := some verb, subject := some subject, object := some company, quantity := some n,
        price, source := if verb = .buy then source else none } := by
  have hquantity (rest : List String) :
      takeOr Amount.read? 1 (n.text :: company :: rest) = (n, company :: rest) := by
    rw [takeOr, Amount.read?_text hn]
  have hpriced : takeOr readPrice? 0 (priceWords price ++ sourceWords source) =
      (price, sourceWords source) := by
    have hfrom : readPrice? "from" = none := by decide
    apply takeOr_priceWords hprice
    cases source with
    | none =>
        intro w hw
        cases hw
    | some seller => simpa [sourceWords] using hfrom
  rw [ofTrade_eq]
  dsimp only
  rw [hquantity, List.tail_cons, hpriced, head?_sourceWords hsource, List.head?_cons,
    Option.map_some, hcompany.upper_eq]

/-- The entry of a verb with a subject and an amount. -/
theorem entryWords_amount {verb : Verb}
    (h : verb ∈ [Verb.dividend, .halfDividend, .value, .cash, .float, .income]) (subject : String)
    (n : Amount) (note : Option String) :
    verb.isLogged = true ∧
      entryWords
        { verb := some verb, subject := some subject, quantity := some n, comment := note } verb =
        [subject, verb.word, n.text] := by
  simp only [List.mem_cons, List.not_mem_nil, or_false] at h
  obtain rfl | rfl | rfl | rfl | rfl | rfl := h <;> exact ⟨rfl, rfl⟩

/-- The entry of a verb with a name. -/
theorem entryWords_name {verb : Verb} (h : verb ∈ [Verb.close, .nextRound, .rounding])
    (object : String) (note : Option String) :
    verb.isLogged = true ∧
      entryWords { verb := some verb, object := some object, comment := note } verb =
        [verb.word, object] ∧
      (Keyword.find Keyword.unary verb.word = some verb →
        ofUnary verb.word object = { verb := some verb, object := some (Text.upper object) }) := by
  simp only [List.mem_cons, List.not_mem_nil, or_false] at h
  unfold ofUnary
  obtain rfl | rfl | rfl := h <;> exact ⟨rfl, rfl, fun hfind => by rw [hfind]⟩

/-- **A command is read back** from its entry, dividends with words and bank sizes set aside. -/
theorem Logged.readsAs_self {a : Action} (h : Logged a) (hnote : ∀ c ∈ a.comment, IsNote c)
    (hdividend : a.verb = some .dividend ∨ a.verb = some .halfDividend → a.object = none)
    (hbank : a.verb ≠ some .bankSize) : a.ReadsAs a := by
  obtain ⟨hvariadic, hbinary, hunary, hcredits, hquery⟩ := find_word
  cases h with
  | @buy subject company n price source note hsubject hcompany hn hprice hsource =>
      obtain ⟨hword, hfind⟩ := hvariadic .buy (by simp)
      refine readsAs_ofWords hnote rfl rfl ?_ ?_
      · simp only [entryWords, List.forall_mem_cons, List.forall_mem_append]
        exact ⟨hsubject.toIsWord, hword, Amount.isWord_text n, hcompany.toIsWord,
          isWord_priceWords, isWord_sourceWords hsource⟩
      · simp only [entryWords, ofWords, Option.getD_some, ofVariadic, hfind, hsubject.upper_eq,
          ofTrade_words hcompany hn hprice hsource, if_pos]
  | @sell subject company n price note hsubject hcompany hn hprice =>
      obtain ⟨hword, hfind⟩ := hvariadic .sell (by simp)
      refine readsAs_ofWords hnote rfl rfl ?_ ?_
      · simp only [entryWords, List.forall_mem_cons]
        exact ⟨hsubject.toIsWord, hword, Amount.isWord_text n, hcompany.toIsWord,
          isWord_priceWords⟩
      · have hnobody : ∀ s ∈ (none : Option String), IsName s := by
          intro s hs
          cases hs
        have hread := ofTrade_words hcompany hn hprice hnobody .sell subject
        simp only [sourceWords, List.append_nil] at hread
        simp only [entryWords, ofWords, Option.getD_some, ofVariadic, hfind, hsubject.upper_eq,
          hread]
        rfl
  | @give subject receiver n note hsubject hreceiver hn =>
      obtain ⟨hword, hfind⟩ := hvariadic .give (by simp)
      have hto : IsWord "to" := by decide
      refine readsAs_ofWords hnote rfl rfl ?_ ?_
      · simp only [entryWords, List.forall_mem_cons]
        exact ⟨hsubject.toIsWord, hword, Amount.isWord_text n, hto, hreceiver.toIsWord,
          List.forall_mem_nil _⟩
      · have hskip : skipIf (Text.sameUpToAsciiCase · "to") ["to", receiver] = [receiver] := by
          rw [skipIf, if_pos (by decide)]
        simp only [entryWords, ofWords, Option.getD_some, ofVariadic, hfind, ofGive,
          hsubject.upper_eq, Amount.read?_text hn, hskip, List.head?_cons, Option.map_some,
          hreceiver.upper_eq]
  | @amount verb subject n note hverb hsubject hn =>
      obtain ⟨hword, hfind⟩ := hbinary verb hverb
      obtain ⟨hlogged, hwords⟩ := entryWords_amount hverb subject n note
      refine readsAs_ofWords hnote rfl hlogged ?_ ?_
      · rw [hwords]
        simp only [List.forall_mem_cons]
        exact ⟨hsubject.toIsWord, hword, Amount.isWord_text n, List.forall_mem_nil _⟩
      · rw [hwords]
        simp only [ofWords, ofBinary, hfind, Amount.read?_text hn, hsubject.upper_eq]
  | dividendWord hverb hsubject =>
      simp only [List.mem_cons, List.not_mem_nil, or_false] at hverb
      have hnone := hdividend (by simpa using hverb)
      cases hnone
  | @name verb object note hverb hobject =>
      obtain ⟨hword, hfind⟩ := hunary verb (List.mem_append_left [Verb.bankSize] hverb)
      obtain ⟨hlogged, hwords, hread⟩ := entryWords_name hverb object note
      refine readsAs_ofWords hnote rfl hlogged ?_ ?_
      · rw [hwords]
        simp only [List.forall_mem_cons]
        exact ⟨hword, hobject.toIsWord, List.forall_mem_nil _⟩
      · rw [hwords]
        simp only [ofWords, hread hfind, hobject.upper_eq]
  | bankSize hn => exact absurd rfl hbank
  | bankSymbol hsymbol hn hfused => exact absurd rfl hbank
  | companyCredits =>
      refine readsAs_ofWords hnote rfl rfl ?_ ?_
      · simp only [entryWords, List.forall_mem_cons]
        exact ⟨hcredits, List.forall_mem_nil _⟩
      · simp only [entryWords, ofWords, ofQuery, hquery]
  | comment =>
      refine readsAs_ofWords hnote rfl rfl ?_ ?_
      · exact List.forall_mem_nil _
      · rfl

/-! ## Dividends with words -/

/-- `PREV` is written out and every other word becomes a zero. -/
theorem readsAs_dividendWord {verb : Verb} {subject : String} (word : String)
    (hverb : verb ∈ [Verb.dividend, .halfDividend]) (hsubject : IsName subject)
    (hnote : ∀ c ∈ note, IsNote c) :
    ReadsAs
      { verb := some verb, subject := some subject, object := some word, quantity := some 1,
        comment := note }
      (if isPrevious word then
        { verb := some verb, subject := some subject, object := some previousWord,
          quantity := some 1, comment := note }
      else { verb := some verb, subject := some subject, quantity := some 0, comment := note }) := by
  obtain ⟨hword, hfind⟩ := find_word.2.1 verb
    (List.mem_append_left [Verb.value, .cash, .float, .income] hverb)
  have hwords : verb.isLogged = true ∧
      entryWords
        { verb := some verb, subject := some subject, object := some word, quantity := some 1,
          comment := note } verb =
        [subject, verb.word, if isPrevious word then previousWord else "0"] := by
    simp only [List.mem_cons, List.not_mem_nil, or_false] at hverb
    obtain rfl | rfl := hverb <;> exact ⟨rfl, rfl⟩
  refine readsAs_ofWords hnote rfl hwords.1 ?_ ?_
  · have hprevious : IsWord previousWord := by decide
    have hzero : IsWord "0" := by decide
    rw [hwords.2]
    simp only [List.forall_mem_cons]
    refine ⟨hsubject.toIsWord, hword, ?_, List.forall_mem_nil _⟩
    split
    · exact hprevious
    · exact hzero
  · rw [hwords.2]
    split
    · have hread : Amount.read? previousWord = none := by decide
      have hupper : Text.upper previousWord = previousWord := by decide +kernel
      simp only [List.mem_cons, List.not_mem_nil, or_false] at hverb
      obtain rfl | rfl := hverb <;>
        simp only [ofWords, ofBinary, hfind, hread, hsubject.upper_eq, hupper]
    · have hread : Amount.read? "0" = some 0 := by decide
      simp only [ofWords, ofBinary, hfind, hread, hsubject.upper_eq]

/-- The entry of a dividend with a word asks for the same as the dividend. -/
theorem operation_dividendWord {verb : Verb} {subject : String} (word : String)
    (hverb : verb ∈ [Verb.dividend, .halfDividend]) (log : List String) :
    (if isPrevious word then
        { verb := some verb, subject := some subject, object := some previousWord,
          quantity := some 1, comment := note }
      else
        { verb := some verb, subject := some subject, quantity := some 0,
          comment := note } : Action).operation log =
      Action.operation log
        { verb := some verb, subject := some subject, object := some word, quantity := some 1,
          comment := note } := by
  have hprevious : isPrevious previousWord = true := by decide
  simp only [List.mem_cons, List.not_mem_nil, or_false] at hverb
  by_cases hword : isPrevious word = true
  · rw [if_pos hword]
    obtain rfl | rfl := hverb <;>
      simp only [operation, dividendAmount, refersToPrevious, Option.any_some, hword, hprevious,
        if_true, needSubject]
  · rw [if_neg hword]
    obtain rfl | rfl := hverb <;>
      simp only [operation, dividendAmount, refersToPrevious, Option.any_some, Option.any_none,
        Option.isSome_some, Option.isSome_none, hword, if_true, if_false, Bool.false_eq_true,
        needSubject, needQuantity] <;> rfl

/-! ## Bank sizes -/

/-- The amount that a symbol and a size directly behind it are read as, if they are an amount. -/
def misreading (a : Action) : Option Amount :=
  match a.object, a.quantity with
  | some symbol, some n => Amount.read? (symbol ++ n.text)
  | _, _ => none

theorem upper_text (n : Amount) : Text.upper n.text = n.text := by
  apply Text.upper_eq_self
  intro c hc
  obtain rfl | hdigit := Amount.mem_text hc
  · decide
  · have hhigh := (Char.isDigit_iff_toNat.1 hdigit).2
    have hascii : c.val < 128 := by
      rw [UInt32.lt_iff_toNat_lt]
      exact Nat.lt_of_le_of_lt hhigh (by decide)
    have hnosmall : ¬ (97 ≤ c.val ∧ c.val ≤ 122) := by
      rintro ⟨hsmall, -⟩
      rw [UInt32.le_iff_toNat_le] at hsmall
      exact absurd (Nat.le_trans hsmall hhigh) (by decide)
    rw [Text.capital, if_pos hascii, Text.capitalAscii, if_neg hnosmall]

/-- The entry of a bank size is read as the bank size, or as what the symbol and the size are read
as together. -/
theorem Logged.readsAs_bankSize {a : Action} (h : Logged a) (hnote : ∀ c ∈ a.comment, IsNote c)
    (hverb : a.verb = some .bankSize) :
    a.ReadsAs
      (match a.misreading with
      | some m => { verb := some .bankSize, quantity := some m, comment := a.comment }
      | none => a) := by
  obtain ⟨hword, hfind⟩ := find_word.2.2.1 .bankSize (by simp)
  cases h with
  | @bankSize n note hn =>
      refine readsAs_ofWords hnote rfl rfl ?_ ?_
      · simp only [entryWords, List.forall_mem_cons]
        exact ⟨hword, by simpa using Amount.isWord_text n, List.forall_mem_nil _⟩
      · simp only [entryWords, ofWords, ofUnary, hfind, Option.getD_some, Option.getD_none,
          String.empty_append, upper_text, splitCurrency, Amount.read?_text hn]
        rfl
  | @bankSymbol symbol n note hsymbol hn hfused =>
      refine readsAs_ofWords hnote rfl rfl ?_ ?_
      · simp only [entryWords, List.forall_mem_cons]
        exact ⟨hword, hsymbol.toIsWord.append (Amount.isWord_text n), List.forall_mem_nil _⟩
      · have hupper : Text.upper (String.ofList [symbol] ++ n.text) =
            String.ofList [symbol] ++ n.text := by
          rw [Text.upper_append, hsymbol.upper_eq, upper_text]
        have hchars : (String.ofList [symbol] ++ n.text).toList = symbol :: n.text.toList := by
          simp
        simp only [entryWords, ofWords, ofUnary, hfind, Option.getD_some, hupper, splitCurrency,
          misreading]
        cases Amount.read? (String.ofList [symbol] ++ n.text) with
        | some m => rfl
        | none =>
            rw [hchars]
            simp only [Amount.readChars_text hn]
  | amount hverb' | dividendWord hverb' | name hverb' =>
      obtain rfl := Option.some.inj hverb
      simp at hverb'
  | _ => cases hverb

/-- A bank size is not read as a zero, which would be refused. -/
theorem Logged.misreading_ne_zero {a : Action} (h : Logged a) (hverb : a.verb = some .bankSize) :
    a.misreading ≠ some 0 := by
  cases h with
  | bankSize hn => nofun
  | @bankSymbol symbol n note hsymbol hn hfused =>
      simpa [misreading, Amount.read?] using hfused
  | amount hverb' | dividendWord hverb' | name hverb' =>
      obtain rfl := Option.some.inj hverb
      simp at hverb'
  | _ => cases hverb

/-! ## What an entry asks for -/

/-- **An entry asks for what its command asked for**, bank sizes set aside. -/
theorem Logged.exists_reading {a : Action} (h : Logged a) (hnote : ∀ c ∈ a.comment, IsNote c)
    (hbank : a.verb ≠ some .bankSize) :
    ∃ b, a.ReadsAs b ∧ ∀ log, b.operation log = a.operation log := by
  have hself := fun hdividend => h.readsAs_self hnote hdividend hbank
  cases h with
  | dividendWord hverb hsubject =>
      exact ⟨_, readsAs_dividendWord _ hverb hsubject hnote, operation_dividendWord _ hverb⟩
  | bankSize | bankSymbol => exact absurd rfl hbank
  | name hverb hobject =>
      refine ⟨_, hself fun hdividend => ?_, fun _ => rfl⟩
      simp only [List.mem_cons, List.not_mem_nil, or_false] at hverb
      obtain rfl | rfl | rfl := hverb <;> rcases hdividend with hd | hd <;> cases hd
  | amount | companyCredits | comment => exact ⟨_, hself fun _ => rfl, fun _ => rfl⟩
  | buy | sell | give =>
      refine ⟨_, hself fun hdividend => ?_, fun _ => rfl⟩
      obtain hd | hd := hdividend <;> cases hd

end ShareLedger.Action
