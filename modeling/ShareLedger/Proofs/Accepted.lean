import ShareLedger.Proofs.EntryText
import ShareLedger.Proofs.Numerals
import ShareLedger.Proofs.Operation
import ShareLedger.Proofs.Text.Capitals
/-!
# Proofs.Accepted

What a ledger accepts of typed lines.

1. A command that a ledger accepts has one of a few shapes (`Action.Logged`): names are words in
   capitals, amounts are such as can be read, and nothing is set that the verb does not use.
2. Lines of other shapes are refused (`Action.logged_of_apply`): a line without a verb, a query, a
   trade without a company, a payment without a receiver, a word where only an amount will do.
3. The symbol of a bank size is one character, and with the size behind it, it is no zero: if it is
   a digit, the two of them are the end of a number that was too great to be read.
-/

namespace ShareLedger

open Amount (Readable)
open Text (IsWord)

/-- A name as actions have it: a word in capitals. -/
structure IsName (s : String) : Prop extends IsWord s where
  upper_eq : Text.upper s = s

/-- A single character of a name is a name. -/
theorem IsName.symbol {s : String} {c : Char} (h : IsName s) (hc : c ∈ s.toList) :
    IsName (String.ofList [c]) := by
  have hcapital : Text.capital c = [c] := by
    rw [← h.upper_eq] at hc
    exact Text.capital_of_mem_upper hc
  have hmark : '#' ≠ c := fun hmark => h.unmarked (hmark ▸ hc)
  refine ⟨⟨?_, ?_, ?_⟩, Text.upper_eq_self ?_⟩
  · simp
  · simpa using h.solid c hc
  · simpa using hmark
  · simpa using hcapital

theorem Text.IsWord.isName_upper {s : String} (h : IsWord s) : IsName (Text.upper s) :=
  { h.upper with upper_eq := Text.upper_upper s }

/-! ## Keywords -/

/-- A verb that is found is one of the table. -/
theorem Keyword.mem_of_find {table : List Keyword} {word : String} {verb : Verb}
    (h : find table word = some verb) : verb ∈ table.map (·.verb) := by
  obtain ⟨k, hk, rfl⟩ := Option.map_eq_some_iff.1 h
  exact List.mem_map.2 ⟨k, List.mem_of_find?_eq_some hk, rfl⟩

namespace Action

/-! ## Shapes of commands -/

/-- The commands that ledgers accept. -/
inductive Logged : Action → Prop
  | buy {subject company : String} {n price : Amount} {source note : Option String}
    (hsubject : IsName subject) (hcompany : IsName company) (hn : n.Readable)
    (hprice : price.Readable) (hsource : ∀ s ∈ source, IsName s) :
    Logged { verb := some .buy, subject := some subject, object := some company, quantity := some n,
             price, source, comment := note }
  | sell {subject company : String} {n price : Amount} {note : Option String}
    (hsubject : IsName subject) (hcompany : IsName company) (hn : n.Readable)
    (hprice : price.Readable) :
    Logged { verb := some .sell, subject := some subject, object := some company,
             quantity := some n, price, comment := note }
  | give {subject receiver : String} {n : Amount} {note : Option String}
    (hsubject : IsName subject) (hreceiver : IsName receiver) (hn : n.Readable) :
    Logged { verb := some .give, subject := some subject, object := some receiver,
             quantity := some n, comment := note }
  /-- A verb with a subject and an amount. -/
  | amount {verb : Verb} {subject : String} {n : Amount} {note : Option String}
    (hverb : verb ∈ [Verb.dividend, .halfDividend, .value, .cash, .float, .income])
    (hsubject : IsName subject) (hn : n.Readable) :
    Logged { verb := some verb, subject := some subject, quantity := some n, comment := note }
  /-- A dividend with a word in place of the amount. -/
  | dividendWord {verb : Verb} {subject word : String} {note : Option String}
    (hverb : verb ∈ [Verb.dividend, .halfDividend]) (hsubject : IsName subject) :
    Logged { verb := some verb, subject := some subject, object := some word, quantity := some 1,
             comment := note }
  /-- A verb with a name and nothing else. -/
  | name {verb : Verb} {object : String} {note : Option String}
    (hverb : verb ∈ [Verb.close, .nextRound, .rounding]) (hobject : IsName object) :
    Logged { verb := some verb, object := some object, comment := note }
  | bankSize {n : Amount} {note : Option String} (hn : n.Readable) :
    Logged { verb := some .bankSize, quantity := some n, comment := note }
  /-- A bank size with a symbol.  Together with the size the symbol is no zero. -/
  | bankSymbol {symbol : Char} {n : Amount} {note : Option String}
    (hsymbol : IsName (String.ofList [symbol])) (hn : n.Readable)
    (hfused : Amount.readChars (symbol :: n.text.toList) ≠ some 0) :
    Logged { verb := some .bankSize, object := some (String.ofList [symbol]), quantity := some n,
             comment := note }
  | companyCredits {note : Option String} :
    Logged { verb := some .companyCredits, comment := note }
  | comment {note : String} : Logged { verb := some .comment, comment := some note }

variable {l : Ledger} {log : List String} {p : Posting} {note : Option String}

/-! ## Which lines are accepted -/

/-- Of the lines of one word only the one that turns company credits on changes a ledger. -/
theorem logged_ofQuery {word : String}
    (h : l.apply log { ofQuery word with comment := note } = .ok p) :
    Logged { ofQuery word with comment := note } := by
  unfold ofQuery at h ⊢
  cases hfind : Keyword.find Keyword.queries word with
  | none => rw [hfind] at h; cases h
  | some verb =>
      rw [hfind] at h
      have hmem := Keyword.mem_of_find hfind
      simp only [Keyword.queries, List.map_cons, List.map_nil, List.mem_cons, List.not_mem_nil,
        or_false] at hmem
      obtain rfl | rfl | rfl | rfl | rfl | rfl | rfl := hmem
      case inr.inr.inr.inr.inr.inr => exact .companyCredits
      all_goals cases h

/-- A symbol and an amount behind it are no zero together, unless the whole could have been read as
an amount in the first place. -/
theorem readChars_fused_ne_zero {symbol : Char} {rest : List Char} {n : Amount}
    (hwhole : Amount.readChars (symbol :: rest) = none) (hrest : Amount.readChars rest = some n)
    (hn : n ≠ 0) : Amount.readChars (symbol :: n.text.toList) ≠ some 0 := by
  intro hfused
  have hn : n.toInt ≠ 0 := fun hzero => hn (Amount.ext hzero)
  have hclamp {k : Int} (h : Amount.clamp k = 0) : k = 0 := by
    have := congrArg Amount.toInt h
    rw [Amount.toInt_clamp, Amount.toInt_zero] at this
    omega
  have hsigned {k : Int} (hk : Amount.magnitude? n.text.toList = some k) : k ≠ 0 :=
    Amount.magnitude?_text hk ▸ hn
  by_cases hminus : symbol = '-'
  · rw [hminus, Amount.readChars] at hfused
    obtain ⟨k, hk, hzero⟩ := Option.map_eq_some_iff.1 hfused
    exact hsigned hk (Int.neg_eq_zero.1 (hclamp hzero))
  by_cases hplus : symbol = '+'
  · rw [hplus, Amount.readChars] at hfused
    obtain ⟨k, hk, hzero⟩ := Option.map_eq_some_iff.1 hfused
    exact hsigned hk (hclamp hzero)
  -- What is left is a digit in front of so many others that all of them pass the greatest amount.
  rw [Amount.readChars_unsigned (by simpa using hminus) (by simpa using hplus)] at hfused hwhole
  obtain ⟨k, hk, hzero⟩ := Option.map_eq_some_iff.1 hfused
  have hdigit := Amount.isDigit_of_takeWhile_ne_nil (Amount.magnitude?_eq_some.1 hk).1
  have hdigits := Amount.takeWhile_ne_nil_of_magnitude? hdigit (Option.map_eq_none_iff.1 hwhole)
  have hnonneg := Amount.nonneg_of_readChars hdigits hrest
  have hle := Amount.le_of_magnitude?_text hdigit hnonneg hk
  have := hclamp hzero
  omega

/-- A bank size has a size above or below zero, and a symbol of one character if any. -/
theorem logged_bankSize {argument : String} (hargument : IsName argument)
    (h : l.apply log
      { verb := some .bankSize, object := (splitCurrency argument).1,
        quantity := some (splitCurrency argument).2, comment := note } = .ok p) :
    Logged { verb := some .bankSize, object := (splitCurrency argument).1,
             quantity := some (splitCurrency argument).2, comment := note } := by
  have hsize : (splitCurrency argument).2 ≠ 0 := by
    intro hzero
    rw [hzero] at h
    cases h
  unfold splitCurrency at hsize ⊢
  cases hread : Amount.read? argument with
  | some n => exact .bankSize (Amount.readable_of_read? hread)
  | none =>
      rw [hread] at hsize
      cases hchars : argument.toList with
      | nil => exact absurd hchars hargument.ne_nil
      | cons symbol rest =>
          rw [hchars] at hsize
          cases hrest : Amount.readChars rest with
          | none => simp only [hrest] at hsize; exact absurd rfl hsize
          | some n =>
              simp only [hrest] at hsize ⊢
              have hsymbol : IsName (String.ofList [symbol]) :=
                hargument.symbol (hchars ▸ List.mem_cons_self)
              have hwhole : Amount.readChars (symbol :: rest) = none := by
                rw [← hchars]; exact hread
              exact .bankSymbol hsymbol (Amount.readable_of_readChars hrest)
                (readChars_fused_ne_zero hwhole hrest hsize)

/-- A line of two words that is accepted names a company, a round or a rounding, or sets a bank
size. -/
theorem logged_ofUnary {word argument : String} (hargument : IsWord argument)
    (h : l.apply log { ofUnary word argument with comment := note } = .ok p) :
    Logged { ofUnary word argument with comment := note } := by
  unfold ofUnary at h ⊢
  have hname := hargument.isName_upper
  generalize Text.upper argument = name at h hname ⊢
  cases hfind : Keyword.find Keyword.unary word with
  | none => rw [hfind] at h; cases h
  | some verb =>
      rw [hfind] at h
      have hmem := Keyword.mem_of_find hfind
      simp only [Keyword.unary, List.map_cons, List.map_nil, List.mem_cons, List.not_mem_nil,
        or_false] at hmem
      obtain rfl | rfl | rfl | rfl | rfl | rfl | rfl := hmem
      case inr.inr.inr.inl => exact logged_bankSize hname h
      case inr.inr.inr.inr.inl => exact .name (by simp) hname
      case inr.inr.inr.inr.inr.inl => exact .name (by simp) hname
      case inr.inr.inr.inr.inr.inr => exact .name (by simp) hname
      all_goals cases h

/-- A line of three words that is accepted has an amount, a company of which one share is traded, or
a word that is no amount of a dividend. -/
theorem logged_ofBinary {subject word argument : String} (hsubject : IsWord subject)
    (hargument : IsWord argument)
    (h : l.apply log { ofBinary subject word argument with comment := note } = .ok p) :
    Logged { ofBinary subject word argument with comment := note } := by
  have hone : Readable 1 := by decide
  have hzero : Readable 0 := by decide
  unfold ofBinary at h ⊢
  cases hfind : Keyword.find Keyword.binary word with
  | none => rw [hfind] at h; cases h
  | some verb =>
      rw [hfind] at h
      have hmem := Keyword.mem_of_find hfind
      simp only [Keyword.binary, List.map_cons, List.map_nil, List.mem_cons, List.not_mem_nil,
        or_false] at hmem
      cases hread : Amount.read? argument with
      | some n =>
          rw [hread] at h
          have hn := Amount.readable_of_read? hread
          obtain rfl | rfl | rfl | rfl | rfl | rfl | rfl | rfl | rfl := hmem
          -- A trade without a company is refused.
          case inl => cases h
          case inr.inl => cases h
          all_goals exact .amount (by simp) hsubject.isName_upper hn
      | none =>
          rw [hread] at h
          obtain rfl | rfl | rfl | rfl | rfl | rfl | rfl | rfl | rfl := hmem
          case inl =>
              exact .buy hsubject.isName_upper hargument.isName_upper hone hzero nofun
          case inr.inl => exact .sell hsubject.isName_upper hargument.isName_upper hone hzero
          case inr.inr.inl => exact .dividendWord (by simp) hsubject.isName_upper
          case inr.inr.inr.inl => exact .dividendWord (by simp) hsubject.isName_upper
          case inr.inr.inr.inr.inl => exact .dividendWord (by simp) hsubject.isName_upper
          all_goals cases h

/-! ### Trades and payments -/

theorem takeOr_fst {α : Type} {q : α → Prop} {read : String → Option α} {default : α}
    (hdefault : q default) (hread : ∀ {w a}, read w = some a → q a) (ws : List String) :
    q (takeOr read default ws).1 := by
  cases ws with
  | nil => exact hdefault
  | cons w ws =>
      rw [takeOr]
      cases hw : read w with
      | none => exact hdefault
      | some a => exact hread hw

theorem takeOr_snd {α : Type} (read : String → Option α) (default : α) (ws : List String) :
    (takeOr read default ws).2 ⊆ ws := by
  cases ws with
  | nil => exact List.Subset.refl _
  | cons w ws =>
      rw [takeOr]
      cases read w with
      | none => exact List.Subset.refl _
      | some a => exact List.subset_cons_self w ws

theorem skipIf_subset (q : String → Bool) (ws : List String) : skipIf q ws ⊆ ws := by
  cases ws with
  | nil => exact List.Subset.refl _
  | cons w ws =>
      rw [skipIf]
      split
      · exact List.subset_cons_self w ws
      · exact List.Subset.refl _

/-- The first of some words, in capitals, is a name. -/
theorem isName_of_head? {ws : List String} {s : String} (h : ∀ w ∈ ws, IsWord w)
    (hs : s ∈ ws.head?.map Text.upper) : IsName s := by
  obtain ⟨w, hw, rfl⟩ := Option.map_eq_some_iff.1 (Option.mem_def.1 hs)
  exact (h w (List.mem_of_mem_head? hw)).isName_upper

theorem ofTrade_eq (verb : Verb) (subject : String) (arguments : List String) :
    ofTrade verb subject arguments =
      let q := takeOr Amount.read? 1 arguments
      let priced := takeOr readPrice? 0 q.2.tail
      { verb := some verb, subject := some subject, object := q.2.head?.map Text.upper,
        quantity := some q.1, price := priced.1,
        source :=
          if verb = .buy then
            (skipIf (Text.sameUpToAsciiCase · "from") priced.2).head?.map Text.upper
          else none } := by
  unfold ofTrade
  obtain ⟨n, rest⟩ := takeOr Amount.read? 1 arguments
  rfl

theorem readable_of_readPrice? {word : String} {n : Amount} (h : readPrice? word = some n) :
    n.Readable := by
  unfold readPrice? at h
  split at h
  · exact Amount.readable_of_readChars h
  · exact Amount.readable_of_readChars h

theorem logged_ofTrade {verb : Verb} {subject : String} {arguments : List String}
    (hverb : verb = .buy ∨ verb = .sell) (hsubject : IsName subject)
    (harguments : ∀ w ∈ arguments, IsWord w)
    (h : l.apply log { ofTrade verb subject arguments with comment := note } = .ok p) :
    Logged { ofTrade verb subject arguments with comment := note } := by
  rw [ofTrade_eq] at h ⊢
  dsimp only at h ⊢
  have hn : (takeOr Amount.read? 1 arguments).1.Readable :=
    takeOr_fst (by decide) Amount.readable_of_read? arguments
  have hrest : ∀ w ∈ (takeOr Amount.read? 1 arguments).2, IsWord w :=
    fun w hw => harguments w (takeOr_snd _ _ _ hw)
  generalize takeOr Amount.read? 1 arguments = q at h hn hrest ⊢
  have hprice : (takeOr readPrice? 0 q.2.tail).1.Readable :=
    takeOr_fst (by decide) readable_of_readPrice? q.2.tail
  have hrest' : ∀ w ∈ (takeOr readPrice? 0 q.2.tail).2, IsWord w :=
    fun w hw => hrest w (List.mem_of_mem_tail (takeOr_snd _ _ _ hw))
  generalize takeOr readPrice? 0 q.2.tail = priced at h hprice hrest' ⊢
  have hsource : ∀ s ∈ (skipIf (Text.sameUpToAsciiCase · "from") priced.2).head?.map Text.upper,
      IsName s :=
    fun s hs => isName_of_head? (fun w hw => hrest' w (skipIf_subset _ _ hw)) hs
  cases hcompany : q.2.head?.map Text.upper with
  | none =>
      -- A trade without a company is refused.
      rw [hcompany] at h
      obtain rfl | rfl := hverb <;> cases h
  | some company =>
      have hcompany' := isName_of_head? hrest (Option.mem_def.2 hcompany)
      obtain rfl | rfl := hverb
      · exact .buy hsubject hcompany' hn hprice hsource
      · exact .sell hsubject hcompany' hn hprice

theorem logged_ofGive {subject : String} {arguments : List String} (hsubject : IsName subject)
    (harguments : ∀ w ∈ arguments, IsWord w)
    (h : l.apply log { ofGive subject arguments with comment := note } = .ok p) :
    Logged { ofGive subject arguments with comment := note } := by
  cases arguments with
  | nil => cases h
  | cons amount rest =>
      rw [ofGive] at h ⊢
      cases hread : Amount.read? amount with
      | none => rw [hread] at h; cases h
      | some n =>
          rw [hread] at h
          cases hreceiver : (skipIf (Text.sameUpToAsciiCase · "to") rest).head?.map Text.upper with
          | none => rw [hreceiver] at h; cases h
          | some receiver =>
              have hreceiver' : IsName receiver :=
                isName_of_head? (fun w hw => harguments w
                  (List.mem_cons_of_mem _ (skipIf_subset _ _ hw))) (Option.mem_def.2 hreceiver)
              exact .give hsubject hreceiver' (Amount.readable_of_read? hread)

theorem logged_ofVariadic {subject word : String} {arguments : List String}
    (hsubject : IsWord subject) (harguments : ∀ w ∈ arguments, IsWord w)
    (h : l.apply log { ofVariadic subject word arguments with comment := note } = .ok p) :
    Logged { ofVariadic subject word arguments with comment := note } := by
  unfold ofVariadic at h ⊢
  cases hfind : Keyword.find Keyword.variadic word with
  | none => rw [hfind] at h; cases h
  | some verb =>
      rw [hfind] at h
      have hmem := Keyword.mem_of_find hfind
      simp only [Keyword.variadic, List.map_cons, List.map_nil, List.mem_cons, List.not_mem_nil,
        or_false] at hmem
      obtain rfl | rfl | rfl := hmem
      · exact logged_ofTrade (.inl rfl) hsubject.isName_upper harguments h
      · exact logged_ofTrade (.inr rfl) hsubject.isName_upper harguments h
      · exact logged_ofGive hsubject.isName_upper harguments h

/-! ### All lines -/

/-- **Whatever a ledger accepts of a line has one of the shapes.** -/
theorem logged_of_apply {line : String} (h : l.apply log (read line) = .ok p) :
    Logged (read line) := by
  have hwords : ∀ w ∈ Text.words (commandPart line), IsWord w := fun w hw => isWord_of_mem_line hw
  rw [read_eq] at h ⊢
  generalize Text.words (commandPart line) = ws at h hwords ⊢
  generalize commentPart line = note at h ⊢
  match ws, hwords with
  | [], _ =>
      cases note with
      | none => cases h
      | some c => exact .comment
  | [word], _ =>
      simp only [ofWords] at h ⊢
      exact logged_ofQuery h
  | [word, argument], hwords =>
      simp only [ofWords] at h ⊢
      exact logged_ofUnary (hwords argument (by simp)) h
  | [subject, word, argument], hwords =>
      simp only [ofWords] at h ⊢
      exact logged_ofBinary (hwords subject (by simp)) (hwords argument (by simp)) h
  | subject :: word :: first :: second :: rest, hwords =>
      simp only [ofWords] at h ⊢
      exact logged_ofVariadic (hwords subject (by simp))
        (fun w hw => hwords w (List.mem_cons_of_mem _ (List.mem_cons_of_mem _ hw))) h

theorem isNote_of_read {line c : String} (h : c ∈ (read line).comment) : IsNote c :=
  isNote_of_commentPart (Option.mem_def.1 h)

end Action
end ShareLedger
