import Mathlib.Data.List.Forall2
import ShareLedger.Proofs.Addressing
/-!
# Proofs.Spelling

Lines are read and carried out without regard to the case of the letters A to Z and to how much
white space stands around their words.

1. Two lists of words are spelled alike when they are equally long and their words agree in turn up
   to the case of the letters A to Z (`SpelledAlike`).  Each way in which the grammar looks at a word
   (as a keyword, an amount, a price, a name, `to` or `from`) sees the same in words that agree so.
2. Hence each form of a line comes to the same action (`Action.ofWords_eq_of_alike`).
3. Lines are looked at as a whole before they are read.  Then their small letters count, and in small
   letters words that agree up to the letters A to Z are the same (`Text.lower_eq_of_same`).  A line
   of two words or more has a blank in it, and is none of the lines that are looked for.
-/

namespace ShareLedger

open Text (sameUpToAsciiCase smallAscii)

/-- Words that agree in turn up to the case of the letters A to Z. -/
def SpelledAlike (ws ws' : List String) : Prop :=
  List.Forall₂ (fun w w' => sameUpToAsciiCase w w' = true) ws ws'

theorem SpelledAlike.tail {ws ws' : List String} (h : SpelledAlike ws ws') :
    SpelledAlike ws.tail ws'.tail := by
  cases h with
  | nil => exact .nil
  | cons _ hrest => exact hrest

/-! ## Words as amounts -/

namespace Amount

/-- The digits at the front of a text are the same in small letters. -/
theorem takeWhile_isDigit_smallAscii (cs : List Char) :
    (cs.map smallAscii).takeWhile Char.isDigit = cs.takeWhile Char.isDigit := by
  induction cs with
  | nil => rfl
  | cons c cs ih =>
      rw [List.map_cons, List.takeWhile_cons, List.takeWhile_cons, Text.isDigit_smallAscii, ih]
      split
      · next hdigit => rw [Text.smallAscii_of_isDigit hdigit]
      · rfl

theorem magnitude?_smallAscii (cs : List Char) :
    magnitude? (cs.map smallAscii) = magnitude? cs := by
  rw [magnitude?, takeWhile_isDigit_smallAscii, magnitude?]

/-- An amount has no letters. -/
theorem readChars_smallAscii (cs : List Char) : readChars (cs.map smallAscii) = readChars cs := by
  cases cs with
  | nil => rfl
  | cons c cs =>
      by_cases hminus : c = '-'
      · subst hminus
        exact congrArg (Option.map fun n => clamp (-n)) (magnitude?_smallAscii cs)
      · by_cases hplus : c = '+'
        · subst hplus
          exact congrArg (Option.map clamp) (magnitude?_smallAscii cs)
        · have hminus' := mt (Text.smallAscii_eq_iff (d := '-') (by decide)).1 hminus
          have hplus' := mt (Text.smallAscii_eq_iff (d := '+') (by decide)).1 hplus
          have hplain := congrArg (Option.map clamp) (magnitude?_smallAscii (c :: cs))
          simpa [readChars, hminus, hplus, hminus', hplus'] using hplain

theorem read?_eq_of_same {w w' : String} (h : sameUpToAsciiCase w w' = true) :
    read? w = read? w' := by
  rw [read?, ← readChars_smallAscii, Text.same_iff.1 h, readChars_smallAscii, read?]

end Amount

/-! ## Words in the grammar -/

namespace Action

theorem readPrice?_lowerAscii (w : String) : readPrice? (Text.lowerAscii w) = readPrice? w := by
  unfold readPrice?
  rw [Text.lowerAscii, String.toList_ofList]
  cases w.toList with
  | nil => rfl
  | cons c cs =>
      by_cases hat : c = '@'
      · subst hat
        exact Amount.readChars_smallAscii cs
      · have hat' := mt (Text.smallAscii_eq_iff (d := '@') (by decide)).1 hat
        have hplain := Amount.readChars_smallAscii (c :: cs)
        simpa [hat, hat'] using hplain

theorem readPrice?_eq_of_same {w w' : String} (h : sameUpToAsciiCase w w' = true) :
    readPrice? w = readPrice? w' := by
  rw [← readPrice?_lowerAscii, Text.lowerAscii_eq_of_same h, readPrice?_lowerAscii]

/-- The first of some words is the same name. -/
theorem head?_upper_eq_of_alike {ws ws' : List String} (h : SpelledAlike ws ws') :
    ws.head?.map Text.upper = ws'.head?.map Text.upper := by
  cases h with
  | nil => rfl
  | cons hw _ => exact congrArg some (Text.upper_eq_of_same hw)

/-- A word that may be left out is left out of both. -/
theorem skipIf_alike {ws ws' : List String} (h : SpelledAlike ws ws') (word : String) :
    SpelledAlike (skipIf (sameUpToAsciiCase · word) ws) (skipIf (sameUpToAsciiCase · word) ws') := by
  cases h with
  | nil => exact .nil
  | @cons w w' ws ws' hw hws =>
      have hword : sameUpToAsciiCase w word = sameUpToAsciiCase w' word := by
        rw [sameUpToAsciiCase, Text.same_iff.1 hw, sameUpToAsciiCase]
      rw [skipIf, skipIf, hword]
      split
      · exact hws
      · exact .cons hw hws

/-- The first of some words is read to the same in both, and the others are spelled alike. -/
theorem takeOr_alike {α : Type} {read : String → Option α} (default : α)
    (hread : ∀ w w', sameUpToAsciiCase w w' = true → read w = read w') {ws ws' : List String}
    (h : SpelledAlike ws ws') :
    (takeOr read default ws).1 = (takeOr read default ws').1 ∧
      SpelledAlike (takeOr read default ws).2 (takeOr read default ws').2 := by
  cases h with
  | nil => exact ⟨rfl, .nil⟩
  | @cons w w' ws ws' hw hws =>
      rw [takeOr, takeOr, hread w w' hw]
      cases read w' with
      | none => exact ⟨rfl, .cons hw hws⟩
      | some a => exact ⟨rfl, hws⟩

theorem ofBinary_eq_of_same {subject subject' word word' argument argument' : String}
    (hsubject : sameUpToAsciiCase subject subject' = true)
    (hword : sameUpToAsciiCase word word' = true)
    (hargument : sameUpToAsciiCase argument argument' = true) :
    ofBinary subject word argument = ofBinary subject' word' argument' := by
  unfold ofBinary
  rw [Keyword.find_eq_of_same hword, Text.upper_eq_of_same hsubject,
    Amount.read?_eq_of_same hargument, Text.upper_eq_of_same hargument]

theorem ofGive_eq_of_alike (subject : String) {ws ws' : List String} (h : SpelledAlike ws ws') :
    ofGive subject ws = ofGive subject ws' := by
  cases h with
  | nil => rfl
  | cons hamount hrest =>
      rw [ofGive, ofGive, Amount.read?_eq_of_same hamount,
        head?_upper_eq_of_alike (skipIf_alike hrest "to")]

theorem ofTrade_eq_of_alike (verb : Verb) (subject : String) {ws ws' : List String}
    (h : SpelledAlike ws ws') : ofTrade verb subject ws = ofTrade verb subject ws' := by
  obtain ⟨hquantity, hrest⟩ :=
    takeOr_alike 1 (fun _ _ => Amount.read?_eq_of_same) h
  obtain ⟨hprice, hseller⟩ :=
    takeOr_alike 0 (fun _ _ => readPrice?_eq_of_same) (SpelledAlike.tail hrest)
  unfold ofTrade
  dsimp only
  rw [hquantity, hprice, head?_upper_eq_of_alike hrest,
    head?_upper_eq_of_alike (skipIf_alike hseller "from")]

theorem ofVariadic_eq_of_alike {subject subject' word word' : String} {ws ws' : List String}
    (hsubject : sameUpToAsciiCase subject subject' = true)
    (hword : sameUpToAsciiCase word word' = true) (h : SpelledAlike ws ws') :
    ofVariadic subject word ws = ofVariadic subject' word' ws' := by
  unfold ofVariadic
  rw [Keyword.find_eq_of_same hword, Text.upper_eq_of_same hsubject, ofGive_eq_of_alike _ h]
  simp only [ofTrade_eq_of_alike _ _ h]

theorem ofWords_variadic (hasComment : Bool) (subject word third fourth : String)
    (rest : List String) : ofWords hasComment (subject :: word :: third :: fourth :: rest) =
      ofVariadic subject word (third :: fourth :: rest) := by
  rw [ofWords] <;> simp

/-- **Words that are spelled alike are the same command.** -/
theorem ofWords_eq_of_alike (hasComment : Bool) {ws ws' : List String} (h : SpelledAlike ws ws') :
    ofWords hasComment ws = ofWords hasComment ws' := by
  cases h with
  | nil => rfl
  | cons hfirst h =>
    cases h with
    | nil => rw [ofWords, ofWords, ofQuery, ofQuery, Keyword.find_eq_of_same hfirst]
    | cons hsecond h =>
      cases h with
      | nil =>
          rw [ofWords, ofWords]
          exact ofUnary_eq_of_same hfirst hsecond
      | cons hthird h =>
        cases h with
        | nil =>
            rw [ofWords, ofWords]
            exact ofBinary_eq_of_same hfirst hsecond hthird
        | cons hfourth h =>
            rw [ofWords_variadic, ofWords_variadic]
            exact ofVariadic_eq_of_alike hfirst hsecond (.cons hthird (.cons hfourth h))

/-- What is noted on a line behind the first `#`, without the blanks around it; nothing where there
is no `#`. -/
def note (line : String) : String :=
  match Text.cutAt '#' line.toList with
  | some (_, after) => Text.trim (String.ofList after)
  | none => ""

theorem commentPart_eq (line : String) :
    commentPart line = if note line = "" then none else some (note line) := by
  unfold commentPart note
  cases Text.cutAt '#' line.toList with
  | none => rfl
  | some cut =>
      obtain ⟨before, after⟩ := cut
      have htrim : Text.trim (String.ofList after) = String.ofList (Text.trimChars after) := by
        rw [Text.trim, String.toList_ofList]
      simp only [htrim]

end Action

/-! ## Small letters -/

namespace Text

theorem isCased_smallAscii (c : Char) : isCased (smallAscii c) = isCased c :=
  apply_smallAscii isCased (by decide) c

theorem isCaseIgnorable_smallAscii (c : Char) :
    isCaseIgnorable (smallAscii c) = isCaseIgnorable c :=
  apply_smallAscii isCaseIgnorable (by decide) c

theorem small_smallAscii (c : Char) : small (smallAscii c) = small c :=
  apply_smallAscii small (by decide) c

/-- A sigma is no letter from A to Z. -/
theorem smallAscii_sigma_iff (c : Char) : (smallAscii c).val = 0x3A3 ↔ c.val = 0x3A3 :=
  decide_eq_decide.1 (apply_smallAscii (fun c => decide (c.val = 0x3A3)) (by decide) c)

theorem startsCased_smallAscii (cs : List Char) :
    startsCased (cs.map smallAscii) = startsCased cs := by
  induction cs with
  | nil => rfl
  | cons c cs ih =>
      rw [List.map_cons, startsCased_cons, startsCased_cons, ih, isCased_smallAscii,
        isCaseIgnorable_smallAscii]

/-- Small letters are the same whether or not the letters A to Z are small before. -/
theorem lowerAfter_smallAscii (before cs : List Char) :
    lowerAfter (before.map smallAscii) (cs.map smallAscii) = lowerAfter before cs := by
  induction cs generalizing before with
  | nil => rfl
  | cons c cs ih =>
      have hrest := ih (c :: before)
      rw [List.map_cons] at hrest
      rw [List.map_cons, lowerAfter, lowerAfter, hrest, startsCased_smallAscii,
        startsCased_smallAscii, small_smallAscii]
      simp only [smallAscii_sigma_iff]

theorem lower_eq_of_same {s t : String} (h : sameUpToAsciiCase s t = true) : lower s = lower t := by
  have hlower (s : String) : lower s = String.ofList (lowerAfter [] (s.toList.map smallAscii)) :=
    congrArg String.ofList (lowerAfter_smallAscii [] s.toList).symm
  rw [hlower, hlower, same_iff.1 h]

end Text

/-! ## Whole lines -/

namespace Game

variable {line line' : String}

/-- A line is made of one word, of none, or has a blank between its words. -/
theorem trim_cases (line : String) :
    (∃ b ∈ (Text.trim line).toList, Text.isBlank b = true ∧ 2 ≤ (Text.words line).length) ∨
      Text.words line = if Text.trim line = "" then [] else [Text.trim line] := by
  have htrimmed : Text.Trimmed (Text.trim line).toList := by
    rw [Text.trim, String.toList_ofList]
    exact Text.trimmed_trimChars _
  rw [← Text.words_trim line]
  by_cases hsolid : ∀ c ∈ (Text.trim line).toList, Text.isBlank c = false
  · exact .inr (Text.words_of_solid hsolid)
  · obtain ⟨b, hb⟩ := not_forall.1 hsolid
    obtain ⟨hmem, hblank⟩ := Classical.not_imp.1 hb
    have hblank' : Text.isBlank b = true := by simpa using hblank
    exact .inl ⟨b, hmem, hblank', Text.two_le_length_words htrimmed hblank' hmem⟩

/-- Lines that are one word or nothing are the same but for the case of their letters A to Z. -/
theorem trim_same (h : SpelledAlike (Text.words line) (Text.words line'))
    (hline : Text.words line = if Text.trim line = "" then [] else [Text.trim line])
    (hline' : Text.words line' = if Text.trim line' = "" then [] else [Text.trim line']) :
    sameUpToAsciiCase (Text.trim line) (Text.trim line') = true := by
  rw [hline, hline'] at h
  split at h <;> split at h
  · next hempty hempty' => rw [hempty, hempty']; rfl
  · cases h
  · cases h
  · cases h with
    | cons hsame _ => exact hsame

/-- **Lines that are spelled alike plan the same.** -/
theorem plan_eq_of_alike (index : GameIndex) (session : Option Session) (currency : String)
    (h : SpelledAlike (Text.words line) (Text.words line'))
    (hread : Action.read line = Action.read line') :
    plan index session currency line = plan index session currency line' := by
  have hlength : (Text.words line).length = (Text.words line').length := h.length_eq
  have hshort (t : String) : (if t = "" then [] else [t]).length ≤ 1 := by split <;> simp
  obtain ⟨b, hmem, hb, htwo⟩ | hone := trim_cases line
  · obtain ⟨b', hmem', hb', -⟩ | hone' := trim_cases line'
    · rw [plan_eq_command_of_blank hb hmem, plan_eq_command_of_blank hb' hmem', hread]
    · have hle := hshort (Text.trim line')
      rw [← hone'] at hle
      omega
  · obtain ⟨b', hmem', hb', htwo'⟩ | hone' := trim_cases line'
    · have hle := hshort (Text.trim line)
      rw [← hone] at hle
      omega
    · have hlower := Text.lower_eq_of_same (trim_same h hone hone')
      rw [plan, plan, hlower, Action.read_trim, Action.read_trim, hread]

/-- **Lines are read and carried out without regard to spelling.**  Two lines of which the words in
front of the first `#` agree in turn up to the case of the letters A to Z, and on which the same is
noted or on both nothing, are read as the same action.  If there is no `#` on them, every game does
the same with both: the answer, the session and the store are equal. -/
theorem execute_eq_of_alike
    (hwords : SpelledAlike (Text.words (Action.commandPart line))
      (Text.words (Action.commandPart line')))
    (hnote : Action.note line = Action.note line') :
    Action.read line = Action.read line' ∧
      ('#' ∉ line.toList → '#' ∉ line'.toList → ∀ g : Game, g.execute line = g.execute line') := by
  have hcomment : Action.commentPart line = Action.commentPart line' := by
    rw [Action.commentPart_eq, hnote, Action.commentPart_eq]
  have hread : Action.read line = Action.read line' := by
    rw [Action.read_eq, Action.read_eq, hcomment, Action.ofWords_eq_of_alike _ hwords]
  refine ⟨hread, fun hmark hmark' g => ?_⟩
  rw [(Action.read_unmarked hmark).1, (Action.read_unmarked hmark').1] at hwords
  rw [execute, execute, plan_eq_of_alike _ _ _ hwords hread]

/-- A purchase with a tab, a wide space and several spaces in it, in mixed case. -/
theorem execute_eq_of_alike_purchase :
    let line := "\tmikko\u3000bUY 2  straße @80 FROM gt "
    let line' := "MIKKO buy 2 sTRAßE @80 from GT"
    let typed := ["mikko", "bUY", "2", "straße", "@80", "FROM", "gt"]
    let typed' := ["MIKKO", "buy", "2", "sTRAßE", "@80", "from", "GT"]
    Text.words (Action.commandPart line) = typed ∧
      Text.words (Action.commandPart line') = typed' ∧ SpelledAlike typed typed' ∧
      Action.note line = Action.note line' ∧ '#' ∉ line.toList ∧ '#' ∉ line'.toList ∧
      Action.read line = Action.read line' ∧ ∀ g : Game, g.execute line = g.execute line' := by
  intro line line' typed typed'
  have hline : Text.words (Action.commandPart line) = typed := by decide +kernel
  have hline' : Text.words (Action.commandPart line') = typed' := by decide +kernel
  have halike : SpelledAlike typed typed' :=
    .cons (by decide) (.cons (by decide) (.cons (by decide) (.cons (by decide)
      (.cons (by decide) (.cons (by decide) (.cons (by decide) .nil))))))
  have hnote : Action.note line = Action.note line' := by decide +kernel
  have hmark : '#' ∉ line.toList := by decide
  have hmark' : '#' ∉ line'.toList := by decide
  have hwords : SpelledAlike (Text.words (Action.commandPart line))
      (Text.words (Action.commandPart line')) := by
    rw [hline, hline']
    exact halike
  obtain ⟨hread, hexecute⟩ := execute_eq_of_alike hwords hnote
  exact ⟨hline, hline', halike, hnote, hmark, hmark', hread, hexecute hmark hmark'⟩

end Game
end ShareLedger
