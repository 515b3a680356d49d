import ShareLedger.Grammar
import ShareLedger.Proofs.Text.Words
/-!
# Proofs.EntryText

The words of a log entry, and what reading an entry makes of them.

1. The head of an entry is a list of words with single spaces (`Action.entryHead_eq`).
2. The words of a line and its comment are all that reading it looks at (`Action.read_eq`), so
   blanks around it do not count (`Action.read_trim`).  The words are such as can stand in a
   command, and the comment is trimmed and not empty.
3. An entry whose head is made of such words and whose comment is such a comment is taken apart
   into the same words and the same comment again (`Action.read_entry_eq_ofWords`).
-/

namespace ShareLedger.Action

open Text (IsWord Trimmed joinWith words)

/-! ## What a line consists of -/

/-- A comment as lines have it. -/
def IsNote (c : String) : Prop := c.toList ≠ [] ∧ Trimmed c.toList

theorem read_eq (line : String) :
    read line =
      { ofWords (commentPart line).isSome (words (commandPart line)) with
        comment := commentPart line } :=
  rfl

theorem unmarked_commandPart (line : String) : '#' ∉ (commandPart line).toList := by
  unfold commandPart
  split
  · next before after hcut =>
      rw [String.toList_ofList]
      exact (Text.cutAt_eq_some.1 hcut).2
  · next hcut => exact Text.notMem_of_cutAt_eq_none hcut

/-- The words of a line can stand in a command. -/
theorem isWord_of_mem_line {line w : String} (h : w ∈ words (commandPart line)) : IsWord w :=
  Text.isWord_of_mem_words (unmarked_commandPart line) h

/-- The comment of a line is trimmed and not empty. -/
theorem isNote_of_commentPart {line c : String} (h : commentPart line = some c) : IsNote c := by
  simp only [commentPart] at h
  split at h
  · next before after hcut =>
      split at h
      · cases h
      · next hne =>
          obtain rfl := Option.some.inj h
          rw [← String.toList_inj, String.toList_ofList] at hne
          rw [IsNote, String.toList_ofList]
          exact ⟨hne, Text.trimmed_trimChars after⟩
  · cases h

/-- A word and a space in front of a line are a word more, and the comment is the same. -/
theorem read_word_space {w : String} (hw : IsWord w) (rest : String) :
    words (commandPart (w ++ " " ++ rest)) = w :: words (commandPart rest) ∧
      commentPart (w ++ " " ++ rest) = commentPart rest := by
  have hfront : '#' ∉ w.toList ++ [' '] := by
    have hspace : '#' ≠ ' ' := by decide
    simpa [hspace] using hw.unmarked
  have hline : (w ++ " " ++ rest).toList = (w.toList ++ [' ']) ++ rest.toList := by simp
  have hcut := Text.cutAt_append_left hfront rest.toList
  have hwords (cs : List Char) :
      Text.wordsAfter [] ((w.toList ++ [' ']) ++ cs) = w.toList :: Text.wordsAfter [] cs := by
    rw [List.append_assoc]
    exact Text.wordsAfter_word_space hw.ne_nil hw.solid cs
  rw [← hline] at hcut
  unfold commandPart commentPart words
  cases hrest : Text.cutAt '#' rest.toList with
  | none =>
      rw [hrest, Option.map_none] at hcut
      simp only [hcut]
      rw [hline, hwords, List.map_cons, String.ofList_toList]
      exact ⟨rfl, trivial⟩
  | some cut =>
      rw [hrest, Option.map_some] at hcut
      simp only [hcut, String.toList_ofList, hwords, List.map_cons, String.ofList_toList, and_self]

/-- Blanks around a line do not count. -/
theorem read_trim (line : String) : read (Text.trim line) = read line := by
  obtain ⟨front, back, hline, hfront, hback⟩ := Text.exists_trimChars line.toList
  have hmark : Text.isBlank '#' = false := by decide
  have hunmarked {blanks : List Char} (h : ∀ c ∈ blanks, Text.isBlank c = true) :
      '#' ∉ blanks := by
    intro hmem
    have := h '#' hmem
    simp [hmark] at this
  have htrim : (Text.trim line).toList = Text.trimChars line.toList := String.toList_ofList
  have hcut : Text.cutAt '#' line.toList =
      (Text.cutAt '#' (Text.trim line).toList).map fun cut => (front ++ cut.1, cut.2 ++ back) := by
    rw [hline, Text.cutAt_append_left (hunmarked hfront), Text.cutAt_append_right (hunmarked hback),
      Option.map_map, htrim]
    rfl
  have hwords : words (commandPart (Text.trim line)) = words (commandPart line) := by
    unfold commandPart words
    cases hinner : Text.cutAt '#' (Text.trim line).toList with
    | none =>
        rw [hinner, Option.map_none] at hcut
        simp only [hcut]
        rw [hline, Text.wordsAfter_blanks_append hfront, Text.wordsAfter_append_blanks _ _ hback,
          htrim]
    | some cut =>
        rw [hinner, Option.map_some] at hcut
        simp [hcut, Text.wordsAfter_blanks_append hfront]
  have hcomment : commentPart (Text.trim line) = commentPart line := by
    unfold commentPart
    cases hinner : Text.cutAt '#' (Text.trim line).toList with
    | none =>
        rw [hinner, Option.map_none] at hcut
        simp only [hcut]
    | some cut =>
        rw [hinner, Option.map_some] at hcut
        simp only [hcut, Text.trimChars_append_blanks _ hback]
  rw [read_eq, read_eq, hwords, hcomment]

/-! ## The words of an entry -/

/-- The words of a price; a price of zero is not written. -/
def priceWords (price : Amount) : List String := if price = 0 then [] else ["@" ++ price.text]

/-- The words of a seller. -/
def sourceWords : Option String → List String
  | some source => ["from", source]
  | none => []

/-- The words of the entry of an action, its comment left out. -/
def entryWords (a : Action) (verb : Verb) : List String :=
  let subject := a.subject.getD ""
  let object := a.object.getD ""
  let quantity := (a.quantity.getD 0).text
  match verb with
  | .buy =>
    subject :: verb.word :: quantity :: object :: (priceWords a.price ++ sourceWords a.source)
  | .sell => subject :: verb.word :: quantity :: object :: priceWords a.price
  | .dividend | .halfDividend => [subject, verb.word, a.dividendToken]
  | .value | .cash | .float | .income => [subject, verb.word, quantity]
  | .give => [subject, verb.word, quantity, "to", object]
  | .close | .nextRound | .rounding => [verb.word, object]
  | .bankSize => [verb.word, object ++ quantity]
  | .companyCredits => [verb.word]
  | _ => []

/-- The head of an entry is its words with single spaces. -/
theorem entryHead_eq (a : Action) (verb : Verb) :
    a.entryHead verb = joinWith " " (a.entryWords verb) := by
  rw [← String.toList_inj]
  cases verb with
  | buy =>
      by_cases hprice : a.price = 0 <;> cases hsource : a.source <;>
        simp [entryHead, entryWords, priceWords, sourceWords, joinWith, hprice, hsource]
  | sell =>
      by_cases hprice : a.price = 0 <;>
        simp [entryHead, entryWords, priceWords, joinWith, hprice]
  | _ => simp [entryHead, entryWords, joinWith]

/-! ## Reading an entry -/

/-- A line without a mark is all command. -/
theorem read_unmarked {line : String} (h : '#' ∉ line.toList) :
    commandPart line = line ∧ commentPart line = none := by
  unfold commandPart commentPart
  rw [Text.cutAt_eq_none h]
  exact ⟨rfl, rfl⟩

/-- A mark, a space and a comment behind a command are taken off it. -/
theorem read_marked {line command c : String} (h : '#' ∉ command.toList) (hc : IsNote c)
    (hline : line = command ++ "# " ++ c) :
    commandPart line = command ∧ commentPart line = some c := by
  have hcut : Text.cutAt '#' line.toList = some (command.toList, ' ' :: c.toList) := by
    rw [Text.cutAt_eq_some]
    exact ⟨by simp [hline], h⟩
  have htrim : Text.trimChars (' ' :: c.toList) = c.toList := by
    rw [Text.trimChars_space, Text.trimChars_of_trimmed hc.2]
  have hne : c ≠ "" := by
    rintro rfl
    exact hc.1 rfl
  simp only [commandPart, commentPart, hcut, htrim, String.ofList_toList, if_neg hne, and_self]

/-- The entry of words and a comment, taken apart again. -/
theorem read_trim_joinWith {ws : List String} {note : Option String} (h : ∀ w ∈ ws, IsWord w)
    (hnote : ∀ c ∈ note, IsNote c) :
    let line := Text.trim (joinWith " " ws ++ (note.map (" # " ++ ·)).getD "")
    words (commandPart line) = ws ∧ commentPart line = note := by
  intro line
  have hwords := Text.words_joinWith h
  have hunmarked := Text.unmarked_joinWith h
  cases note with
  | none =>
      have hline : line = joinWith " " ws := by
        have htrimmed : Trimmed (joinWith " " ws).toList := by
          cases ws with
          | nil => exact ⟨nofun, nofun⟩
          | cons w ws => exact (Text.trimmed_joinWith h (List.cons_ne_nil _ _)).2
        simp [line, Text.trim, Text.trimChars_of_trimmed htrimmed]
      obtain ⟨hcommand, hcomment⟩ := read_unmarked hunmarked
      rw [hline, hcommand, hcomment]
      exact ⟨hwords, rfl⟩
  | some c =>
      have hc := hnote c rfl
      cases ws with
      | nil =>
          -- The space in front of the mark is trimmed off.
          have hline : line = "" ++ "# " ++ c := by
            have hmark : Trimmed ['#'] := by simp [Trimmed, Text.isBlank]
            have htrimmed := hmark.append hc.2 (List.cons_ne_nil _ _) hc.1 [' ']
            rw [← String.toList_inj]
            simpa [line, Text.trim, joinWith, Text.trimChars_space] using
              Text.trimChars_of_trimmed htrimmed
          obtain ⟨hcommand, hcomment⟩ := read_marked (List.not_mem_nil) hc hline
          rw [hcommand, hcomment]
          exact ⟨hwords, rfl⟩
      | cons w ws =>
          have hline : line = joinWith " " (w :: ws) ++ " " ++ "# " ++ c := by
            obtain ⟨hne, hhead⟩ := Text.trimmed_joinWith h (List.cons_ne_nil _ _)
            have htrimmed := hhead.append hc.2 hne hc.1 [' ', '#', ' ']
            rw [← String.toList_inj]
            simpa [line, Text.trim] using Text.trimChars_of_trimmed htrimmed
          have hunmarked' : '#' ∉ (joinWith " " (w :: ws) ++ " ").toList := by
            simpa using hunmarked
          obtain ⟨hcommand, hcomment⟩ := read_marked hunmarked' hc hline
          rw [hcommand, hcomment, Text.words_append_space]
          exact ⟨hwords, rfl⟩

/-- The words and the comment of an entry are those that it was made of. -/
theorem words_entry {a : Action} {verb : Verb} (hverb : a.verb = some verb)
    (hlogged : verb.isLogged) (hwords : ∀ w ∈ a.entryWords verb, IsWord w)
    (hnote : ∀ c ∈ a.comment, IsNote c) :
    ∃ e, a.entry = some e ∧ words (commandPart e) = a.entryWords verb ∧
      commentPart e = a.comment := by
  have hentry : a.entry = some (Text.trim (joinWith " " (a.entryWords verb) ++
      (a.comment.map (" # " ++ ·)).getD "")) := by
    rw [entry, hverb]
    simp only [hlogged, if_true, entryHead_eq]
    cases a.comment <;> rfl
  obtain ⟨hcommand, hcomment⟩ := read_trim_joinWith hwords hnote
  exact ⟨_, hentry, hcommand, hcomment⟩

/-- **An entry is taken apart into the words and the comment that it was made of.** -/
theorem read_entry_eq_ofWords {a : Action} {verb : Verb} (hverb : a.verb = some verb)
    (hlogged : verb.isLogged) (hwords : ∀ w ∈ a.entryWords verb, IsWord w)
    (hnote : ∀ c ∈ a.comment, IsNote c) :
    ∃ e, a.entry = some e ∧
      read e = { ofWords a.comment.isSome (a.entryWords verb) with comment := a.comment } := by
  obtain ⟨e, hentry, hcommand, hcomment⟩ := words_entry hverb hlogged hwords hnote
  refine ⟨e, hentry, ?_⟩
  rw [read_eq, hcommand, hcomment]

end ShareLedger.Action
