import ShareLedger.Text.Blank
import ShareLedger.Text.Cut
/-!
# Proofs.Text.Words

Cutting text into words, at a mark and at its ends, and putting it together again.

1. A word of a command is not empty and has neither blanks nor the mark of a comment in it
   (`IsWord`).
2. Words that are set one after another with single spaces are the words of the text that results
   (`words_joinWith`), and blanks around the text add none.
3. Cutting at a mark takes the first one (`cutAt_eq_some`).  Trimming takes blanks only
   (`exists_trimChars`), and nothing from a text that has no blank at either end
   (`trimChars_of_trimmed`).
-/

namespace ShareLedger.Text

/-- A text that can stand as one word of a command. -/
structure IsWord (s : String) : Prop where
  ne_nil : s.toList ≠ []
  solid : ∀ c ∈ s.toList, isBlank c = false
  unmarked : '#' ∉ s.toList

theorem isWord_iff {s : String} :
    IsWord s ↔ (!s.toList.isEmpty && s.toList.all fun c => !isBlank c && c != '#') = true := by
  simp only [Bool.and_eq_true, Bool.not_eq_true', List.isEmpty_eq_false_iff, List.all_eq_true,
    bne_iff_ne, ne_eq]
  constructor
  · intro h
    exact ⟨h.ne_nil, fun c hc => ⟨h.solid c hc, fun hmark => h.unmarked (hmark ▸ hc)⟩⟩
  · rintro ⟨hne, hall⟩
    exact ⟨hne, fun c hc => (hall c hc).1, fun hmark => (hall _ hmark).2 rfl⟩

instance (s : String) : Decidable (IsWord s) := decidable_of_iff _ isWord_iff.symm

/-- Two words without a blank between them are one word. -/
theorem IsWord.append {s t : String} (hs : IsWord s) (ht : IsWord t) : IsWord (s ++ t) := by
  refine ⟨?_, fun c hc => ?_, fun hmark => ?_⟩
  · rw [String.toList_append]
    exact List.append_ne_nil_of_left_ne_nil hs.ne_nil _
  · rw [String.toList_append] at hc
    exact (List.mem_append.1 hc).elim (hs.solid c) (ht.solid c)
  · rw [String.toList_append] at hmark
    exact (List.mem_append.1 hmark).elim hs.unmarked ht.unmarked

/-! ## Words -/

/-- A run without blanks is taken into the word that has begun. -/
theorem wordsAfter_solid {cs : List Char} (h : ∀ c ∈ cs, isBlank c = false)
    (word rest : List Char) :
    wordsAfter word (cs ++ rest) = wordsAfter (cs.reverse ++ word) rest := by
  induction cs generalizing word with
  | nil => rfl
  | cons c cs ih =>
      have hc := h c List.mem_cons_self
      rw [List.cons_append, wordsAfter, if_neg (by simp [hc]),
        ih fun d hd => h d (List.mem_cons_of_mem _ hd)]
      simp

/-- A word ends at the end of the text. -/
theorem wordsAfter_word {cs : List Char} (hne : cs ≠ []) (h : ∀ c ∈ cs, isBlank c = false) :
    wordsAfter [] cs = [cs] := by
  have hall := wordsAfter_solid h [] []
  rw [List.append_nil, List.append_nil] at hall
  rw [hall, wordsAfter, if_neg (by simpa using hne), List.reverse_reverse]

/-- A word ends at a blank. -/
theorem wordsAfter_word_blank {cs : List Char} (hne : cs ≠ []) (h : ∀ c ∈ cs, isBlank c = false)
    {b : Char} (hb : isBlank b = true) (rest : List Char) :
    wordsAfter [] (cs ++ b :: rest) = cs :: wordsAfter [] rest := by
  rw [wordsAfter_solid h, List.append_nil, wordsAfter, if_pos hb, if_neg (by simpa using hne),
    List.reverse_reverse]

theorem wordsAfter_word_space {cs : List Char} (hne : cs ≠ []) (h : ∀ c ∈ cs, isBlank c = false)
    (rest : List Char) : wordsAfter [] (cs ++ ' ' :: rest) = cs :: wordsAfter [] rest :=
  wordsAfter_word_blank hne h (by decide) rest

/-- Blanks in front of a text add no word. -/
theorem wordsAfter_blanks_append {blanks : List Char} (h : ∀ c ∈ blanks, isBlank c = true)
    (cs : List Char) : wordsAfter [] (blanks ++ cs) = wordsAfter [] cs := by
  induction blanks with
  | nil => rfl
  | cons b blanks ih =>
      have hb := h b List.mem_cons_self
      have ih := ih fun c hc => h c (List.mem_cons_of_mem _ hc)
      simp [wordsAfter, hb, ih]

/-- Blanks at the end of a text add no word. -/
theorem wordsAfter_append_blanks (word cs : List Char) {blanks : List Char}
    (h : ∀ c ∈ blanks, isBlank c = true) :
    wordsAfter word (cs ++ blanks) = wordsAfter word cs := by
  induction cs generalizing word with
  | nil =>
      cases blanks with
      | nil => rfl
      | cons b blanks =>
          have hb := h b List.mem_cons_self
          have hrest : wordsAfter [] blanks = [] := by
            simpa [wordsAfter] using
              wordsAfter_blanks_append (fun c hc => h c (List.mem_cons_of_mem _ hc)) []
          cases word <;> simp [wordsAfter, hb, hrest]
  | cons c cs ih =>
      simp only [List.cons_append, wordsAfter]
      split
      · split
        · exact ih []
        · rw [ih []]
      · exact ih (c :: word)

/-- There is no word only where nothing but blanks is. -/
theorem blanks_of_wordsAfter_eq_nil {word cs : List Char} (h : wordsAfter word cs = []) :
    word = [] ∧ ∀ c ∈ cs, isBlank c = true := by
  induction cs generalizing word with
  | nil =>
      rw [wordsAfter] at h
      split at h
      · next hempty => exact ⟨List.isEmpty_iff.1 hempty, List.forall_mem_nil _⟩
      · cases h
  | cons c cs ih =>
      rw [wordsAfter] at h
      split at h
      · next hblank =>
          split at h
          · next hempty =>
              exact ⟨List.isEmpty_iff.1 hempty, List.forall_mem_cons.2 ⟨hblank, (ih h).2⟩⟩
          · cases h
      · exact absurd (ih h).1 (List.cons_ne_nil _ _)

theorem words_append_space (s : String) : words (s ++ " ") = words s := by
  have hspace : isBlank ' ' = true := by decide
  have hblank : ∀ c ∈ " ".toList, isBlank c = true := by simpa using hspace
  unfold words
  rw [String.toList_append, wordsAfter_append_blanks [] s.toList hblank]

/-- Every word of a text is a run without blanks, made of characters of the text. -/
theorem mem_wordsAfter {p : Char → Prop} {word cs : List Char}
    (hword : ∀ c ∈ word, isBlank c = false ∧ p c) (hcs : ∀ c ∈ cs, p c) :
    ∀ w ∈ wordsAfter word cs, w ≠ [] ∧ ∀ c ∈ w, isBlank c = false ∧ p c := by
  have hends (hne : word.isEmpty ≠ true) :
      word.reverse ≠ [] ∧ ∀ c ∈ word.reverse, isBlank c = false ∧ p c :=
    ⟨by simpa using hne, fun c hc => hword c (List.mem_reverse.1 hc)⟩
  induction cs generalizing word with
  | nil =>
      intro w hw
      rw [wordsAfter] at hw
      split at hw
      · cases hw
      · next hne => rw [List.mem_singleton.1 hw]; exact hends hne
  | cons c cs ih =>
      have hrest : ∀ c ∈ cs, p c := fun d hd => hcs d (List.mem_cons_of_mem _ hd)
      intro w hw
      rw [wordsAfter] at hw
      split at hw
      · split at hw
        · exact ih (List.forall_mem_nil _) hrest (fun hne => absurd rfl hne) w hw
        · next hne =>
            obtain rfl | hw := List.mem_cons.1 hw
            · exact hends hne
            · exact ih (List.forall_mem_nil _) hrest (fun hne => absurd rfl hne) w hw
      · next hblank =>
          have hword' : ∀ d ∈ c :: word, isBlank d = false ∧ p d :=
            List.forall_mem_cons.2 ⟨⟨by simpa using hblank, hcs c List.mem_cons_self⟩, hword⟩
          exact ih hword' hrest
            (fun _ => ⟨by simp, fun d hd => hword' d (List.mem_reverse.1 hd)⟩) w hw

/-- The words of a text without the mark of a comment can stand in a command. -/
theorem isWord_of_mem_words {s w : String} (hs : '#' ∉ s.toList) (hw : w ∈ words s) : IsWord w := by
  obtain ⟨cs, hcs, rfl⟩ := List.mem_map.1 hw
  obtain ⟨hne, hall⟩ := mem_wordsAfter (p := (· ∈ s.toList)) (List.forall_mem_nil _) (fun c hc => hc) cs
    hcs
  refine ⟨?_, ?_, ?_⟩
  · rw [String.toList_ofList]; exact hne
  · rw [String.toList_ofList]; exact fun c hc => (hall c hc).1
  · rw [String.toList_ofList]; exact fun hmark => hs (hall _ hmark).2

/-! ## Setting words one after another -/

theorem toList_joinWith_cons (w w' : String) (ws : List String) :
    (joinWith " " (w :: w' :: ws)).toList = w.toList ++ ' ' :: (joinWith " " (w' :: ws)).toList := by
  simp only [joinWith, String.toList_append, List.append_assoc]
  rfl

/-- Words come out of a text as they were put in. -/
theorem words_joinWith {ws : List String} (h : ∀ w ∈ ws, IsWord w) :
    words (joinWith " " ws) = ws := by
  have hlist : wordsAfter [] (joinWith " " ws).toList = ws.map String.toList := by
    induction ws with
    | nil => rfl
    | cons w ws ih =>
        have hw := h w List.mem_cons_self
        have ih := ih fun v hv => h v (List.mem_cons_of_mem _ hv)
        cases ws with
        | nil => exact wordsAfter_word hw.ne_nil hw.solid
        | cons w' ws =>
            rw [toList_joinWith_cons, wordsAfter_word_space hw.ne_nil hw.solid, ih]
            rfl
  unfold words
  rw [hlist, List.map_map]
  simp

/-- A character that neither the texts nor the separator have is not in what they make up. -/
theorem notMem_joinWith {c : Char} {separator : String} {ss : List String}
    (hseparator : c ∉ separator.toList) (h : ∀ s ∈ ss, c ∉ s.toList) :
    c ∉ (joinWith separator ss).toList := by
  induction ss with
  | nil => simp [joinWith]
  | cons s ss ih =>
      have hs := h s List.mem_cons_self
      have ih := ih fun t ht => h t (List.mem_cons_of_mem _ ht)
      cases ss with
      | nil => exact hs
      | cons s' ss => simp [joinWith, hs, hseparator, ih]

/-- Two groups of texts set one after another have a separator between them. -/
theorem joinWith_append (separator : String) {ss ts : List String} (hss : ss ≠ []) (hts : ts ≠ []) :
    joinWith separator (ss ++ ts) = joinWith separator ss ++ separator ++ joinWith separator ts := by
  induction ss with
  | nil => exact absurd rfl hss
  | cons s ss ih =>
      cases ss with
      | nil =>
          obtain ⟨t, ts, rfl⟩ := List.exists_cons_of_ne_nil hts
          rfl
      | cons s' ss =>
          simp only [List.cons_append, joinWith, String.append_assoc] at ih ⊢
          rw [ih nofun]

/-- A text made of words has no mark of a comment. -/
theorem unmarked_joinWith {ws : List String} (h : ∀ w ∈ ws, IsWord w) :
    '#' ∉ (joinWith " " ws).toList :=
  notMem_joinWith (by decide) fun w hw => (h w hw).unmarked

/-! ## Cutting at a mark -/

theorem cutAt_eq_none {mark : Char} {cs : List Char} (h : mark ∉ cs) : cutAt mark cs = none := by
  induction cs with
  | nil => rfl
  | cons c cs ih =>
      obtain ⟨hc, hcs⟩ := not_or.1 (mt List.mem_cons.2 h)
      rw [cutAt, if_neg (Ne.symm hc), ih hcs]
      rfl

/-- The first mark is the one behind a text without marks. -/
theorem cutAt_append {mark : Char} {before : List Char} (h : mark ∉ before) (after : List Char) :
    cutAt mark (before ++ mark :: after) = some (before, after) := by
  induction before with
  | nil => simp [cutAt]
  | cons c cs ih =>
      obtain ⟨hc, hcs⟩ := not_or.1 (mt List.mem_cons.2 h)
      rw [List.cons_append, cutAt, if_neg (Ne.symm hc), ih hcs]
      rfl

/-- What stands in front without a mark is cut off with the rest of the first part. -/
theorem cutAt_append_left {mark : Char} {front : List Char} (h : mark ∉ front) (cs : List Char) :
    cutAt mark (front ++ cs) = (cutAt mark cs).map fun cut => (front ++ cut.1, cut.2) := by
  induction front with
  | nil => simp
  | cons c front ih =>
      obtain ⟨hc, hfront⟩ := not_or.1 (mt List.mem_cons.2 h)
      rw [List.cons_append, cutAt, if_neg (Ne.symm hc), ih hfront, Option.map_map]
      rfl

/-- What stands at the end without a mark stays with the second part. -/
theorem cutAt_append_right {mark : Char} {back : List Char} (h : mark ∉ back) (cs : List Char) :
    cutAt mark (cs ++ back) = (cutAt mark cs).map fun cut => (cut.1, cut.2 ++ back) := by
  induction cs with
  | nil => simp [cutAt, cutAt_eq_none h]
  | cons c cs ih =>
      rw [List.cons_append, cutAt, cutAt]
      split
      · rfl
      · rw [ih, Option.map_map, Option.map_map]
        rfl

/-- Cutting takes the first mark. -/
theorem cutAt_eq_some {mark : Char} {cs before after : List Char} :
    cutAt mark cs = some (before, after) ↔ cs = before ++ mark :: after ∧ mark ∉ before := by
  constructor
  · intro h
    induction cs generalizing before with
    | nil => cases h
    | cons c cs ih =>
        rw [cutAt] at h
        split at h
        · next hc =>
            obtain ⟨rfl, rfl⟩ := Prod.mk.inj (Option.some.inj h)
            exact ⟨by rw [hc, List.nil_append], nofun⟩
        · next hc =>
            obtain ⟨⟨before', after'⟩, hcut, heq⟩ := Option.map_eq_some_iff.1 h
            obtain ⟨rfl, rfl⟩ := Prod.mk.inj heq
            obtain ⟨rfl, hmark⟩ := ih hcut
            exact ⟨rfl, fun hmem => (List.mem_cons.1 hmem).elim (fun e => hc e.symm) hmark⟩
  · rintro ⟨rfl, hmark⟩
    exact cutAt_append hmark after

theorem notMem_of_cutAt_eq_none {mark : Char} {cs : List Char} (h : cutAt mark cs = none) :
    mark ∉ cs := by
  intro hmem
  obtain ⟨before, after, rfl, hbefore⟩ := List.eq_append_cons_of_mem hmem
  rw [cutAt_append hbefore] at h
  cases h

/-- A text that another one starts with has its characters. -/
theorem mem_of_dropLead {lead cs : List Char} (h : (dropLead lead cs).isSome = true) :
    ∀ c ∈ lead, c ∈ cs := by
  induction lead generalizing cs with
  | nil => simp
  | cons l lead ih =>
      cases cs with
      | nil => cases h
      | cons c cs =>
          rw [dropLead] at h
          split at h
          · next hsame => simp +contextual [hsame, ih h]
          · cases h

/-! ## Trimming -/

/-- No blank stands at either end. -/
def Trimmed (cs : List Char) : Prop :=
  (∀ c ∈ cs.head?, isBlank c = false) ∧ ∀ c ∈ cs.getLast?, isBlank c = false

theorem dropWhile_eq_self {cs : List Char} (h : ∀ c ∈ cs.head?, isBlank c = false) :
    cs.dropWhile isBlank = cs := by
  cases cs with
  | nil => rfl
  | cons c cs => rw [List.dropWhile_cons_of_neg (by simp [h c rfl])]

theorem head?_dropWhile {cs : List Char} {c : Char} (h : c ∈ (cs.dropWhile isBlank).head?) :
    isBlank c = false := by
  have hhead := List.head?_dropWhile_not isBlank cs
  rw [Option.mem_def] at h
  rw [h] at hhead
  exact hhead

/-- Blanks are what trimming takes. -/
theorem exists_trimChars (cs : List Char) :
    ∃ front back, cs = front ++ (trimChars cs ++ back) ∧ (∀ c ∈ front, isBlank c = true) ∧
      ∀ c ∈ back, isBlank c = true := by
  let rest := cs.dropWhile isBlank
  have hrest : rest = trimChars cs ++ (rest.reverse.takeWhile isBlank).reverse := by
    rw [trimChars, dropEndWhile, ← List.reverse_append, List.takeWhile_append_dropWhile,
      List.reverse_reverse]
  refine ⟨cs.takeWhile isBlank, (rest.reverse.takeWhile isBlank).reverse, ?_, ?_, ?_⟩
  · rw [← hrest, List.takeWhile_append_dropWhile]
  · exact List.all_eq_true.1 List.all_takeWhile
  · exact fun c hc => List.all_eq_true.1 List.all_takeWhile c (List.mem_reverse.1 hc)

/-- Dropping from the end goes no further than a character that stays. -/
theorem dropEndWhile_cons {p : Char → Bool} {c : Char} (hc : p c = false) (cs : List Char) :
    dropEndWhile p (c :: cs) = c :: dropEndWhile p cs := by
  unfold dropEndWhile
  rw [List.reverse_cons, List.dropWhile_append]
  split
  · next hnone => simp [hc, List.isEmpty_iff.1 hnone]
  · simp

theorem dropEndWhile_concat {p : Char → Bool} {c : Char} (hc : p c = false) (cs : List Char) :
    dropEndWhile p (cs ++ [c]) = cs ++ [c] := by
  rw [dropEndWhile, List.reverse_append, List.reverse_singleton, List.singleton_append,
    List.dropWhile_cons_of_neg (by simp [hc]), List.reverse_cons, List.reverse_reverse]

/-- Blanks at the end do not count. -/
theorem trimChars_append_blanks (cs : List Char) {blanks : List Char}
    (h : ∀ c ∈ blanks, isBlank c = true) : trimChars (cs ++ blanks) = trimChars cs := by
  have hreverse : ∀ c ∈ blanks.reverse, isBlank c = true := fun c hc => h c (List.mem_reverse.1 hc)
  have hdropped : (blanks ++ []).dropWhile isBlank = [] := List.dropWhile_append_of_pos h
  rw [List.append_nil] at hdropped
  unfold trimChars dropEndWhile
  rw [List.dropWhile_append]
  split
  · next hnone => rw [hdropped, List.isEmpty_iff.1 hnone]
  · rw [List.reverse_append, List.dropWhile_append_of_pos hreverse]

/-- Trimming takes everything where there is nothing but blanks. -/
theorem trimChars_eq_nil {cs : List Char} : trimChars cs = [] ↔ ∀ c ∈ cs, isBlank c = true := by
  constructor
  · intro h
    obtain ⟨front, back, hcs, hfront, hback⟩ := exists_trimChars cs
    rw [h, List.nil_append] at hcs
    rw [hcs]
    exact List.forall_mem_append.2 ⟨hfront, hback⟩
  · intro h
    have hblanks := trimChars_append_blanks [] h
    rwa [List.nil_append] at hblanks

/-- Trimming takes nothing from a text without blanks at its ends. -/
theorem trimChars_of_trimmed {cs : List Char} (h : Trimmed cs) : trimChars cs = cs := by
  have hlast : ∀ c ∈ cs.reverse.head?, isBlank c = false := by
    rw [List.head?_reverse]; exact h.2
  rw [trimChars, dropWhile_eq_self h.1, dropEndWhile, dropWhile_eq_self hlast, List.reverse_reverse]

/-- Trimming leaves no blank at either end. -/
theorem trimmed_trimChars (cs : List Char) : Trimmed (trimChars cs) := by
  constructor
  · intro c hc
    have hprefix : trimChars cs <+: cs.dropWhile isBlank := by
      rw [trimChars, dropEndWhile, ← List.reverse_suffix, List.reverse_reverse]
      exact List.dropWhile_suffix _
    obtain ⟨rest, hrest⟩ := hprefix
    have hhead : c ∈ (cs.dropWhile isBlank).head? := by
      rw [Option.mem_def] at hc ⊢
      rw [← hrest, List.head?_append, hc, Option.some_or]
    exact head?_dropWhile hhead
  · intro c hc
    rw [trimChars, dropEndWhile, List.getLast?_reverse] at hc
    exact head?_dropWhile hc

/-- Trimming twice is trimming. -/
@[simp] theorem trim_trim (s : String) : trim (trim s) = trim s := by
  rw [trim, trim, String.toList_ofList, trimChars_of_trimmed (trimmed_trimChars s.toList)]

/-- A space in front does not count. -/
theorem trimChars_space (cs : List Char) : trimChars (' ' :: cs) = trimChars cs := by
  have hspace : isBlank ' ' = true := by decide
  rw [trimChars, trimChars, List.dropWhile_cons_of_pos hspace]

/-- A text has no blank at its ends when the first and the last part of it have none there. -/
theorem Trimmed.append {front back : List Char} (hfront : Trimmed front) (hback : Trimmed back)
    (hne : front ≠ []) (hne' : back ≠ []) (middle : List Char) :
    Trimmed (front ++ (middle ++ back)) := by
  constructor
  · rw [List.head?_append, Option.or_of_isSome (by simpa using hne)]
    exact hfront.1
  · rw [← List.append_assoc, List.getLast?_append, Option.or_of_isSome (by simpa using hne')]
    exact hback.2

/-- A word has no blank at its ends. -/
theorem IsWord.trimmed {s : String} (h : IsWord s) : Trimmed s.toList :=
  ⟨fun c hc => h.solid c (List.mem_of_mem_head? hc), fun c hc => h.solid c (List.mem_of_getLast? hc)⟩

theorem trimmed_joinWith {ws : List String} (h : ∀ w ∈ ws, IsWord w) (hne : ws ≠ []) :
    (joinWith " " ws).toList ≠ [] ∧ Trimmed (joinWith " " ws).toList := by
  induction ws with
  | nil => exact absurd rfl hne
  | cons w ws ih =>
      have hw := h w List.mem_cons_self
      cases ws with
      | nil => exact ⟨hw.ne_nil, hw.trimmed⟩
      | cons w' ws =>
          obtain ⟨hne', htrimmed⟩ := ih (fun v hv => h v (List.mem_cons_of_mem _ hv)) nofun
          rw [toList_joinWith_cons]
          exact ⟨by simp, hw.trimmed.append htrimmed hw.ne_nil hne' [' ']⟩

/-! ## The words of a trimmed text -/

/-- Blanks around a text add no word. -/
theorem words_trim (s : String) : words (trim s) = words s := by
  obtain ⟨front, back, hs, hfront, hback⟩ := exists_trimChars s.toList
  unfold words
  rw [hs, wordsAfter_blanks_append hfront, wordsAfter_append_blanks [] _ hback, trim,
    String.toList_ofList]

/-- A text without blanks is one word, or none if there is nothing in it. -/
theorem words_of_solid {s : String} (h : ∀ c ∈ s.toList, isBlank c = false) :
    words s = if s = "" then [] else [s] := by
  split
  · next hempty => rw [hempty]; rfl
  · next hne =>
      rw [words, wordsAfter_word (mt String.toList_eq_nil_iff.1 hne) h, List.map_singleton,
        String.ofList_toList]

/-- A text with a blank between its ends has at least two words. -/
theorem two_le_length_words {s : String} (h : Trimmed s.toList) {b : Char} (hb : isBlank b = true)
    (hmem : b ∈ s.toList) : 2 ≤ (words s).length := by
  obtain ⟨b', hfind⟩ := Option.isSome_iff_exists.1 (List.find?_isSome.2 ⟨b, hmem, hb⟩)
  obtain ⟨hb', front, back, hs, hsolid⟩ := List.find?_eq_some_iff_append.1 hfind
  have hfront : front ≠ [] := by
    rintro rfl
    rw [hs] at h
    exact Bool.false_ne_true ((h.1 b' rfl).symm.trans hb')
  have hback : wordsAfter [] back ≠ [] := by
    intro hnone
    have hblanks : ∀ c ∈ b' :: back, isBlank c = true :=
      List.forall_mem_cons.2 ⟨hb', (blanks_of_wordsAfter_eq_nil hnone).2⟩
    have hlast := hblanks _ (List.getLast_mem (List.cons_ne_nil _ _))
    have hend := h.2 ((b' :: back).getLast (List.cons_ne_nil _ _)) (by
      rw [hs, List.getLast?_append, List.getLast?_eq_some_getLast (List.cons_ne_nil _ _)]
      rfl)
    exact Bool.false_ne_true (hend.symm.trans hlast)
  rw [words, hs, wordsAfter_word_blank hfront (by simpa using hsolid) hb', List.map_cons,
    List.length_cons, List.length_map]
  exact Nat.succ_le_succ (List.length_pos_iff.2 hback)

end ShareLedger.Text
