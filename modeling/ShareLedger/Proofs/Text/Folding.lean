import ShareLedger.Proofs.Text.SmallLetters
/-!
# Proofs.Text.Folding

What is left of a text that is put in capitals and then in small letters (`folded`).

1. Where a sigma ends a word is decided by the letters around it.  A text in capitals whose small
   letters are put in capitals again is not the same text, but the letters keep their kind (`Alike`),
   so the small letters are the same again (`Alike.lowerAfter_eq`).
2. The capital sharp s is the one letter that does not keep its small form.  So what was folded once
   stays as it is when it is folded again, if and only if there is no capital sharp s in the text
   (`folded_folded_iff`).
-/

namespace ShareLedger.Text

/-- The text in capitals and then in small letters. -/
def folded (s : String) : String := lower (upper s)

/-! ## Words that end in a sigma -/

theorem startsCased_cons (c : Char) (cs : List Char) :
    startsCased (c :: cs) = if isCaseIgnorable c then startsCased cs else isCased c := by
  by_cases h : isCaseIgnorable c = true <;> simp [startsCased, h]

/-- The second text is the first one with letters in place of their doubles and the capital I with a
dot taken apart into the letter and the dot. -/
inductive Alike : List Char → List Char → Prop
  | nil : Alike [] []
  | letter {c e cs ds} (h : Twin c e) (rest : Alike cs ds) : Alike (c :: cs) (e :: ds)
  | sigma {c cs ds} (h : c.val = 0x3A3) (rest : Alike cs ds) : Alike (c :: cs) (c :: ds)
  | dotted {c cs ds} (h : c.val = 0x130) (rest : Alike cs ds) :
    Alike (c :: cs) ('I' :: Char.ofNat 0x307 :: ds)

/-- The capital I with a dot is a letter, and so is what it is taken apart into. -/
theorem startsCased_dotted {c : Char} (h : c.val = 0x130) (cs ds : List Char) :
    startsCased (c :: cs) = true ∧ startsCased ('I' :: ds) = true ∧
      startsCased (Char.ofNat 0x307 :: 'I' :: ds) = true := by
  have hdotted : c = Char.ofNat 0x130 := eq_ofNat_of_val h
  have hkinds : (!isCaseIgnorable (Char.ofNat 0x130) && isCased (Char.ofNat 0x130) &&
      !isCaseIgnorable 'I' && isCased 'I' && isCaseIgnorable (Char.ofNat 0x307)) = true := by
    decide +kernel
  simp only [Bool.and_eq_true, Bool.not_eq_true'] at hkinds
  obtain ⟨⟨⟨⟨hc, hc'⟩, hi⟩, hi'⟩, hdot⟩ := hkinds
  simp [startsCased_cons, hdotted, hc, hc', hi, hi', hdot]

theorem Alike.startsCased_eq {cs ds : List Char} (h : Alike cs ds) :
    startsCased cs = startsCased ds := by
  induction h with
  | nil => rfl
  | letter h _ ih => rw [startsCased_cons, startsCased_cons, ih, h.cased, h.ignorable]
  | sigma _ _ ih => rw [startsCased_cons, startsCased_cons, ih]
  | @dotted c cs ds h _ _ =>
      obtain ⟨hc, hi, -⟩ := startsCased_dotted h cs (Char.ofNat 0x307 :: ds)
      rw [hc, hi]

theorem lowerAfter_cons {c : Char} (h : c.val ≠ 0x3A3) (before cs : List Char) :
    lowerAfter before (c :: cs) = small c ++ lowerAfter (c :: before) cs := by
  rw [lowerAfter, if_neg h]

theorem lowerAfter_sigma {c : Char} (h : c.val = 0x3A3) (before cs : List Char) :
    lowerAfter before (c :: cs) =
      Char.ofNat (if startsCased before && !startsCased cs then 0x3C2 else 0x3C3) ::
        lowerAfter (c :: before) cs := by
  rw [lowerAfter, if_pos h, List.singleton_append]

/-- Texts that are alike have one small form, with the same kind of letter in front of both. -/
theorem Alike.lowerAfter_eq {cs ds : List Char} (h : Alike cs ds) {before before' : List Char}
    (hbefore : startsCased before = startsCased before') :
    lowerAfter before cs = lowerAfter before' ds := by
  induction h generalizing before before' with
  | nil => rfl
  | @letter c e cs ds h _ ih =>
      have hnext : startsCased (c :: before) = startsCased (e :: before') := by
        rw [startsCased_cons, startsCased_cons, hbefore, h.cased, h.ignorable]
      rw [lowerAfter_cons h.notSigma.1, lowerAfter_cons h.notSigma.2, h.small, ih hnext]
  | @sigma c cs ds h rest ih =>
      have hnext : startsCased (c :: before) = startsCased (c :: before') := by
        rw [startsCased_cons, startsCased_cons, hbefore]
      rw [lowerAfter_sigma h, lowerAfter_sigma h, hbefore, rest.startsCased_eq, ih hnext]
  | @dotted c cs ds h _ ih =>
      obtain ⟨hc, -, hdot⟩ := startsCased_dotted h before before'
      have hsigma : c.val ≠ 0x3A3 := by rw [h]; decide
      have hsmall : small c = ['i', Char.ofNat 0x307] := by
        rw [small, if_neg (by rw [h]; decide), if_pos h]
      have hletter : small 'I' = ['i'] := by decide
      have hmark : small (Char.ofNat 0x307) = [Char.ofNat 0x307] := by decide +kernel
      rw [lowerAfter_cons hsigma, lowerAfter_cons (by decide), lowerAfter_cons (by decide), hsmall,
        hletter, hmark, ih (hc.trans hdot.symm)]
      rfl

/-- Put in capitals again, the small form of a text in capitals is like the text. -/
theorem alike_capitals {cs : List Char} (h : ∀ c ∈ cs, capital c = [c] ∧ c ≠ capitalSharpS)
    (before : List Char) : Alike cs ((lowerAfter before cs).flatMap capital) := by
  induction cs generalizing before with
  | nil => exact .nil
  | cons c cs ih =>
      obtain ⟨hcapital, hsharp⟩ := h c List.mem_cons_self
      have hrest := ih (fun d hd => h d (List.mem_cons_of_mem _ hd)) (c :: before)
      by_cases hsigma : c.val = 0x3A3
      · have hcode : c = Char.ofNat 0x3A3 := eq_ofNat_of_val hsigma
        have hfinal : capital (Char.ofNat 0x3C2) = [Char.ofNat 0x3A3] := by decide +kernel
        have hinner : capital (Char.ofNat 0x3C3) = [Char.ofNat 0x3A3] := by decide +kernel
        rw [lowerAfter_sigma hsigma, List.flatMap_cons]
        split
        · rw [hfinal, ← hcode]
          exact .sigma hsigma hrest
        · rw [hinner, ← hcode]
          exact .sigma hsigma hrest
      · rw [lowerAfter_cons hsigma, List.flatMap_append]
        by_cases hdotted : c.val = 0x130
        · have hsmall : small c = ['i', Char.ofNat 0x307] := by
            rw [small, if_neg (by rw [hdotted]; decide), if_pos hdotted]
          have hletters : ['i', Char.ofNat 0x307].flatMap capital = ['I', Char.ofNat 0x307] := by
            decide +kernel
          rw [hsmall, hletters]
          exact .dotted hdotted hrest
        · obtain ⟨e, hback, htwin⟩ := exists_twin hcapital hsharp hsigma hdotted
          rw [hback]
          exact .letter htwin hrest

/-- Every character of a text in small letters is of the small form of a character of the text. -/
theorem exists_smallOf {before cs : List Char} {d : Char} (h : d ∈ lowerAfter before cs) :
    ∃ c ∈ cs, SmallOf c d := by
  induction cs generalizing before with
  | nil => cases h
  | cons c cs ih =>
      have hrest {before : List Char} (h : d ∈ lowerAfter before cs) : ∃ b ∈ c :: cs, SmallOf b d :=
        have ⟨b, hb, hd⟩ := ih h
        ⟨b, List.mem_cons_of_mem _ hb, hd⟩
      by_cases hsigma : c.val = 0x3A3
      · rw [lowerAfter_sigma hsigma, List.mem_cons] at h
        obtain hd | h := h
        · have hpair : ∀ n ∈ [0x3C2, 0x3C3], isBlank (Char.ofNat n) = false ∧
              Char.ofNat n ≠ '#' ∧ Char.ofNat n ≠ capitalSharpS ∧ Char.ofNat n ≠ smallSharpS := by
            decide
          have hn := hpair (if startsCased before && !startsCased cs then 0x3C2 else 0x3C3)
            (by split <;> simp)
          rw [← hd] at hn
          obtain ⟨hblank, hmark, hcapital, hsharp⟩ := hn
          exact ⟨c, List.mem_cons_self, fun _ _ => ⟨hblank, hmark⟩, hcapital,
            fun heq => absurd heq hsharp⟩
        · exact hrest h
      · rw [lowerAfter_cons hsigma, List.mem_append] at h
        obtain h | h := h
        · exact ⟨c, List.mem_cons_self, smallOf_of_mem_small h⟩
        · exact hrest h

/-! ## Texts -/

theorem toList_lower (s : String) : (lower s).toList = lowerAfter [] s.toList := by
  rw [lower, String.toList_ofList]

theorem lowerAfter_ne_nil {cs : List Char} (h : cs ≠ []) (before : List Char) :
    lowerAfter before cs ≠ [] := by
  cases cs with
  | nil => exact absurd rfl h
  | cons c cs =>
      by_cases hsigma : c.val = 0x3A3
      · rw [lowerAfter_sigma hsigma]
        exact List.cons_ne_nil _ _
      · rw [lowerAfter_cons hsigma]
        refine List.append_ne_nil_of_left_ne_nil ?_ _
        unfold small
        split
        · exact List.cons_ne_nil _ _
        · split <;> exact List.cons_ne_nil _ _

/-- The small form of every letter but the sigma is kept. -/
theorem mem_lowerAfter {c d : Char} {cs : List Char} (hc : c ∈ cs) (hsigma : c.val ≠ 0x3A3)
    (hd : d ∈ small c) (before : List Char) : d ∈ lowerAfter before cs := by
  induction cs generalizing before with
  | nil => cases hc
  | cons e cs ih =>
      obtain rfl | hc := List.mem_cons.1 hc
      · rw [lowerAfter_cons hsigma]
        exact List.mem_append_left _ hd
      · rw [lowerAfter]
        exact List.mem_append_right _ (ih hc _)

/-- A blank has no small form but itself. -/
theorem small_of_isBlank {b : Char} (h : isBlank b = true) : small b = [b] := by
  let codes : List Nat := [9, 10, 11, 12, 13, 32] ++
    blankRanges.flatMap fun r => List.range' r.1 (r.2 + 1 - r.1)
  have hcodes : ∀ n ∈ codes, small (Char.ofNat n) = [Char.ofNat n] := by decide +kernel
  have hmem : b.toNat ∈ codes := by
    have hval : b.val.toNat = b.toNat := rfl
    simp [isBlank, UInt32.le_iff_toNat_le, ← UInt32.toNat_inj, hval] at h
    simp [codes, blankRanges]
    omega
  have hsmall := hcodes b.toNat hmem
  rwa [Char.ofNat_toNat] at hsmall

/-- Small letters keep the blanks of a text. -/
theorem blank_mem_lower {s : String} {b : Char} (hb : isBlank b = true) (h : b ∈ s.toList) :
    b ∈ (lower s).toList := by
  have hsigma : b.val ≠ 0x3A3 := by
    intro heq
    rw [eq_ofNat_of_val heq] at hb
    revert hb
    decide
  rw [toList_lower]
  exact mem_lowerAfter h hsigma (by rw [small_of_isBlank hb]; exact List.mem_singleton_self b) []

/-- A word in small letters is a word. -/
theorem IsWord.lower {s : String} (h : IsWord s) : IsWord (lower s) := by
  have hchar {d : Char} (hd : d ∈ (Text.lower s).toList) : isBlank d = false ∧ d ≠ '#' := by
    rw [toList_lower] at hd
    obtain ⟨c, hc, hsmall⟩ := exists_smallOf hd
    exact hsmall.solid (h.solid c hc) fun hmark => h.unmarked (hmark ▸ hc)
  refine ⟨?_, fun d hd => (hchar hd).1, fun hmark => (hchar hmark).2 rfl⟩
  rw [toList_lower]
  exact lowerAfter_ne_nil h.ne_nil []

/-- A folded word is a word. -/
theorem IsWord.folded {s : String} (h : IsWord s) : IsWord (folded s) := h.upper.lower

/-! ## The sharp s -/

theorem capitalSharpS_notMem_lower (s : String) : capitalSharpS ∉ (lower s).toList := by
  intro h
  rw [toList_lower] at h
  obtain ⟨c, -, hsmall⟩ := exists_smallOf h
  exact hsmall.notCapital rfl

/-- Capitals have a capital sharp s where the text has one. -/
theorem capitalSharpS_mem_upper {s : String} :
    capitalSharpS ∈ (upper s).toList ↔ capitalSharpS ∈ s.toList := by
  have hself : capital capitalSharpS = [capitalSharpS] := by decide +kernel
  rw [toList_upper, List.mem_flatMap]
  constructor
  · rintro ⟨c, hc, hmem⟩
    rwa [eq_of_capitalSharpS_mem_capital hmem] at hc
  · exact fun h => ⟨_, h, by rw [hself]; exact List.mem_singleton_self _⟩

/-- A folded text has a small sharp s only where there was a capital one. -/
theorem smallSharpS_mem_folded {s : String} :
    smallSharpS ∈ (folded s).toList ↔ capitalSharpS ∈ s.toList := by
  rw [folded, toList_lower, ← capitalSharpS_mem_upper]
  constructor
  · intro h
    obtain ⟨c, hc, hsmall⟩ := exists_smallOf h
    obtain rfl | rfl := hsmall.sharp rfl
    · exact hc
    · have hpair : capital smallSharpS ≠ [smallSharpS] := by decide +kernel
      exact absurd (capital_of_mem_upper hc) hpair
  · have hsmall : small capitalSharpS = [smallSharpS] := by decide +kernel
    exact fun h => mem_lowerAfter h (by decide) (by simp [hsmall]) []

/-- **A folded text stays as it is when it is folded again**, exactly when the text has no capital
sharp s. -/
theorem folded_folded_iff {s : String} : folded (folded s) = folded s ↔ capitalSharpS ∉ s.toList := by
  constructor
  · intro hsame hsharp
    rw [← smallSharpS_mem_folded, ← hsame, smallSharpS_mem_folded] at hsharp
    exact capitalSharpS_notMem_lower _ hsharp
  · intro hsharp
    have halike : Alike (upper s).toList ((lowerAfter [] (upper s).toList).flatMap capital) := by
      refine alike_capitals (fun c hc => ⟨capital_of_mem_upper hc, ?_⟩) []
      rintro rfl
      exact hsharp (capitalSharpS_mem_upper.1 hc)
    rw [← String.toList_inj, folded, toList_lower, toList_upper, folded, toList_lower]
    exact (halike.lowerAfter_eq rfl).symm

end ShareLedger.Text
