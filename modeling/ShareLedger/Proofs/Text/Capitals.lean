import ShareLedger.Proofs.Text.Words
import ShareLedger.Text.Case
/-!
# Proofs.Text.Capitals

Capital letters are a fixed point: what was put in capitals stays as it is when it is put in
capitals again (`upper_upper`), and words stay words (`IsWord.upper`).

1. The codes that the tables of capitals lead to form rows, `low, low + step, …, high`.  A row is
   settled when it holds no code that the tables change, no blank and, of the first 128 codes,
   letters A to Z only (`settled`).
2. Every row of the tables is settled.  That is computed, row against row and not code against
   code, since a run of the table has up to 512 codes.
3. Hence every character of a capital form is its own capital form (`capitalized_of_mem_capital`).
-/

namespace ShareLedger.Text

/-! ## Rows of codes -/

/-- Whether a row of codes has none in common with the codes `first, first + step', …, last`: one
of them lies behind the other, or they take every second code in turn.  The numbers are compared by
the functions that the kernel computes itself. -/
def disjoint (low high step first last step' : Nat) : Bool :=
  (high + 1).ble first || (last + 1).ble low ||
    ((step.beq 2 || low.beq high) && (step'.beq 2 || first.beq last) &&
      ((low + first) % 2).beq 1)

/-- The first and the last code of every range of blanks behind the first 128 codes. -/
def blankRanges : List (Nat × Nat) :=
  [(0x85, 0x85), (0xA0, 0xA0), (0x1680, 0x1680), (0x2000, 0x200A), (0x2028, 0x2029),
    (0x202F, 0x202F), (0x205F, 0x205F), (0x3000, 0x3000)]

/-- Whether no code of a row is changed by the tables of capitals, and none is that of a blank. -/
def settled (low high step : Nat) : Bool :=
  (high < 0xD800 || (0xDFFF < low && high < 0x110000)) &&
  ((65 ≤ low && high ≤ 90) ||
    (128 ≤ low &&
      capitalRuns.all (fun r => disjoint low high step r.first r.last r.step) &&
      capitalSequences.all (fun s => disjoint low high step s.1 s.1 1) &&
      blankRanges.all (fun r => high < r.1 || r.2 < low)))

/-- The images of every run are settled. -/
theorem settled_capitalRuns :
    capitalRuns.all (fun r => settled r.image (r.image + (r.last - r.first)) r.step) = true := by
  decide +kernel

/-- The members of every sequence are settled. -/
theorem settled_capitalSequences :
    capitalSequences.all (fun s => s.2 != [] && s.2.all fun n => settled n n 1) = true := by
  decide +kernel

/-- The codes of a row are `low`, `low + step` and so on. -/
def InRow (low high step n : Nat) : Prop := low ≤ n ∧ n ≤ high ∧ (n - low) % step = 0

theorem InRow.odd {low high step n : Nat} (h : InRow low high step n)
    (hrow : step = 2 ∨ low = high) : (n - low) % 2 = 0 := by
  obtain ⟨hlow, hhigh, hstep⟩ := h
  obtain rfl | rfl := hrow
  · exact hstep
  · omega

theorem not_inRow_of_disjoint {low high step first last step' n : Nat}
    (h : disjoint low high step first last step' = true) (hn : InRow low high step n) :
    ¬ InRow first last step' n := by
  intro hn'
  simp only [disjoint, Bool.or_eq_true, Bool.and_eq_true, Nat.ble_eq, Nat.beq_eq] at h
  have hbounds := hn.1
  have hbounds' := hn.2.1
  have hbounds'' := hn'.1
  obtain (h | h) | ⟨⟨hrow, hrow'⟩, hodd⟩ := h
  · omega
  · have := hn'.2.1
    omega
  · have hsame := hn.odd hrow
    have hsame' := hn'.odd hrow'
    omega

/-! ## Settled codes -/

theorem toNat_ofNat {n : Nat} (h : n.isValidChar) : (Char.ofNat n).toNat = n := by
  rw [Char.ofNat, dif_pos h]
  rfl

/-- Behind the first 128 codes the blanks are those of the ranges. -/
theorem isBlank_eq_false {c : Char} (hbeyond : 128 ≤ c.toNat)
    (h : ∀ r ∈ blankRanges, c.toNat < r.1 ∨ r.2 < c.toNat) : isBlank c = false := by
  have hval : c.val.toNat = c.toNat := rfl
  simp only [blankRanges, List.forall_mem_cons] at h
  simp [isBlank, UInt32.le_iff_toNat_le, ← UInt32.toNat_inj, hval]
  omega

/-- A character that no table has is its own capital form. -/
theorem capital_eq_self {c : Char} (hbeyond : 128 ≤ c.toNat)
    (hsequences : ∀ s ∈ capitalSequences, s.1 ≠ c.toNat)
    (hruns : ∀ r ∈ capitalRuns, ¬ InRow r.first r.last r.step c.toNat) : capital c = [c] := by
  have hlookup : capitalSequences.lookup c.toNat = none := by
    rw [List.lookup_eq_none_iff]
    exact fun s hs => by simpa using (hsequences s hs).symm
  have himage : imageIn capitalRuns c.toNat = c.toNat := by
    have hfind : capitalRuns.find? (fun r =>
        r.first ≤ c.toNat && c.toNat ≤ r.last && (c.toNat - r.first) % r.step == 0) = none := by
      rw [List.find?_eq_none]
      intro r hr hin
      simp only [Bool.and_eq_true, decide_eq_true_eq, beq_iff_eq] at hin
      exact hruns r hr ⟨hin.1.1, hin.1.2, hin.2⟩
    rw [imageIn, hfind]
  have hval : ¬ c.val < 128 := by
    rw [UInt32.lt_iff_toNat_lt]
    exact Nat.not_lt.2 hbeyond
  rw [capital, if_neg hval, hlookup, himage, Char.ofNat_toNat]

/-- A character in a settled row is its own capital form and can stand in a word. -/
theorem capital_of_settled {low high step n : Nat} (h : settled low high step = true)
    (hn : InRow low high step n) :
    capital (Char.ofNat n) = [Char.ofNat n] ∧ isBlank (Char.ofNat n) = false ∧
      Char.ofNat n ≠ '#' := by
  have hlow := hn.1
  have hhigh := hn.2.1
  simp only [settled, Bool.and_eq_true, Bool.or_eq_true, decide_eq_true_eq, List.all_eq_true] at h
  obtain ⟨hvalid, hcases⟩ := h
  have hcode : (Char.ofNat n).toNat = n := toNat_ofNat (by
    unfold Nat.isValidChar
    omega)
  obtain hletters | ⟨⟨⟨hbeyond, hruns⟩, hsequences⟩, hblanks⟩ := hcases
  · -- Of the first 128 codes, those of the letters A to Z.
    have hletter : ∀ k ∈ List.range 26, capital (Char.ofNat (65 + k)) = [Char.ofNat (65 + k)] ∧
        isBlank (Char.ofNat (65 + k)) = false ∧ Char.ofNat (65 + k) ≠ '#' := by decide
    have hk := hletter (n - 65) (List.mem_range.2 (by omega))
    rwa [show 65 + (n - 65) = n by omega] at hk
  · refine ⟨capital_eq_self (by omega) (fun s hs heq => ?_) (fun r hr => ?_),
      isBlank_eq_false (by omega) (fun r hr => ?_), fun hmark => ?_⟩
    · refine not_inRow_of_disjoint (hsequences s hs) hn ?_
      rw [heq, hcode]
      exact ⟨Nat.le_refl n, Nat.le_refl n, by simp⟩
    · rw [hcode]
      exact not_inRow_of_disjoint (hruns r hr) hn
    · have := hblanks r hr
      omega
    · rw [hmark] at hcode
      have : '#'.toNat = 35 := rfl
      omega

/-! ## Capital forms -/

theorem mem_of_lookup {n : Nat} {codes : List Nat} (h : capitalSequences.lookup n = some codes) :
    (n, codes) ∈ capitalSequences := by
  obtain ⟨before, after, heq, -⟩ := List.lookup_eq_some_iff.1 h
  rw [heq]
  exact List.mem_append_right _ List.mem_cons_self

theorem capital_ne_nil (c : Char) : capital c ≠ [] := by
  unfold capital
  split
  · simp
  · split
    · next codes hlookup =>
        have hsettled := List.all_eq_true.1 settled_capitalSequences _ (mem_of_lookup hlookup)
        simp only [Bool.and_eq_true, bne_iff_ne] at hsettled
        simpa using hsettled.1
    · simp

/-- The second character stays as it is in capitals, and it can stand in a word if the first one
can. -/
def Capitalized (c d : Char) : Prop :=
  capital d = [d] ∧ (isBlank c = false → c ≠ '#' → isBlank d = false ∧ d ≠ '#')

/-- A character that is its own capital form. -/
theorem capitalized_self {c : Char} (h : capital c = [c]) : Capitalized c c :=
  ⟨h, fun hblank hmark => ⟨hblank, hmark⟩⟩

/-- A code in a settled row. -/
theorem capitalized_of_settled {low high step n : Nat} (h : settled low high step = true)
    (hn : InRow low high step n) (c : Char) : Capitalized c (Char.ofNat n) := by
  obtain ⟨hcapital, hword⟩ := capital_of_settled h hn
  exact ⟨hcapital, fun _ _ => hword⟩

/-- The first 128 codes: the small letters lead to the capital ones, which are a settled row. -/
theorem capitalized_capitalAscii {c : Char} (h : c.val < 128) :
    Capitalized c (capitalAscii c) := by
  unfold capitalAscii
  split
  · next hsmall =>
      have hval : c.val.toNat = c.toNat := rfl
      simp only [UInt32.le_iff_toNat_le, hval] at hsmall
      have hletters : settled 65 90 1 = true := by decide +kernel
      have hrow : InRow 65 90 1 (c.toNat - 32) :=
        ⟨Nat.le_sub_of_add_le hsmall.1, Nat.sub_le_of_le_add hsmall.2, Nat.mod_one _⟩
      exact capitalized_of_settled hletters hrow c
  · next hother =>
      apply capitalized_self
      rw [capital, if_pos h, capitalAscii, if_neg hother]

/-- The members of a sequence. -/
theorem capitalized_sequence {c : Char} {codes : List Nat} {n : Nat}
    (h : capitalSequences.lookup c.toNat = some codes) (hn : n ∈ codes) :
    Capitalized c (Char.ofNat n) := by
  have hsettled := List.all_eq_true.1 settled_capitalSequences _ (mem_of_lookup h)
  simp only [Bool.and_eq_true, List.all_eq_true] at hsettled
  have hrow : InRow n n 1 n := ⟨Nat.le_refl n, Nat.le_refl n, Nat.mod_one _⟩
  exact capitalized_of_settled (hsettled.2 n hn) hrow c

/-- The codes that no sequence is for: those of a run lead into its image, others to themselves. -/
theorem capitalized_image {c : Char} (hbeyond : ¬ c.val < 128)
    (h : capitalSequences.lookup c.toNat = none) :
    Capitalized c (Char.ofNat (imageIn capitalRuns c.toNat)) := by
  cases hfind : capitalRuns.find? (fun r =>
      r.first ≤ c.toNat && c.toNat ≤ r.last && (c.toNat - r.first) % r.step == 0) with
  | some r =>
      have hin := List.find?_some hfind
      simp only [Bool.and_eq_true, decide_eq_true_eq, beq_iff_eq] at hin
      obtain ⟨⟨hfirst, hlast⟩, hstep⟩ := hin
      have hsettled := List.all_eq_true.1 settled_capitalRuns r (List.mem_of_find?_eq_some hfind)
      have hrow : InRow r.image (r.image + (r.last - r.first)) r.step
          (r.image + (c.toNat - r.first)) := by
        refine ⟨Nat.le_add_right _ _, by omega, ?_⟩
        rw [Nat.add_sub_cancel_left]
        exact hstep
      rw [imageIn, hfind]
      exact capitalized_of_settled hsettled hrow c
  | none =>
      have himage : imageIn capitalRuns c.toNat = c.toNat := by rw [imageIn, hfind]
      rw [himage, Char.ofNat_toNat]
      apply capitalized_self
      rw [capital, if_neg hbeyond, h, himage, Char.ofNat_toNat]

/-- Every character of a capital form is its own capital form. -/
theorem capitalized_of_mem_capital {c d : Char} (h : d ∈ capital c) : Capitalized c d := by
  unfold capital at h
  split at h
  · next hascii =>
      obtain rfl := List.mem_singleton.1 h
      exact capitalized_capitalAscii hascii
  · next hbeyond =>
      split at h
      · next codes hlookup =>
          obtain ⟨n, hn, rfl⟩ := List.mem_map.1 h
          exact capitalized_sequence hlookup hn
      · next hlookup =>
          obtain rfl := List.mem_singleton.1 h
          exact capitalized_image hbeyond hlookup

/-! ## Texts in capitals -/

theorem toList_upper (s : String) : (upper s).toList = s.toList.flatMap capital := by
  rw [upper, String.toList_ofList]

theorem upper_append (s t : String) : upper (s ++ t) = upper s ++ upper t := by
  rw [← String.toList_inj, String.toList_append, toList_upper, toList_upper, toList_upper,
    String.toList_append, List.flatMap_append]

/-- A text stays as it is in capitals when all its characters do. -/
theorem upper_eq_self {s : String} (h : ∀ c ∈ s.toList, capital c = [c]) : upper s = s := by
  rw [← String.toList_inj, toList_upper]
  revert h
  generalize s.toList = cs
  intro h
  induction cs with
  | nil => rfl
  | cons c cs ih =>
      rw [List.flatMap_cons, h c List.mem_cons_self, ih fun d hd => h d (List.mem_cons_of_mem _ hd)]
      rfl

theorem capital_of_mem_upper {s : String} {c : Char} (h : c ∈ (upper s).toList) :
    capital c = [c] := by
  rw [toList_upper] at h
  obtain ⟨b, -, hc⟩ := List.mem_flatMap.1 h
  exact (capitalized_of_mem_capital hc).1

/-- **Capitals are a fixed point.** -/
theorem upper_upper (s : String) : upper (upper s) = upper s :=
  upper_eq_self fun _ hc => capital_of_mem_upper hc

/-- A word in capitals is a word. -/
theorem IsWord.upper {s : String} (h : IsWord s) : IsWord (upper s) := by
  have hchar {c : Char} (hc : c ∈ (Text.upper s).toList) : isBlank c = false ∧ c ≠ '#' := by
    rw [toList_upper] at hc
    obtain ⟨b, hb, hc⟩ := List.mem_flatMap.1 hc
    exact (capitalized_of_mem_capital hc).2 (h.solid b hb) fun hmark => h.unmarked (hmark ▸ hb)
  refine ⟨?_, fun c hc => (hchar hc).1, fun hmark => (hchar hmark).2 rfl⟩
  obtain ⟨b, hb⟩ := List.exists_mem_of_ne_nil _ h.ne_nil
  obtain ⟨c, hc⟩ := List.exists_mem_of_ne_nil _ (capital_ne_nil b)
  rw [toList_upper]
  exact List.ne_nil_of_mem (List.mem_flatMap.2 ⟨b, hb, hc⟩)

end ShareLedger.Text
