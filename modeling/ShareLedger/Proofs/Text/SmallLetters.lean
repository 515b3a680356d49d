import ShareLedger.Proofs.Text.Capitals
/-!
# Proofs.Text.SmallLetters

The small form of a character, and what becomes of it when it is put in capitals again.

1. The tables of the two cases are not inverse to each other, but from the small form of a capital
   letter the capital form leads back to the letter, or to another one with the same small form
   (`exists_twin`).  Two letters go their own ways: the capital I with a dot leads to two characters,
   and the capital sharp s leads to `SS`.
2. That is settled run against run: the small forms of a run meet one run of capitals, and it undoes
   the run (`returns`).  The codes of the few other runs are settled one by one.
3. The characters of small forms can stand in words, and none of them is a sharp s that does not come
   from one (`SmallOf`).
-/

namespace ShareLedger.Text

/-- The capital sharp s. -/
def capitalSharpS : Char := Char.ofNat 0x1E9E

/-- The small sharp s. -/
def smallSharpS : Char := Char.ofNat 0xDF

/-! ## Codes -/

/-- A character is that of its code. -/
theorem eq_ofNat_of_val {c : Char} {v : UInt32} (h : c.val = v) : c = Char.ofNat v.toNat := by
  rw [← h]
  exact (Char.ofNat_toNat c).symm

/-- A character is had from its own code only. -/
theorem code_of_ofNat_eq {n : Nat} {c : Char} (h : Char.ofNat n = c) (hc : c.toNat ≠ 0) :
    n = c.toNat := by
  subst h
  by_cases hvalid : n.isValidChar
  · exact (toNat_ofNat hvalid).symm
  · rw [Char.ofNat, dif_neg hvalid] at hc
    exact absurd rfl hc

/-- A character in a row of 26 is one of its letters. -/
theorem exists_letter {c : Char} {low high : UInt32} (h : low ≤ c.val ∧ c.val ≤ high)
    (hrow : high.toNat = low.toNat + 25) : ∃ k ∈ List.range 26, c = Char.ofNat (low.toNat + k) := by
  simp only [UInt32.le_iff_toNat_le] at h
  refine ⟨c.val.toNat - low.toNat, List.mem_range.2 (by omega), ?_⟩
  rw [Nat.add_sub_cancel' h.1]
  exact (Char.ofNat_toNat c).symm

/-- The letters A to Z have small forms, and every other character stays as it is. -/
theorem smallAscii_cases (c : Char) :
    smallAscii c = c ∨
      ∃ k ∈ List.range 26, c = Char.ofNat (65 + k) ∧ smallAscii c = Char.ofNat (97 + k) := by
  unfold smallAscii
  split
  · next hletter =>
      have hsmall : ∀ k ∈ List.range 26,
          Char.ofNat ((Char.ofNat (65 + k)).toNat + 32) = Char.ofNat (97 + k) := by decide
      obtain ⟨k, hk, rfl⟩ := exists_letter hletter rfl
      exact .inr ⟨k, hk, rfl, hsmall k hk⟩
  · exact .inl rfl

/-! ## Codes of runs -/

/-- Whether a code is one of a run. -/
def CaseRun.Has (r : CaseRun) (n : Nat) : Prop := InRow r.first r.last r.step n

/-- A code is led on by a run that has it, and stays where it is when there is none. -/
theorem imageIn_cases (runs : List CaseRun) (n : Nat) :
    (∃ r ∈ runs, r.Has n ∧ imageIn runs n = r.image + (n - r.first)) ∨
      (∀ r ∈ runs, ¬ r.Has n) ∧ imageIn runs n = n := by
  unfold imageIn
  cases hfind : runs.find? fun r =>
      r.first ≤ n && n ≤ r.last && (n - r.first) % r.step == 0 with
  | some r =>
      have hin := List.find?_some hfind
      simp only [Bool.and_eq_true, decide_eq_true_eq, beq_iff_eq] at hin
      exact .inl ⟨r, List.mem_of_find?_eq_some hfind, ⟨hin.1.1, hin.1.2, hin.2⟩, rfl⟩
  | none =>
      refine .inr ⟨fun r hr hin => ?_, rfl⟩
      have hnot := List.find?_eq_none.1 hfind r hr
      simp only [Bool.and_eq_true, decide_eq_true_eq, beq_iff_eq] at hnot
      exact hnot ⟨⟨hin.1, hin.2.1⟩, hin.2.2⟩

/-- The image of the last code of a run. -/
def CaseRun.lastImage (r : CaseRun) : Nat := r.image + (r.last - r.first)

/-- The images of a run's codes form a row, too. -/
theorem CaseRun.Has.image {r : CaseRun} {n : Nat} (h : r.Has n) :
    InRow r.image r.lastImage r.step (r.image + (n - r.first)) := by
  obtain ⟨hfirst, hlast, hstep⟩ := h
  refine ⟨Nat.le_add_right _ _, Nat.add_le_add_left (by omega) _, ?_⟩
  rwa [Nat.add_sub_cancel_left]

/-! ## There and back -/

/-- Whether one run has all images of another one and leads them back. -/
def CaseRun.undoes (q r : CaseRun) : Bool :=
  q.first.ble r.image && r.lastImage.ble q.last && ((r.image - q.first) % q.step).beq 0 &&
    (r.step % q.step).beq 0 && (q.image + (r.image - q.first)).beq r.first

theorem CaseRun.Has.undone {q r : CaseRun} {n : Nat} (hn : r.Has n) (h : q.undoes r = true) :
    q.Has (r.image + (n - r.first)) ∧
      q.image + (r.image + (n - r.first) - q.first) = n := by
  obtain ⟨-, hlast, -⟩ := hn.image
  obtain ⟨hfirst, -, hstep⟩ := hn
  simp only [undoes, Bool.and_eq_true, Nat.ble_eq, Nat.beq_eq] at h
  obtain ⟨⟨⟨⟨hfirst', hlast'⟩, hoffset⟩, hsteps⟩, himage⟩ := h
  refine ⟨⟨by omega, by omega, ?_⟩, by omega⟩
  have hsplit : r.image + (n - r.first) - q.first = r.image - q.first + (n - r.first) := by omega
  have hdvd : q.step ∣ n - r.first :=
    Nat.dvd_trans (Nat.dvd_of_mod_eq_zero hsteps) (Nat.dvd_of_mod_eq_zero hstep)
  rw [hsplit]
  exact Nat.mod_eq_zero_of_dvd (Nat.dvd_add (Nat.dvd_of_mod_eq_zero hoffset) hdvd)

/-- Whether one run has codes in common with the images of another one. -/
def CaseRun.meets (q r : CaseRun) : Bool :=
  !disjoint r.image r.lastImage r.step q.first q.last q.step

/-- Whether the capital form leads back from all small forms of a run: they lie behind the first 128
codes, no sequence is for them, and they meet one run of capitals only, which undoes the run. -/
def returns (r : CaseRun) : Bool :=
  (128).ble r.image &&
  capitalSequences.all (fun s => disjoint r.image r.lastImage r.step s.1 s.1 1) &&
  match capitalRuns.filter (·.meets r) with
  | [q] => q.undoes r
  | _ => false

theorem capital_of_returns {r : CaseRun} {n : Nat} (h : returns r = true) (hn : r.Has n)
    (hvalid : (r.image + (n - r.first)).isValidChar) :
    capital (Char.ofNat (r.image + (n - r.first))) = [Char.ofNat n] := by
  have hrow := hn.image
  have hcode := toNat_ofNat hvalid
  have hbeyond : ¬ (Char.ofNat (r.image + (n - r.first))).val < 128 := by
    have hval : (Char.ofNat (r.image + (n - r.first))).val.toNat = r.image + (n - r.first) := hcode
    simp only [returns, Bool.and_eq_true, Nat.ble_eq] at h
    rw [UInt32.lt_iff_toNat_lt, hval]
    exact Nat.not_lt.2 (Nat.le_trans h.1.1 hrow.1)
  have hlookup : capitalSequences.lookup (r.image + (n - r.first)) = none := by
    simp only [returns, Bool.and_eq_true, List.all_eq_true] at h
    rw [List.lookup_eq_none_iff]
    intro s hs
    rw [bne_iff_ne]
    intro hsame
    refine not_inRow_of_disjoint (h.1.2 s hs) hrow ?_
    rw [hsame]
    exact ⟨Nat.le_refl _, Nat.le_refl _, by simp⟩
  have himage : imageIn capitalRuns (r.image + (n - r.first)) = n := by
    simp only [returns, Bool.and_eq_true] at h
    obtain ⟨-, honly⟩ := h
    split at honly
    · next q hq =>
        obtain ⟨hhas, hback⟩ := hn.undone honly
        have hmem : q ∈ capitalRuns.filter (·.meets r) := by simp [hq]
        obtain ⟨q', hq', hhas', himage⟩ | ⟨hnone, -⟩ :=
          imageIn_cases capitalRuns (r.image + (n - r.first))
        · -- A run that has the code meets the images, so it is the only one that does.
          have hmeets : q'.meets r = true := by
            rw [CaseRun.meets, Bool.not_eq_true', Bool.eq_false_iff]
            exact fun hdisjoint => not_inRow_of_disjoint hdisjoint hrow hhas'
          have hmem' : q' ∈ capitalRuns.filter (·.meets r) := List.mem_filter.2 ⟨hq', hmeets⟩
          rw [hq, List.mem_singleton] at hmem'
          subst hmem'
          exact himage.trans hback
        · exact absurd hhas (hnone q (List.mem_filter.1 hmem).1)
    · cases honly
  rw [capital, if_neg hbeyond, hcode, hlookup, himage]

/-- Whether the small forms of a run can stand in a word, and none of them is a sharp s unless the
run is that of the capital one. -/
def solidRun (r : CaseRun) : Bool :=
  (r.lastImage < 0xD800 || (0xDFFF < r.image && r.lastImage < 0x110000)) &&
  ((97 ≤ r.image && r.lastImage ≤ 122) ||
    (128 ≤ r.image && blankRanges.all (fun b => r.lastImage < b.1 || b.2 < r.image))) &&
  (r.lastImage < 0x1E9E || 0x1E9E < r.image) &&
  (r.lastImage < 0xDF || 0xDF < r.image || r.first == 0x1E9E && r.last == 0x1E9E)

theorem solid_smallRuns : smallRuns.all solidRun = true := by
  decide +kernel

/-- The small forms of a run are characters. -/
theorem valid_image {r : CaseRun} {n : Nat} (hr : r ∈ smallRuns) (hn : r.Has n) :
    (r.image + (n - r.first)).isValidChar := by
  have hsolid := List.all_eq_true.1 solid_smallRuns r hr
  obtain ⟨hlow, hhigh, -⟩ := hn.image
  simp only [solidRun, Bool.and_eq_true, Bool.or_eq_true, decide_eq_true_eq] at hsolid
  obtain ⟨⟨⟨hvalid, -⟩, -⟩, -⟩ := hsolid
  unfold Nat.isValidChar
  omega

/-- The codes of a run, one by one. -/
def CaseRun.codes (r : CaseRun) : List Nat :=
  (List.range ((r.last - r.first) / r.step + 1)).map fun k => r.first + r.step * k

theorem CaseRun.Has.mem_codes {r : CaseRun} {n : Nat} (h : r.Has n) : n ∈ r.codes := by
  obtain ⟨hfirst, hlast, hstep⟩ := h
  refine List.mem_map.2 ⟨(n - r.first) / r.step, List.mem_range.2 ?_, ?_⟩
  · exact Nat.lt_succ_of_le (Nat.div_le_div_right (by omega))
  · rw [Nat.mul_div_cancel' (Nat.dvd_of_mod_eq_zero hstep), Nat.add_sub_cancel' hfirst]

/-- The capital letters that are written twice, with the letter to which their small form leads: the
symbols of theta, ohm, kelvin and angstrom. -/
def doubles : List (Nat × Nat) :=
  [(0x3F4, 0x398), (0x2126, 0x3A9), (0x212A, 0x4B), (0x212B, 0xC5)]

/-- Whether a code is that of no capital letter, or the capital form leads back from its small form,
or it is one of those for which something else is known. -/
def codeReturns (n : Nat) : Bool :=
  let c := Char.ofNat n
  n.beq 0x1E9E || doubles.any (fun d => n.beq d.1) || (small c).flatMap capital == [c] ||
    capital c != [c]

/-- The runs whose images are all led back, and the codes of the others. -/
theorem returns_smallRuns :
    smallRuns.all (fun r => returns r || r.codes.all codeReturns) = true := by
  decide +kernel

/-! ## Letters and their doubles -/

/-- Two characters with one small form, both of the same kind, and neither of them a capital
sigma. -/
structure Twin (c e : Char) : Prop where
  small : small e = small c
  cased : isCased e = isCased c
  ignorable : isCaseIgnorable e = isCaseIgnorable c
  notSigma : c.val ≠ 0x3A3 ∧ e.val ≠ 0x3A3

theorem Twin.refl {c : Char} (h : c.val ≠ 0x3A3) : Twin c c := ⟨rfl, rfl, rfl, h, h⟩

/-- The small form of a letter that is written twice leads to its double. -/
theorem twin_doubles : ∀ d ∈ doubles,
    (small (Char.ofNat d.1)).flatMap capital = [Char.ofNat d.2] ∧
      Twin (Char.ofNat d.1) (Char.ofNat d.2) := by
  have hkinds : (doubles.all fun d =>
      let c := Char.ofNat d.1
      let e := Char.ofNat d.2
      (small c).flatMap capital == [e] && small e == small c && isCased e == isCased c &&
        isCaseIgnorable e == isCaseIgnorable c && c.val != 0x3A3 && e.val != 0x3A3) = true := by
    decide +kernel
  intro d hd
  have hd := List.all_eq_true.1 hkinds d hd
  simp only [Bool.and_eq_true, beq_iff_eq, bne_iff_ne] at hd
  obtain ⟨⟨⟨⟨⟨hback, hsmall⟩, hcased⟩, hignorable⟩, hc⟩, he⟩ := hd
  exact ⟨hback, hsmall, hcased, hignorable, hc, he⟩

/-- The capitals A to Z are led back, and so are all others of the first 128 characters that are
capitals. -/
theorem back_of_ascii {c : Char} (hascii : c.val < 128) (hcapital : capital c = [c]) :
    (small c).flatMap capital = [c] := by
  rw [small, if_pos hascii, List.flatMap_singleton]
  obtain hsame | ⟨k, hk, rfl, hsmall⟩ := smallAscii_cases c
  · rw [hsame, hcapital]
  · have hletters : ∀ k ∈ List.range 26, capital (Char.ofNat (97 + k)) = [Char.ofNat (65 + k)] := by
      decide
    rw [hsmall, hletters k hk]

/-- **From the small form of a capital letter the capital form leads back to the letter or to its
double**, the sharp s, the sigma and the I with a dot set aside. -/
theorem exists_twin {c : Char} (hcapital : capital c = [c]) (hsharp : c ≠ capitalSharpS)
    (hsigma : c.val ≠ 0x3A3) (hdotted : c.val ≠ 0x130) :
    ∃ e, (small c).flatMap capital = [e] ∧ Twin c e := by
  by_cases hascii : c.val < 128
  · exact ⟨c, back_of_ascii hascii hcapital, .refl hsigma⟩
  · have hsmall : small c = [Char.ofNat (imageIn smallRuns c.toNat)] := by
      rw [small, if_neg hascii, if_neg hdotted]
    obtain ⟨r, hr, hhas, himage⟩ | ⟨-, himage⟩ := imageIn_cases smallRuns c.toNat
    · have hreturns := List.all_eq_true.1 returns_smallRuns r hr
      rw [Bool.or_eq_true, List.all_eq_true] at hreturns
      obtain hreturns | hcodes := hreturns
      · refine ⟨c, ?_, .refl hsigma⟩
        have hback := capital_of_returns hreturns hhas (valid_image hr hhas)
        rw [hsmall, himage, List.flatMap_singleton, hback, Char.ofNat_toNat]
      · have hcode := hcodes _ hhas.mem_codes
        simp only [codeReturns, Char.ofNat_toNat, Bool.or_eq_true, Nat.beq_eq, List.any_eq_true,
          beq_iff_eq, bne_iff_ne] at hcode
        obtain ((hcode | ⟨d, hd, hcode⟩) | hback) | hother := hcode
        · refine absurd ?_ hsharp
          rw [← Char.ofNat_toNat c, hcode, capitalSharpS]
        · have htwin := twin_doubles d hd
          rw [← hcode, Char.ofNat_toNat] at htwin
          exact ⟨_, htwin⟩
        · exact ⟨c, hback, .refl hsigma⟩
        · exact absurd hcapital hother
    · refine ⟨c, ?_, .refl hsigma⟩
      rw [hsmall, himage, Char.ofNat_toNat, List.flatMap_singleton, hcapital]

/-! ## Characters of small forms -/

/-- What a character of the small form of another one is: solid if that one is, and no sharp s
unless it comes from one. -/
structure SmallOf (c d : Char) : Prop where
  solid : isBlank c = false → c ≠ '#' → isBlank d = false ∧ d ≠ '#'
  notCapital : d ≠ capitalSharpS
  sharp : d = smallSharpS → c = capitalSharpS ∨ c = smallSharpS

theorem smallOf_self {c : Char} (h : c ≠ capitalSharpS) : SmallOf c c :=
  ⟨fun hblank hmark => ⟨hblank, hmark⟩, h, .inr⟩

/-- The letters a to z can stand in words, and none of them is a sharp s. -/
theorem solid_smallLetter {k : Nat} (hk : k ∈ List.range 26) :
    isBlank (Char.ofNat (97 + k)) = false ∧ Char.ofNat (97 + k) ≠ '#' ∧
      Char.ofNat (97 + k) ≠ capitalSharpS ∧ Char.ofNat (97 + k) ≠ smallSharpS := by
  revert k
  decide

/-- The small forms of a run. -/
theorem smallOf_image {r : CaseRun} {c : Char} (hr : r ∈ smallRuns) (hhas : r.Has c.toNat) :
    SmallOf c (Char.ofNat (r.image + (c.toNat - r.first))) := by
  have hcode := toNat_ofNat (valid_image hr hhas)
  have hsolid := List.all_eq_true.1 solid_smallRuns r hr
  obtain ⟨hlow, hhigh, -⟩ := hhas.image
  simp only [solidRun, Bool.and_eq_true, Bool.or_eq_true, decide_eq_true_eq, List.all_eq_true,
    beq_iff_eq] at hsolid
  obtain ⟨⟨⟨-, hplain⟩, hcapital⟩, hsharp⟩ := hsolid
  generalize r.image + (c.toNat - r.first) = n at hlow hhigh hcode ⊢
  refine ⟨fun _ _ => ?_, fun heq => ?_, fun heq => .inl ?_⟩
  · obtain hletter | ⟨hbeyond, hblanks⟩ := hplain
    · have hk : n - 97 ∈ List.range 26 := List.mem_range.2 (by omega)
      obtain ⟨hblank, hmark, -⟩ := solid_smallLetter hk
      rw [show 97 + (n - 97) = n by omega] at hblank hmark
      exact ⟨hblank, hmark⟩
    · refine ⟨isBlank_eq_false (by omega) fun b hb => ?_, fun hmark => ?_⟩
      · have := hblanks b hb
        omega
      · have hn : n = 35 := by rw [← hcode, hmark]; rfl
        omega
  · have hn : n = 0x1E9E := by rw [← hcode, heq]; rfl
    omega
  · have hn : n = 0xDF := by rw [← hcode, heq]; rfl
    obtain ⟨hfirst, hlast, -⟩ := hhas
    have hc : c.toNat = 0x1E9E := by omega
    rw [capitalSharpS, ← hc, Char.ofNat_toNat]

theorem smallOf_of_mem_small {c d : Char} (h : d ∈ small c) : SmallOf c d := by
  unfold small at h
  split at h
  · next hascii =>
      obtain rfl := List.mem_singleton.1 h
      obtain hsame | ⟨k, hk, rfl, hsmall⟩ := smallAscii_cases c
      · rw [hsame]
        refine smallOf_self ?_
        rintro rfl
        revert hascii
        decide
      · obtain ⟨hblank, hmark, hcapital, hsharp⟩ := solid_smallLetter hk
        rw [hsmall]
        exact ⟨fun _ _ => ⟨hblank, hmark⟩, hcapital, fun heq => absurd heq hsharp⟩
  · split at h
    · simp only [List.mem_cons, List.not_mem_nil, or_false] at h
      obtain rfl | rfl := h <;>
        exact ⟨fun _ _ => by decide, by decide, fun heq => absurd heq (by decide)⟩
    · obtain rfl := List.mem_singleton.1 h
      obtain ⟨r, hr, hhas, himage⟩ | ⟨-, himage⟩ := imageIn_cases smallRuns c.toNat
      · rw [himage]
        exact smallOf_image hr hhas
      · rw [himage, Char.ofNat_toNat]
        refine smallOf_self ?_
        rintro rfl
        revert himage
        decide +kernel

/-- The capital sharp s is the capital form of itself only. -/
theorem eq_of_capitalSharpS_mem_capital {c : Char} (h : capitalSharpS ∈ capital c) :
    c = capitalSharpS := by
  have htables : (capitalRuns.all (fun r => r.lastImage < 0x1E9E || 0x1E9E < r.image) &&
      capitalSequences.all (fun s => s.2.all fun n => n != 0x1E9E)) = true := by decide +kernel
  simp only [Bool.and_eq_true, List.all_eq_true, Bool.or_eq_true, decide_eq_true_eq,
    bne_iff_ne] at htables
  obtain ⟨hruns, hsequences⟩ := htables
  have hcode {n : Nat} (hn : Char.ofNat n = capitalSharpS) : n = 0x1E9E :=
    code_of_ofNat_eq hn (by decide)
  unfold capital at h
  split at h
  · have hletter := List.mem_singleton.1 h
    unfold capitalAscii at hletter
    split at hletter
    · next hsmall =>
        have := hcode hletter.symm
        have hhigh : c.toNat ≤ 122 := UInt32.le_iff_toNat_le.1 hsmall.2
        omega
    · exact hletter.symm
  · split at h
    · next codes hlookup =>
        obtain ⟨n, hn, heq⟩ := List.mem_map.1 h
        exact absurd (hcode heq) (hsequences _ (mem_of_lookup hlookup) n hn)
    · have heq := (List.mem_singleton.1 h).symm
      obtain ⟨r, hr, hhas, himage⟩ | ⟨-, himage⟩ := imageIn_cases capitalRuns c.toNat
      · rw [himage] at heq
        have hlow := hhas.image.1
        have hhigh := hhas.image.2.1
        have := hcode heq
        have := hruns r hr
        omega
      · rw [himage, Char.ofNat_toNat] at heq
        exact heq

end ShareLedger.Text
