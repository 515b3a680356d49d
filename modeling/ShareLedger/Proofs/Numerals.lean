import Mathlib.Data.List.TakeWhile
import ShareLedger.Amount
import ShareLedger.Proofs.Text.Words
/-!
# Proofs.Numerals

Amounts in decimal text.

1. The numeral of an integer is one sign or none and then digits, however many, up to the first other
   character (`Amount.Numeral`).  What is read of a text is the numeral in front of it
   (`Amount.numeral_of_readChars`).
2. The digits are read before the sign is looked at, and those of the least amount pass the greatest
   one.  So the least amount is never read (`Amount.readable_of_read?`), and every other one is read
   from its own text (`Amount.read?_text`): whatever was read can be written and read again.
3. A text is read exactly when it begins with the numeral of an amount other than the least one
   (`Amount.reads_numerals`).
4. The text of an amount is one word of digits behind at most a minus sign.
-/

namespace ShareLedger.Amount

open Text (isBlank IsWord)

/-- Whether an amount can be read from a text. -/
def Readable (a : Amount) : Prop := -9223372036854775808 < a.toInt

instance (a : Amount) : Decidable a.Readable :=
  inferInstanceAs (Decidable (-9223372036854775808 < a.toInt))

/-! ## Digits -/

/-- The number at the front of a text is the one its leading digits write, if there are any and the
number is no greater than the greatest amount. -/
theorem magnitude?_eq_some {cs : List Char} {n : Int} :
    magnitude? cs = some n ↔
      cs.takeWhile Char.isDigit ≠ [] ∧ n = Nat.ofDigitChars 10 (cs.takeWhile Char.isDigit) 0 ∧
        n ≤ 9223372036854775807 := by
  simp only [magnitude?]
  split
  · next h =>
      obtain h | h := h
      · simp [List.isEmpty_iff.1 h]
      · simp only [reduceCtorEq, false_iff, not_and, Int.not_le]
        rintro - rfl
        exact h
  · next h =>
      obtain ⟨hne, hle⟩ := not_or.1 h
      rw [List.isEmpty_iff] at hne
      constructor
      · intro hn
        obtain rfl := Option.some.inj hn
        exact ⟨hne, rfl, Int.not_lt.1 hle⟩
      · rintro ⟨-, rfl, -⟩
        rfl

theorem nonneg_of_magnitude? {cs : List Char} {n : Int} (h : magnitude? cs = some n) : 0 ≤ n := by
  obtain ⟨-, rfl, -⟩ := magnitude?_eq_some.1 h
  exact Int.natCast_nonneg _

theorem le_greatest_of_magnitude? {cs : List Char} {n : Int} (h : magnitude? cs = some n) :
    n ≤ 9223372036854775807 :=
  (magnitude?_eq_some.1 h).2.2

theorem isDigit_of_takeWhile_ne_nil {c : Char} {cs : List Char}
    (h : (c :: cs).takeWhile Char.isDigit ≠ []) : c.isDigit := by
  by_contra hother
  exact h (List.takeWhile_cons_of_neg hother)

/-- Digits that write no number write a number that is too great. -/
theorem greatest_lt_of_magnitude? {c : Char} {cs : List Char} (hc : c.isDigit)
    (h : magnitude? (c :: cs) = none) :
    9223372036854775807 < (Nat.ofDigitChars 10 (c :: cs.takeWhile Char.isDigit) 0 : Int) := by
  apply Int.not_le.1
  intro hle
  have hdigits : (c :: cs).takeWhile Char.isDigit = c :: cs.takeWhile Char.isDigit :=
    List.takeWhile_cons_of_pos hc
  have hread : magnitude? (c :: cs) =
      some (Nat.ofDigitChars 10 (c :: cs.takeWhile Char.isDigit) 0 : Int) := by
    rw [magnitude?_eq_some, hdigits]
    exact ⟨nofun, rfl, hle⟩
  rw [h] at hread
  cases hread

/-- A digit that writes no number has more digits behind it. -/
theorem takeWhile_ne_nil_of_magnitude? {c : Char} {cs : List Char} (hc : c.isDigit)
    (h : magnitude? (c :: cs) = none) : cs.takeWhile Char.isDigit ≠ [] := by
  intro hnone
  have hgreat := greatest_lt_of_magnitude? hc h
  have hbound := (Char.isDigit_iff_toNat.1 hc).2
  have hnine : '9'.toNat = 57 := rfl
  rw [hnone, Nat.ofDigitChars_cons, Nat.ofDigitChars_nil] at hgreat
  omega

/-- Characters other than digits write no number. -/
theorem magnitude?_eq_none_of_not_digit {c : Char} (h : c.isDigit = false) (cs : List Char) :
    magnitude? (c :: cs) = none := by
  simp [magnitude?, h]

theorem isDigit_of_mem_repr {n : Nat} {c : Char} (h : c ∈ (Nat.repr n).toList) : c.isDigit := by
  rw [Nat.toList_repr] at h
  exact Nat.isDigit_of_mem_toDigits (by omega) (by omega) h

theorem takeWhile_repr (n : Nat) : (Nat.repr n).toList.takeWhile Char.isDigit = Nat.toDigits 10 n := by
  rw [List.takeWhile_eq_self_iff.2 fun c hc => isDigit_of_mem_repr hc, Nat.toList_repr]

/-- The digits of a number write that number. -/
theorem magnitude?_repr {n : Nat} (h : (n : Int) ≤ 9223372036854775807) :
    magnitude? (Nat.repr n).toList = some (n : Int) := by
  rw [magnitude?_eq_some, takeWhile_repr, Nat.ofDigitChars_ten_toDigits]
  exact ⟨Nat.toDigits_ne_nil, rfl, h⟩

/-! ## Numerals -/

/-- Digits, at least one of them, and what stands behind them, which does not begin with a digit. -/
structure DigitRun (digits rest : List Char) : Prop where
  nonempty : digits ≠ []
  digit : ∀ c ∈ digits, c.isDigit
  ended : ∀ c ∈ rest.head?, c.isDigit = false

/-- A text begins with the numeral of an integer: one sign or none, then all the digits up to the
first other character. -/
inductive Numeral : List Char → Int → Prop
  | unsigned {digits rest} (h : DigitRun digits rest) :
    Numeral (digits ++ rest) (Nat.ofDigitChars 10 digits 0)
  | plus {digits rest} (h : DigitRun digits rest) :
    Numeral ('+' :: (digits ++ rest)) (Nat.ofDigitChars 10 digits 0)
  | minus {digits rest} (h : DigitRun digits rest) :
    Numeral ('-' :: (digits ++ rest)) (-Nat.ofDigitChars 10 digits 0)

theorem DigitRun.takeWhile {digits rest : List Char} (h : DigitRun digits rest) :
    (digits ++ rest).takeWhile Char.isDigit = digits := by
  rw [List.takeWhile_append_of_pos h.digit]
  have hrest : rest.takeWhile Char.isDigit = [] := by
    cases rest with
    | nil => rfl
    | cons c cs => exact List.takeWhile_cons_of_neg (by simp [h.ended c rfl])
  rw [hrest, List.append_nil]

/-- A text that begins with a digit is a run of digits and the rest. -/
theorem digitRun_takeWhile {cs : List Char} (h : cs.takeWhile Char.isDigit ≠ []) :
    DigitRun (cs.takeWhile Char.isDigit) (cs.dropWhile Char.isDigit) where
  nonempty := h
  digit _ := List.mem_takeWhile_imp
  ended c hc := by
    have hhead := List.head?_dropWhile_not Char.isDigit cs
    rw [hc] at hhead
    simpa using hhead

theorem digitRun_repr (n : Nat) : DigitRun (Nat.repr n).toList [] where
  nonempty := by
    rw [Nat.toList_repr]
    exact Nat.toDigits_ne_nil
  digit _ := isDigit_of_mem_repr
  ended := nofun

/-- The digits in front are read up to the greatest amount. -/
theorem DigitRun.magnitude?_iff {digits rest : List Char} (h : DigitRun digits rest) {n : Int} :
    magnitude? (digits ++ rest) = some n ↔
      n = Nat.ofDigitChars 10 digits 0 ∧ n ≤ 9223372036854775807 := by
  rw [magnitude?_eq_some, h.takeWhile]
  exact and_iff_right h.nonempty

theorem exists_digitRun_of_magnitude? {cs : List Char} {n : Int} (h : magnitude? cs = some n) :
    ∃ digits rest, cs = digits ++ rest ∧ DigitRun digits rest ∧
      n = Nat.ofDigitChars 10 digits 0 := by
  obtain ⟨hdigits, hn, -⟩ := magnitude?_eq_some.1 h
  exact ⟨_, _, List.takeWhile_append_dropWhile.symm, digitRun_takeWhile hdigits, hn⟩

/-! ## Signs -/

/-- Without a sign a text is read as its leading digits. -/
theorem readChars_unsigned {cs : List Char} (hminus : cs.head? ≠ some '-')
    (hplus : cs.head? ≠ some '+') : readChars cs = (magnitude? cs).map clamp := by
  unfold readChars
  split
  · exact absurd rfl hminus
  · exact absurd rfl hplus
  · rfl

/-- A digit is no sign. -/
theorem readChars_digit {d : Char} {ds : List Char} (hd : d.isDigit) :
    readChars (d :: ds) = (magnitude? (d :: ds)).map clamp := by
  have hsign {c : Char} (hc : c.isDigit = false) : (d :: ds).head? ≠ some c := by
    intro hhead
    rw [← Option.some.inj hhead, hd] at hc
    cases hc
  exact readChars_unsigned (hsign (by decide)) (hsign (by decide))

/-- Digits without a sign are read as no negative amount. -/
theorem nonneg_of_readChars {cs : List Char} {a : Amount}
    (hdigits : cs.takeWhile Char.isDigit ≠ []) (h : readChars cs = some a) : 0 ≤ a.toInt := by
  cases cs with
  | nil => exact absurd rfl hdigits
  | cons d ds =>
      rw [readChars_digit (isDigit_of_takeWhile_ne_nil hdigits)] at h
      obtain ⟨n, hn, rfl⟩ := Option.map_eq_some_iff.1 h
      have hnonneg := nonneg_of_magnitude? hn
      rw [toInt_clamp]
      omega

/-- The least amount is not read. -/
theorem readable_of_readChars {cs : List Char} {a : Amount} (h : readChars cs = some a) :
    a.Readable := by
  unfold readChars at h
  split at h
  all_goals
    obtain ⟨n, hn, rfl⟩ := Option.map_eq_some_iff.1 h
    have hnonneg := nonneg_of_magnitude? hn
    have hle := le_greatest_of_magnitude? hn
    rw [Readable, toInt_clamp]
    omega

theorem readable_of_read? {s : String} {a : Amount} (h : read? s = some a) : a.Readable :=
  readable_of_readChars h

/-- What is read is what the numeral in front says. -/
theorem numeral_of_readChars {cs : List Char} {a : Amount} (h : readChars cs = some a) :
    Numeral cs a.toInt := by
  have hfits {cs : List Char} {n : Int} (hn : magnitude? cs = some n) :
      (clamp n).toInt = n ∧ (clamp (-n)).toInt = -n := by
    have hnonneg := nonneg_of_magnitude? hn
    have hle := le_greatest_of_magnitude? hn
    rw [toInt_clamp, toInt_clamp]
    omega
  unfold readChars at h
  split at h
  all_goals
    obtain ⟨n, hn, rfl⟩ := Option.map_eq_some_iff.1 h
    obtain ⟨hplus, hminus⟩ := hfits hn
    obtain ⟨digits, rest, rfl, hrun, rfl⟩ := exists_digitRun_of_magnitude? hn
  · rw [hminus]
    exact .minus hrun
  · rw [hplus]
    exact .plus hrun
  · rw [hplus]
    exact .unsigned hrun

/-- A numeral is read when its digits do not pass the greatest amount. -/
theorem readChars_of_numeral {cs : List Char} {n : Int} (h : Numeral cs n)
    (hleast : -9223372036854775808 < n) (hgreatest : n ≤ 9223372036854775807) :
    readChars cs = some (clamp n) := by
  cases h with
  | @unsigned digits rest hrun =>
      have hread := hrun.magnitude?_iff.2 ⟨rfl, hgreatest⟩
      obtain ⟨d, ds, rfl⟩ := List.exists_cons_of_ne_nil hrun.nonempty
      have hd : d.isDigit := hrun.digit d List.mem_cons_self
      rw [List.cons_append] at hread ⊢
      rw [readChars_digit hd, hread, Option.map_some]
  | plus hrun => rw [readChars, hrun.magnitude?_iff.2 ⟨rfl, hgreatest⟩, Option.map_some]
  | minus hrun =>
      -- Only the least amount has digits that fit with the sign and not without it.
      have hle := hrun.magnitude?_iff.2 ⟨rfl, by omega⟩
      rw [readChars, hle, Option.map_some]

/-! ## Written amounts -/

theorem toList_text_of_neg {a : Amount} (h : a.toInt < 0) :
    a.text.toList = '-' :: (Nat.repr a.toInt.natAbs).toList := by
  rw [text, if_pos h, String.toList_append]
  rfl

theorem text_of_not_neg {a : Amount} (h : ¬ a.toInt < 0) : a.text = Nat.repr a.toInt.natAbs := by
  rw [text, if_neg h]

/-- A number in digits has no sign in front. -/
theorem head?_repr_ne {c : Char} (h : c.isDigit = false) (n : Nat) :
    (Nat.repr n).toList.head? ≠ some c := by
  intro hc
  have := isDigit_of_mem_repr (List.mem_of_mem_head? hc)
  rw [h] at this
  cases this

/-- Different amounts are written differently. -/
theorem text_inj {a b : Amount} : a.text = b.text ↔ a = b := by
  have hdigits {n m : Nat} (h : (Nat.repr n).toList = (Nat.repr m).toList) : n = m := by
    rw [Nat.toList_repr, Nat.toList_repr] at h
    rw [← Nat.ofDigitChars_ten_toDigits (n := n), h, Nat.ofDigitChars_ten_toDigits]
  have hsigned {a b : Amount} (ha : a.toInt < 0) (hb : ¬ b.toInt < 0) : a.text ≠ b.text := by
    intro h
    apply head?_repr_ne (c := '-') (by decide) b.toInt.natAbs
    rw [← text_of_not_neg hb, ← h, toList_text_of_neg ha, List.head?_cons]
  refine ⟨fun h => ext ?_, fun h => h ▸ rfl⟩
  by_cases ha : a.toInt < 0
  · by_cases hb : b.toInt < 0
    · have htext := congrArg String.toList h
      rw [toList_text_of_neg ha, toList_text_of_neg hb] at htext
      have habs := hdigits (List.cons.inj htext).2
      omega
    · exact absurd h (hsigned ha hb)
  · by_cases hb : b.toInt < 0
    · exact absurd h.symm (hsigned hb ha)
    · rw [text_of_not_neg ha, text_of_not_neg hb] at h
      have habs := hdigits (congrArg String.toList h)
      omega

/-- The text of an amount is its numeral. -/
theorem numeral_text (a : Amount) : Numeral a.text.toList a.toInt := by
  have hvalue : Nat.ofDigitChars 10 (Nat.repr a.toInt.natAbs).toList 0 = a.toInt.natAbs := by
    rw [Nat.toList_repr, Nat.ofDigitChars_ten_toDigits]
  have hrun := digitRun_repr a.toInt.natAbs
  by_cases hneg : a.toInt < 0
  · have hnumeral := Numeral.minus hrun
    have habs : -(a.toInt.natAbs : Int) = a.toInt := by omega
    rwa [List.append_nil, hvalue, habs, ← toList_text_of_neg hneg] at hnumeral
  · have hnumeral := Numeral.unsigned hrun
    have habs : (a.toInt.natAbs : Int) = a.toInt := by omega
    rwa [List.append_nil, hvalue, habs, ← text_of_not_neg hneg] at hnumeral

/-- **What is written is read.** Only the least amount is not. -/
theorem readChars_text {a : Amount} (h : a.Readable) : readChars a.text.toList = some a := by
  rw [readChars_of_numeral (numeral_text a) h a.le_greatest, clamp_toInt]

theorem read?_text {a : Amount} (h : a.Readable) : read? a.text = some a :=
  readChars_text h

/-- Without its sign looked at, only an amount that has none is read. -/
theorem magnitude?_text {a : Amount} {n : Int} (h : magnitude? a.text.toList = some n) :
    a.toInt = n := by
  by_cases hneg : a.toInt < 0
  · rw [toList_text_of_neg hneg, magnitude?_eq_none_of_not_digit (by decide)] at h
    cases h
  · have hgreatest := a.le_greatest
    rw [text_of_not_neg hneg, magnitude?_repr (by omega)] at h
    have hn := Option.some.inj h
    omega

/-- A digit in front of an amount does not make it less. -/
theorem le_of_magnitude?_text {c : Char} {a : Amount} {n : Int} (hc : c.isDigit)
    (ha : 0 ≤ a.toInt) (h : magnitude? (c :: a.text.toList) = some n) : a.toInt ≤ n := by
  obtain ⟨-, hvalue, -⟩ := magnitude?_eq_some.1 h
  rw [List.takeWhile_cons_of_pos hc, text_of_not_neg (by omega), takeWhile_repr,
    Nat.ofDigitChars_cons, Nat.ofDigitChars_eq_ofDigitChars_zero,
    Nat.ofDigitChars_ten_toDigits] at hvalue
  omega

/-- **Numerals are read**: an amount is read from a text exactly when the text begins with its
numeral, and every amount is read from its own text; the least amount alone is not, because its
digits pass the greatest one. -/
theorem reads_numerals (s : String) (a : Amount) :
    (∀ n : Int, (read? s).map toInt = some n ↔
      Numeral s.toList n ∧ -9223372036854775808 < n ∧ n ≤ 9223372036854775807) ∧
    (read? a.text = some a ↔ a.toInt ≠ -9223372036854775808) := by
  refine ⟨fun n => ⟨fun h => ?_, fun ⟨hnumeral, hleast, hgreatest⟩ => ?_⟩, fun h => ?_, fun h => ?_⟩
  · obtain ⟨b, hb, rfl⟩ := Option.map_eq_some_iff.1 h
    exact ⟨numeral_of_readChars hb, readable_of_read? hb, b.le_greatest⟩
  · rw [read?, readChars_of_numeral hnumeral hleast hgreatest, Option.map_some,
      toInt_clamp_of_fits (by omega) hgreatest]
  · exact Int.ne_of_gt (readable_of_read? h)
  · exact read?_text (Int.lt_iff_le_and_ne.2 ⟨a.least_le, Ne.symm h⟩)

/-- The least amount is not read from its own text, which is its numeral. -/
theorem exists_numeral_not_read :
    let least : Amount := clamp (-9223372036854775808)
    least.toInt = -9223372036854775808 ∧ least.text = "-9223372036854775808" ∧
      Numeral "-9223372036854775808".toList (-9223372036854775808) ∧
      read? "-9223372036854775808" = none := by
  intro least
  have hvalue : least.toInt = -9223372036854775808 := by decide +kernel
  have htext : least.text = "-9223372036854775808" := by decide +kernel
  have hnumeral := numeral_text least
  rw [htext, hvalue] at hnumeral
  refine ⟨hvalue, htext, hnumeral, ?_⟩
  decide +kernel

/-! ## As a word -/

theorem not_blank_of_isDigit {c : Char} (h : c.isDigit) : isBlank c = false ∧ c ≠ '#' := by
  obtain ⟨hlow, hhigh⟩ := Char.isDigit_iff_toNat.1 h
  have hval : c.val.toNat = c.toNat := rfl
  constructor
  · simp [isBlank, UInt32.le_iff_toNat_le, ← UInt32.toNat_inj] at hlow hhigh ⊢
    omega
  · rintro rfl
    revert hlow; decide

/-- The characters of an amount are digits, or a minus sign in front. -/
theorem mem_text {a : Amount} {c : Char} (h : c ∈ a.text.toList) : c = '-' ∨ c.isDigit := by
  by_cases hneg : a.toInt < 0
  · rw [toList_text_of_neg hneg] at h
    exact (List.mem_cons.1 h).imp_right isDigit_of_mem_repr
  · rw [text_of_not_neg hneg] at h
    exact .inr (isDigit_of_mem_repr h)

theorem isWord_text (a : Amount) : IsWord a.text := by
  have hchar {c : Char} (h : c ∈ a.text.toList) : isBlank c = false ∧ c ≠ '#' := by
    obtain rfl | hdigit := mem_text h
    · decide
    · exact not_blank_of_isDigit hdigit
  refine ⟨?_, fun c hc => (hchar hc).1, fun hmark => (hchar hmark).2 rfl⟩
  by_cases hneg : a.toInt < 0
  · simp [toList_text_of_neg hneg]
  · rw [text_of_not_neg hneg, Nat.toList_repr]
    exact Nat.toDigits_ne_nil

end ShareLedger.Amount
