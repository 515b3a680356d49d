import ShareLedger.Json.Reader
/-!
# Proofs.Json.Scalars

Texts and numbers are read as they were written.

1. One written character is read as its code (`codes_escape`), whatever comes behind it, so that a
   quoted text is read up to its closing quote (`codes_flatMap_escape`).  The code of a character is
   no half of a surrogate pair (`characters_codes`).
2. An integer has no needless zero in front (`hasNeedlessZero_toDigits`) and is read as far as it
   goes, when nothing follows that would continue it (`Follows`, `number_integerChars`).
-/

namespace ShareLedger.Json

/-! ## Texts -/

/-- The number that two zeros and the two digits of a control character write. -/
theorem hexNumber?_control {n : Nat} (h : n < 32) :
    Text.hexNumber? ['0', '0', Text.hexDigit (n / 16), Text.hexDigit (n % 16)] = some n := by
  have hhigh := Text.hexValue?_hexDigit (n := n / 16) (by omega)
  have hlow := Text.hexValue?_hexDigit (n := n % 16) (by omega)
  have hzero : Text.hexValue? '0' = some 0 := rfl
  simp only [Text.hexNumber?, List.foldl_cons, List.foldl_nil, hzero, hhigh, hlow, Option.map_some,
    Option.bind_some]
  congr 1
  omega

/-- The codes behind one that was read. -/
def withCode (n : Nat) (read : Option (List Nat × List Char)) : Option (List Nat × List Char) :=
  read.map fun (ns, rest) => (n :: ns, rest)

theorem codes_short {e : Char} {n : Nat} (h : shortEscape? e = some n) (cs : List Char) :
    codes ('\\' :: e :: cs) = withCode n (codes cs) := by
  rw [codes.eq_4, h]
  · cases codes cs <;> rfl
  · rintro a b c d rest rfl -
    cases h

theorem codes_hex {a b c d : Char} {n : Nat} (h : Text.hexNumber? [a, b, c, d] = some n)
    (cs : List Char) : codes ('\\' :: 'u' :: a :: b :: c :: d :: cs) = withCode n (codes cs) := by
  rw [codes, h]
  cases codes cs <;> rfl

theorem codes_plain {c : Char} (hquote : c ≠ '"') (hback : c ≠ '\\') (h : ¬ c.toNat < 32)
    (cs : List Char) : codes (c :: cs) = withCode c.toNat (codes cs) := by
  rw [codes.eq_5 c cs hquote (fun _ _ _ _ _ hc _ => hback hc) (fun _ _ hc _ => hback hc), if_neg h]
  cases codes cs <;> rfl

/-- A written character is read as its code. -/
theorem codes_escape (c : Char) (cs : List Char) :
    codes (escape c ++ cs) = withCode c.toNat (codes cs) := by
  unfold escape
  split
  case h_1 | h_2 | h_3 | h_4 | h_5 => exact codes_short rfl cs
  case h_6 hquote hback _ _ _ =>
    split
    · next h8 => exact h8 ▸ codes_short rfl cs
    · split
      · next h12 => exact h12 ▸ codes_short rfl cs
      · split
        · next hcontrol => exact codes_hex (hexNumber?_control hcontrol) cs
        · next hprinted => exact codes_plain hquote hback hprinted cs

/-- A written text is read as its codes, up to its closing quote. -/
theorem codes_flatMap_escape (cs rest : List Char) :
    codes (cs.flatMap escape ++ '"' :: rest) = some (cs.map Char.toNat, rest) := by
  induction cs with
  | nil => rw [List.flatMap_nil, List.nil_append, codes, List.map_nil]
  | cons c cs ih => rw [List.flatMap_cons, List.append_assoc, codes_escape, ih]; rfl

/-- The code of a character is no half of a surrogate pair. -/
theorem not_surrogate (c : Char) : isHigh c.toNat = false ∧ isLow c.toNat = false := by
  have hvalid : c.toNat < 0xD800 ∨ 0xDFFF < c.toNat ∧ c.toNat < 0x110000 := c.valid
  simp only [isHigh, isLow, Bool.and_eq_false_iff, decide_eq_false_iff_not]
  omega

/-- The codes of characters are their codes. -/
theorem characters_codes (cs : List Char) : characters (cs.map Char.toNat) = some cs := by
  induction cs with
  | nil => rfl
  | cons c cs ih =>
      obtain ⟨hhigh, hlow⟩ := not_surrogate c
      cases cs with
      | nil => simp [characters, hhigh, hlow]
      | cons c' cs =>
          rw [List.map_cons] at ih ⊢
          simp [characters, hhigh, hlow, ih]

/-- **A quoted text is read as the text**, and what follows it is left. -/
theorem quoted_quote (s : String) (rest : List Char) :
    quoted (s.toList.flatMap escape ++ '"' :: rest) = some (some s, rest) := by
  simp only [quoted, codes_flatMap_escape, Option.map_some, characters_codes, String.ofList_toList]

/-! ## Numbers -/

/-- What may follow a number: nothing that would continue it. -/
def Follows : List Char → Prop
  | [] => True
  | c :: _ => c.isDigit = false ∧ c ≠ '.' ∧ c ≠ 'e' ∧ c ≠ 'E'

variable {rest : List Char}

theorem fractionPart_of_follows (h : Follows rest) : fractionPart rest = some (false, rest) := by
  cases rest with
  | nil => rfl
  | cons c rest =>
      obtain ⟨-, hpoint, -⟩ := h
      exact fractionPart.eq_2 _ fun cs hcs => hpoint (List.cons.inj hcs).1

theorem exponentPart_of_follows (h : Follows rest) : exponentPart rest = some (false, rest) := by
  cases rest with
  | nil => rfl
  | cons c rest =>
      obtain ⟨-, -, hsmall, hcapital⟩ := h
      rw [exponentPart, if_neg (not_or.2 ⟨hsmall, hcapital⟩)]

theorem isDigit_toDigits {n : Nat} : ∀ c ∈ Nat.toDigits 10 n, c.isDigit = true := fun _ hc =>
  Nat.isDigit_of_mem_toDigits (by omega) (by omega) hc

/-- The digits of a number are read as far as they go. -/
theorem digits_toDigits (n : Nat) (h : Follows rest) :
    digits (Nat.toDigits 10 n ++ rest) = some (Nat.toDigits 10 n, rest) := by
  have htake : rest.takeWhile Char.isDigit = [] := by
    cases rest with
    | nil => rfl
    | cons c rest => rw [List.takeWhile_cons_of_neg (by simp [h.1])]
  have hdrop : rest.dropWhile Char.isDigit = rest := by
    cases rest with
    | nil => rfl
    | cons c rest => rw [List.dropWhile_cons_of_neg (by simp [h.1])]
  rw [digits, List.takeWhile_append_of_pos isDigit_toDigits,
    List.dropWhile_append_of_pos isDigit_toDigits, htake, hdrop, List.append_nil]
  simp [Nat.toDigits_ne_nil]

/-- The digits of a number that is not zero do not start with a zero. -/
theorem head?_toDigits_ne {n : Nat} (h : 0 < n) : (Nat.toDigits 10 n).head? ≠ some '0' := by
  induction n using Nat.strongRecOn with
  | ind n ih =>
      by_cases hsmall : n < 10
      · have hall : ∀ m < 10, 0 < m → (Nat.toDigits 10 m).head? ≠ some '0' := by decide
        exact hall n hsmall h
      · -- A further digit at the end leaves the one in front.
        have hfront := ih (n / 10) (by omega) (by omega)
        obtain ⟨c, cs, hcs⟩ := List.exists_cons_of_ne_nil (Nat.toDigits_ne_nil (n := n / 10))
        rw [Nat.toDigits_of_base_le (by omega) (by omega), hcs]
        rwa [hcs] at hfront

theorem hasNeedlessZero_toDigits (n : Nat) : hasNeedlessZero (Nat.toDigits 10 n) = false := by
  obtain rfl | h := Nat.eq_zero_or_pos n
  · rfl
  · have hhead := head?_toDigits_ne h
    obtain ⟨c, cs, hcs⟩ := List.exists_cons_of_ne_nil (Nat.toDigits_ne_nil (n := n))
    rw [hcs] at hhead ⊢
    exact hasNeedlessZero.eq_2 _ fun d ds hds => hhead (congrArg List.head? hds)

/-- **An integer is read as the integer.** -/
theorem number_integerChars (n : Int) (h : Follows rest) :
    number (integerChars n ++ rest) = some (integer n, rest) := by
  have hdigits := digits_toDigits n.natAbs h
  have hfraction := fractionPart_of_follows h
  have hexponent := exponentPart_of_follows h
  have hwhole := Nat.ofDigitChars_ten_toDigits (n := n.natAbs)
  by_cases hneg : n < 0
  · have hvalue : -(n.natAbs : Int) = n := by omega
    have hnonzero : ((n.natAbs : Int) == 0) = false := beq_false_of_ne (by omega)
    rw [integerChars, if_pos hneg, List.cons_append, number]
    simp only [hdigits, hfraction, hexponent, hasNeedlessZero_toDigits, hwhole, hnonzero, hvalue,
      Option.bind_eq_bind, Option.bind_some, Bool.or_self, Bool.and_false, Bool.false_eq_true,
      if_false, if_true]
  · have hvalue : (n.natAbs : Int) = n := by omega
    have hunsigned : ∀ r, Nat.toDigits 10 n.natAbs ++ rest = '-' :: r → False := by
      intro r hr
      obtain ⟨c, cs, hcs⟩ := List.exists_cons_of_ne_nil (Nat.toDigits_ne_nil (n := n.natAbs))
      have hc : c.isDigit = true := isDigit_toDigits c (hcs ▸ List.mem_cons_self)
      rw [hcs, List.cons_append] at hr
      rw [(List.cons.inj hr).1] at hc
      exact absurd hc (by decide)
    rw [integerChars, if_neg hneg, number.eq_2 _ hunsigned]
    simp only [hdigits, hfraction, hexponent, hasNeedlessZero_toDigits, hwhole, hvalue,
      Option.bind_eq_bind, Option.bind_some, Bool.or_self, Bool.false_and, Bool.false_eq_true,
      if_false]

end ShareLedger.Json
