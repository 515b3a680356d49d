import ShareLedger.Grammar
import ShareLedger.Proofs.Text.SmallLetters
/-!
# Proofs.Text.AsciiCase

Texts that differ in the case of the letters A to Z only.

1. Such texts have the same capitals (`upper_eq_of_same`) and the same form in which keywords are
   looked up (`lowerAscii_eq_of_same`), and one of them is a word if the other one is
   (`isWord_of_same`).
2. A text that differs so from two words with a space between them is two such words with a space
   between them (`exists_words_of_same`).
-/

namespace ShareLedger.Text

/-! ## Characters -/

/-- What is the same for the two forms of every letter does not depend on the case of letters. -/
theorem apply_smallAscii {α : Type} (f : Char → α)
    (h : ∀ k ∈ List.range 26, f (Char.ofNat (97 + k)) = f (Char.ofNat (65 + k))) (c : Char) :
    f (smallAscii c) = f c := by
  obtain hsame | ⟨k, hk, rfl, hsmall⟩ := smallAscii_cases c
  · rw [hsame]
  · rw [hsmall, h k hk]

/-- Blanks are no letters. -/
theorem isBlank_smallAscii (c : Char) : isBlank (smallAscii c) = isBlank c :=
  apply_smallAscii isBlank (by decide) c

/-- Digits are no letters. -/
theorem isDigit_smallAscii (c : Char) : (smallAscii c).isDigit = c.isDigit :=
  apply_smallAscii Char.isDigit (by decide) c

/-- A letter and its small form have the same capital form. -/
theorem capital_smallAscii (c : Char) : capital (smallAscii c) = capital c :=
  apply_smallAscii capital (by decide) c

/-- A character in front of the letters is had from itself only. -/
theorem smallAscii_eq_iff {c d : Char} (h : d.val < 65) : smallAscii c = d ↔ c = d := by
  obtain hsame | ⟨k, hk, rfl, hsmall⟩ := smallAscii_cases c
  · rw [hsame]
  · have hletters : ∀ k ∈ List.range 26,
        ¬ (Char.ofNat (97 + k)).val < 65 ∧ ¬ (Char.ofNat (65 + k)).val < 65 := by decide
    obtain ⟨hlow, hlow'⟩ := hletters k hk
    rw [hsmall]
    exact iff_of_false (fun heq => hlow (heq ▸ h)) fun heq => hlow' (heq ▸ h)

theorem smallAscii_of_isDigit {c : Char} (h : c.isDigit = true) : smallAscii c = c := by
  obtain hsame | ⟨k, hk, rfl, -⟩ := smallAscii_cases c
  · exact hsame
  · have hletters : ∀ k ∈ List.range 26, (Char.ofNat (65 + k)).isDigit = false := by decide
    rw [hletters k hk] at h
    cases h

/-! ## Texts -/

variable {s t : String}

theorem same_iff : sameUpToAsciiCase s t = true ↔
    s.toList.map smallAscii = t.toList.map smallAscii := by
  rw [sameUpToAsciiCase, beq_iff_eq]

@[simp] theorem same_refl (s : String) : sameUpToAsciiCase s s = true := same_iff.2 rfl

theorem lowerAscii_eq_of_same (h : sameUpToAsciiCase s t = true) :
    lowerAscii s = lowerAscii t := by
  rw [lowerAscii, lowerAscii, same_iff.1 h]

/-- Texts that differ in the case of the letters A to Z have the same capitals. -/
theorem upper_eq_of_same (h : sameUpToAsciiCase s t = true) : upper s = upper t := by
  have hletters (cs : List Char) : (cs.map smallAscii).flatMap capital = cs.flatMap capital := by
    simp [List.flatMap_map, capital_smallAscii]
  rw [upper, upper, ← hletters, ← hletters t.toList, same_iff.1 h]

/-- Words stay words whatever the case of their letters A to Z is. -/
theorem isWord_of_same (h : sameUpToAsciiCase s t = true) (ht : IsWord t) : IsWord s := by
  have hmap := same_iff.1 h
  have hmem {c : Char} (hc : c ∈ s.toList) : ∃ d ∈ t.toList, smallAscii d = smallAscii c := by
    have hc := List.mem_map_of_mem (f := smallAscii) hc
    rw [hmap] at hc
    exact List.mem_map.1 hc
  refine ⟨?_, fun c hc => ?_, fun hmark => ?_⟩
  · intro hnil
    rw [hnil, List.map_nil, eq_comm, List.map_eq_nil_iff] at hmap
    exact ht.ne_nil hmap
  · obtain ⟨d, hd, hsame⟩ := hmem hc
    rw [← isBlank_smallAscii, ← hsame, isBlank_smallAscii]
    exact ht.solid d hd
  · obtain ⟨d, hd, hsame⟩ := hmem hmark
    have hmark' : smallAscii '#' = '#' := by decide
    rw [hmark', smallAscii_eq_iff (by decide)] at hsame
    exact ht.unmarked (hsame ▸ hd)

/-- Two words with a space between them stay two words. -/
theorem exists_words_of_same {line first second : String}
    (h : sameUpToAsciiCase line (first ++ " " ++ second) = true) :
    ∃ v w, line = v ++ " " ++ w ∧ sameUpToAsciiCase v first = true ∧
      sameUpToAsciiCase w second = true := by
  have hmap := same_iff.1 h
  have hspace : " ".toList = [' '] := rfl
  rw [String.toList_append, String.toList_append, hspace, List.append_assoc, List.map_append,
    List.singleton_append, List.map_cons, List.map_eq_append_iff] at hmap
  obtain ⟨vs, rest, hline, hv, hrest⟩ := hmap
  obtain ⟨c, ws, rfl, hc, hw⟩ := List.map_eq_cons_iff.1 hrest
  have hspace' : smallAscii ' ' = ' ' := by decide
  rw [hspace', smallAscii_eq_iff (by decide)] at hc
  subst hc
  refine ⟨String.ofList vs, String.ofList ws, ?_, ?_, ?_⟩
  · rw [← String.toList_inj, hline]
    simp
  · rwa [same_iff, String.toList_ofList]
  · rwa [same_iff, String.toList_ofList]

end ShareLedger.Text

namespace ShareLedger

open Text (sameUpToAsciiCase)

/-- Keywords are looked up without regard to the case of the letters A to Z. -/
theorem Keyword.find_eq_of_same {table : List Keyword} {w w' : String}
    (h : sameUpToAsciiCase w w' = true) : find table w = find table w' := by
  rw [find, find, Text.lowerAscii_eq_of_same h]

/-- So are lines of a verb and its argument. -/
theorem Action.ofUnary_eq_of_same {word word' argument argument' : String}
    (hword : sameUpToAsciiCase word word' = true)
    (hargument : sameUpToAsciiCase argument argument' = true) :
    ofUnary word argument = ofUnary word' argument' := by
  unfold ofUnary
  rw [Keyword.find_eq_of_same hword, Text.upper_eq_of_same hargument]

end ShareLedger
