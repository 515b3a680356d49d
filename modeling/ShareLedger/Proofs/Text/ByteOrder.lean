import ShareLedger.Proofs.Roster
import ShareLedger.Proofs.Text.Lines
/-!
# Proofs.Text.ByteOrder

Names in the order of their bytes.

1. The bytes of two characters differ first at a byte that is lower in the character that comes
   first, and neither character is the beginning of the other (`Text.utf8_lt_of_lt`).
2. So texts are ordered as their bytes are (`Text.lt_iff_bytes`), and the names that a book sorts
   stand in the order of their bytes (`Book.pairwise_bytes_sortNames`).
-/

namespace ShareLedger

namespace Text

/-- The bytes of a text. -/
def bytes (s : String) : List UInt8 := s.toUTF8.data.toList

/-- Bytes are compared as the numbers that they stand for. -/
theorem ofNat_cons_lt {m n : Nat} {as bs : List UInt8} (hm : m < 256) (hn : n < 256) :
    UInt8.ofNat m :: as < UInt8.ofNat n :: bs ↔ m < n ∨ m = n ∧ as < bs := by
  rw [List.cons_lt_cons_iff, UInt8.lt_iff_toNat_lt, ← UInt8.toNat_inj,
    UInt8.toNat_ofNat_of_lt' hm, UInt8.toNat_ofNat_of_lt' hn]

/-- The bytes of a lower character are lower, whatever stands behind them. -/
theorem utf8_lt_of_lt {c d : Char} (h : c < d) (as bs : List UInt8) :
    utf8 [c] ++ as < utf8 [d] ++ bs := by
  have hlt : c.val.toNat < d.val.toNat := h
  have hmost : d.val.toNat < 1114112 := by
    have hvalid := d.valid
    simp only [UInt32.isValidChar, Nat.isValidChar] at hvalid
    omega
  have hsecond (n : Nat) : n / 4096 = n / 64 / 64 := by rw [Nat.div_div_eq_div_mul]
  have hthird (n : Nat) : n / 262144 = n / 64 / 64 / 64 := by
    rw [Nat.div_div_eq_div_mul, Nat.div_div_eq_div_mul]
  simp only [utf8, List.flatMap_singleton, String.utf8EncodeChar, hsecond, hthird]
  generalize c.val.toNat = m at *
  generalize d.val.toNat = n at *
  -- A longer form begins with a higher byte; in one form the digits to the base 64 decide.
  repeat' split
  all_goals
    simp (disch := omega) only [List.cons_append, List.nil_append, ofNat_cons_lt]
    omega

/-- Characters in order have bytes in order. -/
theorem utf8_lt {cs ds : List Char} (h : cs < ds) : utf8 cs < utf8 ds := by
  induction h with
  | nil =>
      obtain ⟨b, bs, hbytes⟩ := List.exists_cons_of_ne_nil (utf8_ne_nil (List.cons_ne_nil _ _))
      rw [hbytes]
      exact List.nil_lt_cons b bs
  | @rel c cs d ds hfirst =>
      rw [utf8_cons c, utf8_cons d]
      exact utf8_lt_of_lt hfirst _ _
  | @cons c cs ds _ ih =>
      rw [utf8_cons c cs, utf8_cons c ds]
      exact List.append_left_lt ih

/-- **Texts are ordered as their bytes are.** -/
theorem lt_iff_bytes {s t : String} : s < t ↔ bytes s < bytes t := by
  have hmono {s t : String} (h : s < t) : bytes s < bytes t := by
    rw [bytes, bytes, toList_toUTF8, toList_toUTF8]
    exact utf8_lt h
  refine ⟨hmono, fun h => ?_⟩
  by_cases hlt : s < t
  · exact hlt
  · by_cases hne : s = t
    · exact absurd h (hne ▸ List.lt_irrefl _)
    · exact absurd (hmono (Book.lt_of_not_lt_of_ne hlt hne)) (List.lt_asymm h)

end Text

namespace Book

/-- Names that are sorted stand in the order of their bytes, each of them once. -/
theorem pairwise_bytes_sortNames (names : List String) :
    (sortNames names).Pairwise fun a b => Text.bytes a < Text.bytes b := by
  refine List.Pairwise.imp Text.lt_iff_bytes.1 ?_
  exact List.pairwise_map.2 (increasing _)

end Book
end ShareLedger
