import ShareLedger.Text.Place
/-!
# Proofs.Text.Place

What edits at a place do to the characters in front of it and behind it.

1. The bytes of the characters in front of a place determine the place: cutting a text there gives
   back its two parts (`cutBytes_byteCount`).
2. The places beside a place are one character away (`placeBefore?_cons`, `placeBehind?_cons`).
3. Hence an edit at a place is an edit of the two parts (`putIn?_byteCount`, `dropBetween?_cons`).
-/

namespace ShareLedger.Text

variable (front back : List Char) (c : Char)

/-! ## Bytes -/

theorem byteCount_append : byteCount (front ++ back) = byteCount front + byteCount back := by
  induction front with
  | nil => rw [List.nil_append, byteCount, Nat.zero_add]
  | cons d front ih => rw [List.cons_append, byteCount, byteCount, ih, Nat.add_assoc]

/-- Every character takes some bytes. -/
@[simp] theorem byteCount_eq_zero {cs : List Char} : byteCount cs = 0 ↔ cs = [] := by
  cases cs with
  | nil => exact iff_of_true rfl rfl
  | cons d cs =>
      have hpos := d.utf8Size_pos
      rw [byteCount]
      exact iff_of_false (by omega) (List.cons_ne_nil d cs)

@[simp] theorem byteCount_pos {cs : List Char} : 0 < byteCount cs ↔ cs ≠ [] := by
  rw [Nat.pos_iff_ne_zero]
  exact not_congr byteCount_eq_zero

/-- Characters behind a place count only if there are any. -/
@[simp] theorem byteCount_lt_append : byteCount front < byteCount (front ++ back) ↔ back ≠ [] := by
  rw [byteCount_append, Nat.lt_add_right_iff_pos, byteCount_pos]

@[simp] theorem byteCount_eq_append : byteCount front = byteCount (front ++ back) ↔ back = [] := by
  rw [byteCount_append, Nat.left_eq_add, byteCount_eq_zero]

/-! ## Places -/

/-- A text is cut into what stands in front of a place and what stands behind it. -/
@[simp] theorem cutBytes_byteCount :
    cutBytes (byteCount front) (front ++ back) = some (front, back) := by
  induction front with
  | nil => simp [byteCount, cutBytes]
  | cons d front ih =>
      have hpos := d.utf8Size_pos
      obtain ⟨bytes, hbytes⟩ : ∃ bytes, byteCount (d :: front) = bytes + 1 :=
        Nat.exists_eq_succ_of_ne_zero (by rw [byteCount]; omega)
      have hrest : bytes + 1 - d.utf8Size = byteCount front := by
        rw [← hbytes, byteCount, Nat.add_sub_cancel_left]
      have hfits : d.utf8Size ≤ bytes + 1 := by
        rw [← hbytes, byteCount]
        exact Nat.le_add_right _ _
      rw [hbytes, List.cons_append, cutBytes, if_pos hfits, hrest, ih]
      rfl

/-- The parts of a text that is cut are all of it. -/
theorem append_of_cutBytes {cs front back : List Char} {bytes : Nat}
    (h : cutBytes bytes cs = some (front, back)) : front ++ back = cs := by
  induction bytes, cs using cutBytes.induct generalizing front with
  | case1 cs =>
      rw [cutBytes] at h
      obtain ⟨rfl, rfl⟩ := Prod.mk.inj (Option.some.inj h)
      rfl
  | case2 bytes =>
      rw [cutBytes] at h
      cases h
  | case3 bytes d cs hfits ih =>
      rw [cutBytes, if_pos hfits, Option.map_eq_some_iff] at h
      obtain ⟨⟨front', back'⟩, hrest, heq⟩ := h
      obtain ⟨rfl, rfl⟩ := Prod.mk.inj heq
      rw [List.cons_append, ih hrest]
  | case4 bytes d cs hlong =>
      rw [cutBytes, if_neg hlong] at h
      cases h

theorem beginnings_append (start : Nat) :
    beginnings start (front ++ back) =
      beginnings start front ++ beginnings (start + byteCount front) back := by
  induction front generalizing start with
  | nil => rfl
  | cons d front ih =>
      rw [List.cons_append, beginnings, ih, beginnings, byteCount, ← Nat.add_assoc,
        List.cons_append]

/-- A text is cut behind a character that is the last one in front. -/
theorem cutBytes_byteCount_concat :
    cutBytes (byteCount (front ++ [c])) (front ++ c :: back) = some (front ++ [c], back) := by
  have hcut := cutBytes_byteCount (front ++ [c]) back
  rwa [List.append_assoc] at hcut

/-- The place before is in front of the last character in front. -/
@[simp] theorem placeBefore?_cons :
    placeBefore? (front ++ c :: back) (byteCount (front ++ [c])) = some (byteCount front) := by
  have hlast : (beginnings 0 (front ++ [c])).getLast? = some (byteCount front) := by
    rw [beginnings_append, Nat.zero_add, beginnings, beginnings, List.getLast?_concat]
  rw [placeBefore?, cutBytes_byteCount_concat, Option.map_some]
  dsimp only
  rw [hlast, Option.getD_some]

/-- The place behind is behind the first character behind, also if that is the last one. -/
@[simp] theorem placeBehind?_cons :
    placeBehind? (front ++ c :: back) (byteCount front) = some (byteCount (front ++ [c])) := by
  rw [placeBehind?, cutBytes_byteCount, Option.map_some]
  cases back <;> simp [beginnings, byteCount, byteCount_append]

/-! ## Edits -/

@[simp] theorem putIn?_byteCount (new : List Char) :
    putIn? (front ++ back) (byteCount front) new = some (front ++ new ++ back) := by
  rw [putIn?, cutBytes_byteCount, Option.map_some]

@[simp] theorem dropBetween?_cons :
    dropBetween? (front ++ c :: back) (byteCount front) (byteCount (front ++ [c])) =
      some (front ++ back) := by
  rw [dropBetween?, cutBytes_byteCount_concat]
  simp only [Option.bind_eq_bind, Option.bind_some, cutBytes_byteCount]
  rfl

end ShareLedger.Text
