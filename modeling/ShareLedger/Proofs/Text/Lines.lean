import ShareLedger.Plain
import ShareLedger.Proofs.Text.Words
/-!
# Proofs.Text.Lines

The lines of a text, found in its characters and found in its bytes.

1. A byte below 128 stands for a character by itself and in no other one
   (`Text.utf8_eq_singleton`), so the bytes of line feeds and carriage returns are line feeds and
   carriage returns.
2. The line program cuts bytes into lines before it decodes them.  The lines of the bytes of a text
   are the lines of the text (`Plain.inputLines_toUTF8`).
3. A text made of lines that end in a line feed each has these lines (`Text.lines_join`).
-/

namespace ShareLedger

namespace Text

/-! ## Bytes of characters -/

/-- The bytes of characters. -/
def utf8 (cs : List Char) : List UInt8 := cs.flatMap String.utf8EncodeChar

theorem utf8_append (cs ds : List Char) : utf8 (cs ++ ds) = utf8 cs ++ utf8 ds :=
  List.flatMap_append

theorem utf8_cons (c : Char) (cs : List Char) : utf8 (c :: cs) = utf8 [c] ++ utf8 cs :=
  utf8_append [c] cs

theorem utf8_ne_nil {cs : List Char} (h : cs ≠ []) : utf8 cs ≠ [] := by
  cases cs with
  | nil => exact absurd rfl h
  | cons c cs =>
      rw [utf8, List.flatMap_cons]
      exact List.append_ne_nil_of_left_ne_nil String.utf8EncodeChar_ne_nil _

/-- A byte below 128 is a whole character. -/
theorem utf8_eq_singleton {c : Char} {b : UInt8} (hb : b ∈ utf8 [c]) (hlow : b.toNat < 128) :
    utf8 [c] = [b] ∧ c.toNat = b.toNat := by
  have hbyte (n : Nat) : (UInt8.ofNat n).toNat = n % 256 := UInt8.toNat_ofNat'
  have hcode : c.val.toNat = c.toNat := rfl
  simp only [utf8, List.flatMap_singleton, String.utf8EncodeChar, hcode] at hb ⊢
  split at hb
  · next hone =>
      obtain rfl := List.mem_singleton.1 hb
      refine ⟨if_pos hone, ?_⟩
      rw [hbyte]
      omega
  · -- All bytes of the longer forms have their highest bit set.
    exfalso
    split at hb
    · simp only [List.mem_cons, List.not_mem_nil, or_false] at hb
      obtain rfl | rfl := hb <;> rw [hbyte] at hlow <;> omega
    · split at hb
      · simp only [List.mem_cons, List.not_mem_nil, or_false] at hb
        obtain rfl | rfl | rfl := hb <;> rw [hbyte] at hlow <;> omega
      · simp only [List.mem_cons, List.not_mem_nil, or_false] at hb
        obtain rfl | rfl | rfl | rfl := hb <;> rw [hbyte] at hlow <;> omega

/-- The bytes of a text are the bytes of its characters. -/
theorem toList_toUTF8 (s : String) : s.toUTF8.data.toList = utf8 s.toList := by
  have hbytes : s.toByteArray = s.toList.utf8Encode := by
    rw [← String.toByteArray_ofList, String.ofList_toList]
  rw [String.toUTF8_eq_toByteArray, hbytes, List.utf8Encode, List.data_toByteArray]
  rfl

/-! ## Lines that end in a line feed -/

/-- Characters without a line feed are taken into the line that has begun. -/
theorem linesAfter_append {cs : List Char} (h : '\n' ∉ cs) (held rest : List Char) :
    linesAfter held (cs ++ rest) = linesAfter (cs.reverse ++ held) rest := by
  induction cs generalizing held with
  | nil => rfl
  | cons c cs ih =>
      obtain ⟨hc, hcs⟩ := not_or.1 (mt List.mem_cons.2 h)
      rw [List.cons_append, linesAfter, ih hcs, List.reverse_cons, List.append_assoc,
        List.singleton_append]
      rintro rfl
      exact hc rfl

/-- A line ends at a line feed; the carriage return that may stand there is no part of it. -/
theorem linesAfter_feed {cs : List Char} (hfeed : '\n' ∉ cs) (hreturn : cs.getLast? ≠ some '\r')
    (rest : List Char) : linesAfter [] (cs ++ '\n' :: rest) = cs :: linesAfter [] rest := by
  have hkept : dropReturn cs.reverse = cs.reverse := by
    rw [dropReturn]
    intro before hbefore
    apply hreturn
    rw [List.getLast?_eq_head?_reverse, hbefore, List.head?_cons]
  rw [linesAfter_append hfeed, List.append_nil, linesAfter, hkept, List.reverse_reverse]

/-- Lines that end in a line feed each are the lines of their text in front of what follows. -/
theorem lines_join_append {ls : List String} (hfeed : ∀ l ∈ ls, '\n' ∉ l.toList)
    (hreturn : ∀ l ∈ ls, l.toList.getLast? ≠ some '\r') (rest : String) :
    lines (String.join (ls.map (· ++ "\n")) ++ rest) = ls ++ lines rest := by
  have hlist : linesAfter [] ((String.join (ls.map (· ++ "\n"))).toList ++ rest.toList) =
      ls.map String.toList ++ linesAfter [] rest.toList := by
    induction ls with
    | nil => rfl
    | cons l ls ih =>
        have hl : (l ++ "\n").toList = l.toList ++ ['\n'] := String.toList_append
        rw [List.map_cons, String.join_cons, String.toList_append, hl, List.append_assoc,
          List.append_assoc, List.singleton_append, linesAfter_feed (hfeed l List.mem_cons_self)
          (hreturn l List.mem_cons_self), ih (fun m hm => hfeed m (List.mem_cons_of_mem _ hm))
          fun m hm => hreturn m (List.mem_cons_of_mem _ hm), List.map_cons, List.cons_append]
  rw [lines, String.toList_append, hlist, List.map_append, List.map_map, lines]
  simp

/-- **Lines that end in a line feed each are the lines of their text.** -/
theorem lines_join {ls : List String} (hfeed : ∀ l ∈ ls, '\n' ∉ l.toList)
    (hreturn : ∀ l ∈ ls, l.toList.getLast? ≠ some '\r') :
    lines (String.join (ls.map (· ++ "\n"))) = ls := by
  have hnone : lines "" = [] := rfl
  have hall := lines_join_append hfeed hreturn ""
  rwa [String.append_empty, hnone, List.append_nil] at hall

end Text

namespace Plain

open Text (utf8)

/-- What is encoded is decoded. -/
theorem decode_utf8 (cs : List Char) : decode (utf8 cs) = some (String.ofList cs) := by
  have hbytes : (⟨(utf8 cs).toArray⟩ : ByteArray) = (String.ofList cs).toByteArray := by
    apply ByteArray.ext
    rw [String.toByteArray_ofList, List.utf8Encode, List.data_toByteArray]
    rfl
  rw [decode, hbytes, String.fromUTF8?, dif_pos (String.ofList cs).isValidUTF8]
  rfl

/-! ## Lines -/

/-- Drops the byte of a carriage return from the front of a line held in reverse. -/
def dropReturn : List UInt8 → List UInt8
  | 13 :: bytes => bytes
  | bytes => bytes

theorem inputLinesAfter_cons (line : List UInt8) (b : UInt8) (bytes : List UInt8) :
    inputLinesAfter line (b :: bytes) =
      if b = 10 then decode (dropReturn line).reverse :: inputLinesAfter [] bytes
      else inputLinesAfter (b :: line) bytes :=
  rfl

/-- Bytes without a line feed are taken into the line that has begun. -/
theorem inputLinesAfter_append {bytes : List UInt8} (h : 10 ∉ bytes) (line rest : List UInt8) :
    inputLinesAfter line (bytes ++ rest) = inputLinesAfter (bytes.reverse ++ line) rest := by
  induction bytes generalizing line with
  | nil => rfl
  | cons b bytes ih =>
      obtain ⟨hb, hbytes⟩ := not_or.1 (mt List.mem_cons.2 h)
      rw [List.cons_append, inputLinesAfter_cons, if_neg (Ne.symm hb), ih hbytes,
        List.reverse_cons, List.append_assoc, List.singleton_append]

/-- The byte of a carriage return is dropped where the carriage return is. -/
theorem dropReturn_utf8 (held : List Char) :
    dropReturn (utf8 held.reverse).reverse = (utf8 (Text.dropReturn held).reverse).reverse := by
  cases held with
  | nil => rfl
  | cons c held =>
      have hbytes : (utf8 (c :: held).reverse).reverse =
          (utf8 [c]).reverse ++ (utf8 held.reverse).reverse := by
        rw [List.reverse_cons, Text.utf8_append, List.reverse_append]
      by_cases hc : c = '\r'
      · have hreturn : (utf8 ['\r']).reverse = [13] := by decide
        rw [hbytes, hc, hreturn]
        rfl
      · have hother : Text.dropReturn (c :: held) = c :: held := by
          rw [Text.dropReturn]
          rintro _ ⟨⟩
          exact hc rfl
        obtain ⟨last, before, hlast⟩ := List.exists_cons_of_ne_nil
          (mt List.reverse_eq_nil_iff.1 (Text.utf8_ne_nil (List.cons_ne_nil c [])))
        have hmem : last ∈ utf8 [c] := by
          rw [← List.mem_reverse, hlast]
          exact List.mem_cons_self
        have hne : last ≠ 13 := by
          rintro rfl
          obtain ⟨-, hcode⟩ := Text.utf8_eq_singleton hmem (by decide)
          exact hc (Char.toNat_inj.1 hcode)
        rw [hother, hbytes, hlast, List.cons_append, dropReturn]
        rintro _ ⟨⟩
        exact hne rfl

/-- Cutting the bytes of characters is cutting the characters. -/
theorem inputLinesAfter_utf8 (held cs : List Char) :
    inputLinesAfter (utf8 held.reverse).reverse (utf8 cs) =
      (Text.linesAfter held cs).map fun line => some (String.ofList line) := by
  induction cs generalizing held with
  | nil =>
      have hnil : utf8 [] = [] := rfl
      by_cases hheld : held = []
      · subst hheld
        rfl
      · have hne : (utf8 held.reverse).reverse ≠ [] :=
          mt List.reverse_eq_nil_iff.1 (Text.utf8_ne_nil (mt List.reverse_eq_nil_iff.1 hheld))
        rw [hnil, inputLinesAfter, Text.linesAfter, if_neg (by simpa using hne),
          if_neg (by simpa using hheld), List.reverse_reverse, decode_utf8]
        rfl
  | cons c cs ih =>
      by_cases hc : c = '\n'
      · have hfeed : utf8 ['\n'] = [10] := by decide
        have hrest := ih []
        rw [Text.utf8_cons, hc, hfeed, List.singleton_append, inputLinesAfter_cons, if_pos rfl,
          dropReturn_utf8, List.reverse_reverse, decode_utf8, Text.linesAfter, List.map_cons,
          ← hrest]
        rfl
      · have hplain : 10 ∉ utf8 [c] := by
          intro hmem
          obtain ⟨-, hcode⟩ := Text.utf8_eq_singleton hmem (by decide)
          exact hc (Char.toNat_inj.1 hcode)
        have hheld : (utf8 [c]).reverse ++ (utf8 held.reverse).reverse =
            (utf8 (c :: held).reverse).reverse := by
          rw [List.reverse_cons, Text.utf8_append, List.reverse_append]
        rw [Text.utf8_cons, inputLinesAfter_append hplain, hheld, ih, Text.linesAfter]
        rintro ⟨⟩
        exact hc rfl

/-- **The lines of the bytes of a text are its lines**, all of which are texts. -/
theorem inputLines_toUTF8 (text : String) :
    inputLines text.toUTF8.data.toList = (Text.lines text).map some := by
  have hlines := inputLinesAfter_utf8 [] text.toList
  rw [inputLines, Text.toList_toUTF8, Text.lines, List.map_map]
  exact hlines

end Plain
end ShareLedger
