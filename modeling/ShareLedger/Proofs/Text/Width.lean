import ShareLedger.Text.Width
/-!
# Proofs.Text.Width

When the width of a text is the sum of the widths of its parts.

1. A character stands alone (`StandsAlone`) when it fills one cell whatever stands behind it, and
   what stands before it is measured as at the end of a text.  The space and the characters that
   boxes are drawn with are such (`standsAlone_space`, `standsAlone_box`).
2. Some sequences take back a cell that was counted for the character behind.  There always is one
   to take back (`owed_measure`), so no text is measured below zero.
3. Hence the width of a text that has such characters in it is the width of what stands before
   them, their number and the width of what stands behind them (`divides_of_standsAlone`).
4. A text adds up (`AddsUp`) when characters can be taken off its front one by one, each with its own
   width.  Texts without the characters that sequences end with do (`addsUp_of_isLoose`).
-/

namespace ShareLedger.Text

/-! ## Ranges -/

/-- Whether no range has a code from `low` to `high`. -/
def apart (low high : Nat) (ranges : List (Nat × Nat)) : Bool :=
  ranges.all fun r => high < r.1 || r.2 < low

theorem inRanges_eq_false {ranges : List (Nat × Nat)} {low high n : Nat}
    (h : apart low high ranges = true) (hlow : low ≤ n) (hhigh : n ≤ high) :
    inRanges ranges n = false := by
  rw [inRanges, List.any_eq_false]
  intro r hr
  have hapart := List.all_eq_true.1 h r hr
  simp only [Bool.or_eq_true, decide_eq_true_eq] at hapart
  simp only [Bool.and_eq_true, decide_eq_true_eq]
  omega

/-- A code of one of the ranges lies where all of them lie. -/
theorem between_of_inRanges {ranges : List (Nat × Nat)} {low high n : Nat}
    (h : (ranges.all fun r => low ≤ r.1 && r.2 ≤ high) = true) (hn : inRanges ranges n = true) :
    low ≤ n ∧ n ≤ high := by
  obtain ⟨r, hr, hin⟩ := List.any_eq_true.1 hn
  have hbounds := List.all_eq_true.1 h r hr
  simp only [Bool.and_eq_true, decide_eq_true_eq] at hin hbounds
  omega

/-! ## Characters that stand alone -/

/-- A character that fills one cell whatever stands behind it, and before which a text is measured
as at its end. -/
def StandsAlone (c : Char) : Prop := ∀ after, widthBefore c after = (1, .plain)

/-- A character up to the no-break space that ends no line and is part of no picture stands alone. -/
theorem standsAlone_of_not_picture {c : Char} (h : c.toNat ≤ 0xA0) (hfeed : c.toNat ≠ 10)
    (hreturn : c.toNat ≠ 13) (hpicture : canBePicture c.toNat = false) : StandsAlone c := by
  intro after
  have hnone : ¬ (after.asked = some .picture ∧ canBePicture c.toNat = true) := by simp [hpicture]
  rw [widthBefore, if_neg hnone]
  simp only [glyphBefore, if_neg hfeed, hreturn, false_and, if_false, if_pos h]

theorem standsAlone_space : StandsAlone ' ' := by
  apply standsAlone_of_not_picture <;> decide

/-- The tables of widths have none of the characters that boxes are drawn with. -/
theorem apart_box : [zeroWidthRanges, wideRanges, emojiRanges, pictureRanges, plainFormRanges,
    skinToneBaseRanges].all (apart 0x2500 0x257F) = true := by
  decide +kernel

/-- No character that boxes are drawn with takes part in a sequence. -/
theorem ligature?_box {n : Nat} (hlow : 0x2500 ≤ n) (hhigh : n ≤ 0x257F) (behind : Behind) :
    ligature? n behind = none := by
  have hapart := List.all_eq_true.1 apart_box
  have hpicture := inRanges_eq_false (hapart pictureRanges (by simp)) hlow hhigh
  have hbase := inRanges_eq_false (hapart skinToneBaseRanges (by simp)) hlow hhigh
  have hzero := inRanges_eq_false (hapart zeroWidthRanges (by simp)) hlow hhigh
  have hregional : isRegional n = false := by simp [isRegional]; omega
  have htone : isSkinTone n = false := by simp [isSkinTone]; omega
  have hletter : isTagLetter n = false := by simp [isTagLetter]; omega
  have hdigit : isTagDigit n = false := by simp [isTagDigit]; omega
  have hlam : isArabicLam n = false := by simp [isArabicLam]; omega
  have htifinagh : isTifinagh n = false := by simp [isTifinagh]; omega
  have hmark : isIgnoredMark n = false := by simp [isIgnoredMark]; omega
  have hjoiner : (n == 0x200D) = false := by simp; omega
  have hsequence : sequence? n behind = none := by
    unfold sequence?
    split <;> grind
  rw [ligature?, hmark, hjoiner, Bool.and_false, if_neg Bool.false_ne_true,
    if_neg Bool.false_ne_true, hsequence]

/-- The characters that boxes are drawn with stand alone. -/
theorem standsAlone_box {c : Char} (hlow : 0x2500 ≤ c.toNat) (hhigh : c.toNat ≤ 0x257F) :
    StandsAlone c := by
  intro after
  have hapart := List.all_eq_true.1 apart_box
  have hzero := inRanges_eq_false (hapart zeroWidthRanges (by simp)) hlow hhigh
  have hwide := inRanges_eq_false (hapart wideRanges (by simp)) hlow hhigh
  have hemoji := inRanges_eq_false (hapart emojiRanges (by simp)) hlow hhigh
  have hpicture := inRanges_eq_false (hapart pictureRanges (by simp)) hlow hhigh
  have hplain := inRanges_eq_false (hapart plainFormRanges (by simp)) hlow hhigh
  have hwidth : glyphWidth c = 1 := by
    simp [glyphWidth, hzero, hwide]
    omega
  have hglyph : behindGlyph c.toNat = .plain := by
    have hkhmer : isKhmerLetter c.toNat = false := inRanges_eq_false (by decide) hlow hhigh
    grind [behindGlyph, isSkinTone, isRegional, isArabicAlef, isTifinagh]
  have hnone : canBePicture c.toNat = false := by
    simp [canBePicture, hemoji, hplain]
    omega
  have hligature (behind : Behind) := ligature?_box hlow hhigh behind
  unfold widthBefore glyphBefore
  grind [After.plain]

/-! ## Cells that are taken back -/

/-- How many cells what stands before may take back. -/
def owed : Behind → Int
  | .joinedFlag | .joinedFlagsOdd | .khmerLetter | .tifinaghJoined => 1
  | _ => 0

theorem owed_nonneg (behind : Behind) : 0 ≤ owed behind := by
  unfold owed
  split <;> decide

theorem owed_withJoiner (behind : Behind) : owed behind.withJoiner = owed behind := by
  cases behind <;> rfl

theorem owed_sequence? {n : Nat} {behind behind' : Behind} {w : Int}
    (h : sequence? n behind = some (w, behind')) : owed behind' ≤ owed behind + w := by
  unfold sequence? at h
  split at h <;> grind [owed]

theorem owed_ligature? {n : Nat} {behind behind' : Behind} {w : Int}
    (h : ligature? n behind = some (w, behind')) : owed behind' ≤ owed behind + w := by
  unfold ligature? at h
  split at h
  · cases h
    have hsame := owed_withJoiner behind
    omega
  · split at h
    · cases h
      omega
    · exact owed_sequence? h

/-- A cell that may be taken back from a character is counted for it. -/
theorem owed_behindGlyph (c : Char) : owed (behindGlyph c.toNat) ≤ glyphWidth c := by
  by_cases hkhmer : isKhmerLetter c.toNat = true
  · have hbounds : 0x1780 ≤ c.toNat ∧ c.toNat ≤ 0x17AF := between_of_inRanges (by decide) hkhmer
    have hzero : inRanges zeroWidthRanges c.toNat = false :=
      inRanges_eq_false (by decide +kernel) hbounds.1 hbounds.2
    grind [owed, behindGlyph, glyphWidth]
  · have hnone : owed (behindGlyph c.toNat) = 0 := by
      simp only [behindGlyph, apply_ite owed, if_neg hkhmer]
      simp [owed]
    omega

/-- A mark adds nothing that may be taken back. -/
theorem owed_ask (after : After) (form : Form) : owed (after.ask form).behind ≤ owed after.behind := by
  have hnonneg := owed_nonneg after.behind
  unfold After.ask
  split
  · exact Int.le_refl _
  · exact hnonneg

theorem owed_withoutPicture (after : After) :
    owed after.withoutPicture.behind ≤ owed after.behind := by
  have hnonneg := owed_nonneg after.behind
  unfold After.withoutPicture
  split
  · split
    · exact Int.le_refl _
    · exact hnonneg
  · exact Int.le_refl _

theorem owed_glyphBefore (c : Char) (after : After) :
    owed (glyphBefore c after).2.behind ≤ owed after.behind + (glyphBefore c after).1 := by
  have hnonneg := owed_nonneg after.behind
  have hplain : owed After.plain.behind = 0 := rfl
  have hfeed : owed .lineFeed = 0 := rfl
  have hpicture := owed_ask after .picture
  have htext := owed_ask after .text
  have hsequence : owed ((ligature? c.toNat after.behind).getD (glyphWidth c, behindGlyph c.toNat)).2 ≤
      owed after.behind + ((ligature? c.toNat after.behind).getD (glyphWidth c, behindGlyph c.toNat)).1 := by
    cases hligature : ligature? c.toNat after.behind with
    | none =>
        have hglyph := owed_behindGlyph c
        dsimp only [Option.getD_none]
        omega
    | some taken => exact owed_ligature? hligature
  unfold glyphBefore
  grind

theorem owed_widthBefore (c : Char) (after : After) :
    owed (widthBefore c after).2.behind ≤ owed after.behind + (widthBefore c after).1 := by
  have hnonneg := owed_nonneg after.behind
  unfold widthBefore
  split
  · have hemoji : owed .emoji = 0 := rfl
    dsimp only
    split <;> omega
  · have hglyph := owed_glyphBefore c after.withoutPicture
    have hdropped := owed_withoutPicture after
    omega

/-! ## Widths of parts -/

theorem measure_cons (c : Char) (cs : List Char) :
    measure (c :: cs) =
      ((measure cs).1 + (widthBefore c (measure cs).2).1, (widthBefore c (measure cs).2).2) :=
  rfl

/-- What may be taken back of a text was counted. -/
theorem owed_measure (cs : List Char) : owed (measure cs).2.behind ≤ (measure cs).1 := by
  induction cs with
  | nil => decide
  | cons c cs ih =>
      have hstep := owed_widthBefore c (measure cs).2
      rw [measure_cons]
      dsimp only
      omega

/-- No text is measured below zero. -/
theorem toInt_widthOf (cs : List Char) : (widthOf cs : Int) = (measure cs).1 := by
  have howed := owed_measure cs
  have hnonneg := owed_nonneg (measure cs).2.behind
  rw [widthOf]
  omega

-- The sign coeng takes back the cell of the letter that it puts below the line, also across a mark.
example : widthOf [.ofNat 0x17D2, .ofNat 0x034F, .ofNat 0x1780] = 0 := by decide +kernel

/-- A character by itself fills no more than three cells. -/
theorem widthOf_singleton_le (c : Char) : widthOf [c] ≤ 3 := by
  have hglyph : glyphWidth c ≤ 3 := by
    unfold glyphWidth
    grind
  have hsequence : ligature? c.toNat .plain = none := rfl
  have hbefore : (widthBefore c .plain).1 ≤ 3 := by
    unfold widthBefore glyphBefore
    grind [After.plain, After.withoutPicture]
  have hmeasure := toInt_widthOf [c]
  have hnil : (measure []).1 = 0 := rfl
  have hplain : (measure []).2 = .plain := rfl
  rw [measure_cons, hnil, hplain] at hmeasure
  dsimp only at hmeasure
  omega

/-- What stands before a character that stands alone is measured by itself. -/
theorem measure_append_alone {c : Char} (hc : StandsAlone c) (front back : List Char) :
    measure (front ++ c :: back) =
      ((measure front).1 + 1 + (measure back).1, (measure front).2) := by
  induction front with
  | nil =>
      rw [List.nil_append, measure_cons, hc]
      exact Prod.ext (by simp [measure]; omega) rfl
  | cons d front ih =>
      rw [List.cons_append, measure_cons, ih, measure_cons]
      exact Prod.ext (by dsimp only; omega) rfl

theorem widthOf_append_alone {c : Char} (hc : StandsAlone c) (front back : List Char) :
    widthOf (front ++ c :: back) = widthOf front + 1 + widthOf back := by
  have hfront := toInt_widthOf front
  have hback := toInt_widthOf back
  have hwhole := toInt_widthOf (front ++ c :: back)
  rw [measure_append_alone hc] at hwhole
  dsimp only at hwhole
  omega

/-- A run of characters that stand alone is as wide as it is long. -/
theorem widthOf_run_append {run : List Char} (h : ∀ c ∈ run, StandsAlone c) (back : List Char) :
    widthOf (run ++ back) = run.length + widthOf back := by
  induction run with
  | nil => simp
  | cons c run ih =>
      have hrest := ih fun d hd => h d (List.mem_cons_of_mem _ hd)
      have hcons := widthOf_append_alone (h c List.mem_cons_self) [] (run ++ back)
      have hnil : widthOf [] = 0 := rfl
      rw [List.nil_append] at hcons
      rw [List.cons_append, hcons, hrest, List.length_cons]
      omega

theorem width_of_standsAlone {s : String} (h : ∀ c ∈ s.toList, StandsAlone c) :
    width s = s.toList.length := by
  have hrun := widthOf_run_append h []
  rwa [List.append_nil] at hrun

/-! ## Texts that add up -/

/-- The widths of the characters of a text, each measured by itself. -/
def singles : List Char → Nat
  | [] => 0
  | c :: cs => widthOf [c] + singles cs

theorem singles_append (cs ds : List Char) : singles (cs ++ ds) = singles cs + singles ds := by
  induction cs with
  | nil => rw [List.nil_append, singles, Nat.zero_add]
  | cons c cs ih => rw [List.cons_append, singles, singles, ih, Nat.add_assoc]

/-- A text in front of whose parts every character adds its own width. -/
def AddsUp (cs : List Char) : Prop := ∀ back, back <:+ cs → widthOf back = singles back

/-- Whether a character leaves nothing special to those before it when nothing special stands
behind it. -/
def isLoose (c : Char) : Bool := (widthBefore c .plain).2 = .plain

theorem addsUp_nil : AddsUp [] := fun _ h => by rw [List.suffix_nil.1 h]; rfl

theorem addsUp_cons {c : Char} {cs : List Char} :
    AddsUp (c :: cs) ↔ widthOf (c :: cs) = widthOf [c] + widthOf cs ∧ AddsUp cs := by
  constructor
  · intro h
    have hcs : AddsUp cs := fun back hback => h back (hback.trans (List.suffix_cons c cs))
    exact ⟨by rw [h _ (List.suffix_refl _), hcs _ (List.suffix_refl _), singles], hcs⟩
  · intro ⟨hc, hcs⟩ back hback
    obtain rfl | hback := List.suffix_cons_iff.1 hback
    · rw [hc, hcs _ (List.suffix_refl _), singles]
    · exact hcs back hback

/-- Characters that stand alone add up with any text that adds up. -/
theorem AddsUp.cons_alone {c : Char} {cs : List Char} (hc : StandsAlone c) (h : AddsUp cs) :
    AddsUp (c :: cs) := by
  have hlong := widthOf_append_alone hc [] cs
  have hone := widthOf_append_alone hc [] []
  have hnil : widthOf [] = 0 := rfl
  rw [List.nil_append] at hlong hone
  exact addsUp_cons.2 ⟨by omega, h⟩

/-- **Texts of loose characters add up.** -/
theorem addsUp_of_isLoose {cs : List Char} (h : cs.all isLoose = true) :
    AddsUp cs ∧ (measure cs).2 = .plain := by
  induction cs with
  | nil => exact ⟨addsUp_nil, rfl⟩
  | cons c cs ih =>
      rw [List.all_cons, Bool.and_eq_true] at h
      obtain ⟨hcs, hplain⟩ := ih h.2
      have hc : (widthBefore c .plain).2 = .plain := of_decide_eq_true h.1
      have hlong := measure_cons c cs
      have hone := measure_cons c []
      rw [hplain] at hlong
      refine ⟨addsUp_cons.2 ⟨?_, hcs⟩, by rw [hlong]; exact hc⟩
      have hsum : (widthOf (c :: cs) : Int) = widthOf [c] + widthOf cs := by
        rw [toInt_widthOf, toInt_widthOf, toInt_widthOf, hlong, hone]
        simp [measure]
        omega
      omega

/-! ## Dividing texts -/

/-- A text around which widths add up. -/
def Divides (s : String) : Prop :=
  ∀ front back, width (front ++ s ++ back) = width front + width s + width back

/-- **Widths add up around characters that stand alone.** -/
theorem divides_of_standsAlone {s : String} (hne : s ≠ "") (h : ∀ c ∈ s.toList, StandsAlone c) :
    Divides s := by
  intro front back
  obtain ⟨c, run, hs⟩ := List.exists_cons_of_ne_nil (mt String.toList_eq_nil_iff.1 hne)
  have hrest := widthOf_run_append (fun d hd => h d (hs ▸ List.mem_cons_of_mem _ hd)) back.toList
  rw [width_of_standsAlone h, width, String.toList_append, String.toList_append, List.append_assoc,
    hs, List.cons_append, widthOf_append_alone (h c (hs ▸ List.mem_cons_self)), hrest,
    List.length_cons]
  unfold width
  omega

theorem Divides.width_append {s : String} (h : Divides s) (front : String) :
    width (front ++ s) = width front + width s := by
  have hempty : width "" = 0 := rfl
  have hwhole := h front ""
  rwa [String.append_empty, hempty] at hwhole

theorem Divides.append_width {s : String} (h : Divides s) (back : String) :
    width (s ++ back) = width s + width back := by
  have hempty : width "" = 0 := rfl
  have hwhole := h "" back
  rwa [String.empty_append, hempty, Nat.zero_add] at hwhole

end ShareLedger.Text
