import Mathlib.Data.List.Basic
import ShareLedger.Proofs.Text.Place
import ShareLedger.Proofs.Text.Width
import ShareLedger.Screen.InputLine
/-!
# Proofs.CursorColumn

Whether the cursor is shown where the text is.

1. What has to be dropped is dropped (`InputLine.scrollTo?_append`), and so the text that is shown is
   cut off on the left where, measured one character at a time, the first column that is on the screen
   is reached (`InputLine.scrollTo?_eq_some`).
2. The column would pass below zero where the last character that has to be dropped is wider than the
   column that is left (`InputLine.scrollTo?_eq_none`).  That takes a frame of one or two columns,
   since no character is wider than three cells (`InputLine.scrollTo?_ne_none`).
3. The column begins as the width of a whole text and goes down by widths of single characters.  It is
   the width of what is left in front of the cursor just where the dropped part makes the text
   narrower by as much (`InputLine.showsCursor_iff`).
4. That is so for every text that adds up (`InputLine.scrollTo?_of_addsUp`), as texts without
   sequences do.  A sequence that is wider than its characters moves the cursor away from the text,
   and one that is narrower can bring the column below zero.
-/

namespace ShareLedger
namespace InputLine

/-- The shown text has everything behind the cursor, and the column of the cursor is the width of
what is shown in front of it and is between the edges of the frame. -/
def ShowsCursor (l : InputLine) (width : Nat) : Prop :=
  ∃ front back dropped shown, l.parts? = some (front, back) ∧ dropped ++ shown = prompt ++ front ∧
    l.scrolled? width = some (Text.widthOf shown, shown ++ back) ∧
    Text.widthOf shown < width - 2

/-- Whether, measured one character at a time, the column is none of the columns as long as the last
of some characters is not dropped. -/
def MustDrop (columns column : Nat) (dropped : List Char) : Prop :=
  ∀ before c, before ++ [c] = dropped → columns + Text.singles before ≤ column

/-! ## Dropping characters -/

variable {columns column : Nat} {c : Char} {cs : List Char}

theorem mustDrop_nil : MustDrop columns column [] := by
  intro before c h
  exact absurd h (List.append_ne_nil_of_right_ne_nil before (List.cons_ne_nil c []))

theorem mustDrop_concat {before : List Char} :
    MustDrop columns column (before ++ [c]) ↔ columns + Text.singles before ≤ column := by
  refine ⟨fun h => h before c rfl, fun h before' c' heq => ?_⟩
  obtain ⟨rfl, -⟩ := List.append_inj' heq rfl
  exact h

theorem mustDrop_singleton : MustDrop columns column [c] ↔ columns ≤ column := by
  have hone : MustDrop columns column ([] ++ [c]) ↔ columns + Text.singles [] ≤ column :=
    mustDrop_concat
  exact hone

/-- Dropping the first character leaves the rest to be dropped from the column that is left. -/
theorem mustDrop_cons (h : Text.widthOf [c] ≤ column) :
    MustDrop columns column (c :: cs) ↔
      columns ≤ column ∧ MustDrop columns (column - Text.widthOf [c]) cs := by
  obtain rfl | ⟨before, d, rfl⟩ := List.eq_nil_or_concat' cs
  · rw [mustDrop_singleton]
    exact (and_iff_left mustDrop_nil).symm
  · rw [← List.cons_append, mustDrop_concat, mustDrop_concat, Text.singles]
    omega

theorem MustDrop.front {before : List Char} (h : MustDrop columns column (before ++ [c])) :
    MustDrop columns column before := by
  have hle := mustDrop_concat.1 h
  rintro front d rfl
  rw [Text.singles_append] at hle
  omega

/-- Nothing is dropped when the cursor can be seen. -/
theorem scrollTo?_of_lt (h : column < columns) : scrollTo? columns column cs = some (column, cs) := by
  cases cs with
  | nil => rfl
  | cons c cs => rw [scrollTo?, if_neg (Nat.not_le_of_lt h)]

/-- What has to be dropped is dropped, as long as the column lasts. -/
theorem scrollTo?_append {dropped : List Char} (hmust : MustDrop columns column dropped)
    (hfits : Text.singles dropped ≤ column) (text : List Char) :
    scrollTo? columns column (dropped ++ text) =
      scrollTo? columns (column - Text.singles dropped) text := by
  induction dropped generalizing column with
  | nil => rfl
  | cons c dropped ih =>
      rw [Text.singles] at hfits
      have hfirst : Text.widthOf [c] ≤ column := by omega
      obtain ⟨hbeyond, hrest⟩ := (mustDrop_cons hfirst).1 hmust
      rw [List.cons_append, scrollTo?, if_pos hbeyond, if_pos hfirst, ih hrest (by omega),
        Text.singles, Nat.sub_sub]

/-- The trimming drops no character too many, and ends below the columns, at the end of the text or
at a character that is wider than the column. -/
theorem exists_dropped (columns column : Nat) (cs : List Char) :
    ∃ dropped text, dropped ++ text = cs ∧ MustDrop columns column dropped ∧
      (scrollTo? columns column cs = none ∧ column < Text.singles dropped ∨
        ∃ left, scrollTo? columns column cs = some (left, text) ∧
          left + Text.singles dropped = column ∧ (text ≠ [] → left < columns)) := by
  induction column, cs using scrollTo?.induct columns with
  | case1 column => exact ⟨[], [], rfl, mustDrop_nil, .inr ⟨column, rfl, rfl, fun h => absurd rfl h⟩⟩
  | case2 column c cs hbeyond hfits ih =>
      obtain ⟨dropped, text, rfl, hmust, hends⟩ := ih
      refine ⟨c :: dropped, text, rfl, (mustDrop_cons hfits).2 ⟨hbeyond, hmust⟩, ?_⟩
      rw [scrollTo?, if_pos hbeyond, if_pos hfits, Text.singles]
      obtain ⟨hnone, hlt⟩ | ⟨left, heq, hsum, hend⟩ := hends
      · exact .inl ⟨hnone, by omega⟩
      · exact .inr ⟨left, heq, by omega, hend⟩
  | case3 column c cs hbeyond hwide =>
      refine ⟨[c], cs, rfl, mustDrop_singleton.2 hbeyond, .inl ⟨?_, Nat.lt_of_not_le hwide⟩⟩
      rw [scrollTo?, if_pos hbeyond, if_neg hwide]
  | case4 column c cs hwithin =>
      have hlt := Nat.lt_of_not_le hwithin
      exact ⟨[], c :: cs, rfl, mustDrop_nil, .inr ⟨column, scrollTo?_of_lt hlt, rfl, fun _ => hlt⟩⟩

/-- **What the trimming ends with**: it drops no character too many, and the column goes down by the
widths of what it drops. -/
theorem scrollTo?_eq_some {left : Nat} {text : List Char} :
    scrollTo? columns column cs = some (left, text) ↔
      ∃ dropped, dropped ++ text = cs ∧ left + Text.singles dropped = column ∧
        MustDrop columns column dropped ∧ (text ≠ [] → left < columns) := by
  constructor
  · intro h
    obtain ⟨dropped, text', hsplit, hmust, hends⟩ := exists_dropped columns column cs
    rw [h] at hends
    obtain ⟨hnone, -⟩ | ⟨left', heq, hsum, hend⟩ := hends
    · cases hnone
    · cases heq
      exact ⟨dropped, hsplit, hsum, hmust, hend⟩
  · rintro ⟨dropped, rfl, rfl, hmust, hend⟩
    rw [scrollTo?_append hmust (Nat.le_add_left _ left), Nat.add_sub_cancel]
    by_cases htext : text = []
    · rw [htext, scrollTo?]
    · exact scrollTo?_of_lt (hend htext)

/-- **Where the column would pass below zero**: characters that have to be dropped are wider together,
each by itself, than the column from which they are counted. -/
theorem scrollTo?_eq_none :
    scrollTo? columns column cs = none ↔
      ∃ dropped, dropped <+: cs ∧ MustDrop columns column dropped ∧ column < Text.singles dropped := by
  constructor
  · intro h
    obtain ⟨dropped, text, hsplit, hmust, hends⟩ := exists_dropped columns column cs
    rw [h] at hends
    obtain ⟨-, hlt⟩ | ⟨left, heq, -, -⟩ := hends
    · exact ⟨dropped, ⟨text, hsplit⟩, hmust, hlt⟩
    · cases heq
  · rintro ⟨dropped, ⟨text, rfl⟩, hmust, hlt⟩
    obtain rfl | ⟨before, c, rfl⟩ := List.eq_nil_or_concat' dropped
    · exact absurd hlt (Nat.not_lt_zero column)
    · have hle := mustDrop_concat.1 hmust
      rw [Text.singles_append, Text.singles, Text.singles] at hlt
      rw [List.append_assoc, scrollTo?_append hmust.front (by omega), List.singleton_append,
        scrollTo?, if_pos (by omega), if_neg (by omega)]

/-- With three columns no character is wider than the column that it is dropped from. -/
theorem scrollTo?_ne_none (h : 3 ≤ columns) : scrollTo? columns column cs ≠ none := by
  intro hnone
  obtain ⟨dropped, -, hmust, hlt⟩ := scrollTo?_eq_none.1 hnone
  obtain rfl | ⟨before, c, rfl⟩ := List.eq_nil_or_concat' dropped
  · exact absurd hlt (Nat.not_lt_zero column)
  · have hle := mustDrop_concat.1 hmust
    have hthree := Text.widthOf_singleton_le c
    rw [Text.singles_append, Text.singles, Text.singles] at hlt
    omega

/-- In a text that adds up the column stays the width of what is left in front of the cursor. -/
theorem scrollTo?_of_addsUp (hcolumns : 0 < columns) {front : List Char} (h : Text.AddsUp front)
    (back : List Char) :
    ∃ dropped shown, dropped ++ shown = front ∧
      scrollTo? columns (Text.widthOf front) (front ++ back) =
        some (Text.widthOf shown, shown ++ back) ∧
      Text.widthOf shown < columns := by
  induction front with
  | nil => exact ⟨[], [], rfl, scrollTo?_of_lt hcolumns, hcolumns⟩
  | cons c front ih =>
      obtain ⟨hsum, hrest⟩ := Text.addsUp_cons.1 h
      by_cases hbeyond : columns ≤ Text.widthOf (c :: front)
      · obtain ⟨dropped, shown, rfl, heq, hlt⟩ := ih hrest
        have hfits : Text.widthOf [c] ≤ Text.widthOf (c :: (dropped ++ shown)) := by omega
        have hcolumn : Text.widthOf (c :: (dropped ++ shown)) - Text.widthOf [c] =
            Text.widthOf (dropped ++ shown) := by
          omega
        refine ⟨c :: dropped, shown, rfl, ?_, hlt⟩
        rw [List.cons_append, scrollTo?, if_pos hbeyond, if_pos hfits, hcolumn, heq]
      · exact ⟨[], c :: front, rfl, scrollTo?_of_lt (Nat.lt_of_not_le hbeyond),
          Nat.lt_of_not_le hbeyond⟩

/-! ## The cursor -/

variable {l : InputLine} {front back : List Char} {width : Nat}

theorem scrolled?_eq (hparts : l.parts? = some (front, back)) (hwidth : 3 ≤ width) :
    l.scrolled? width =
      scrollTo? (width - 2) (Text.widthOf (prompt ++ front)) (prompt ++ front ++ back) := by
  have hcolumns : max (width - 2) 1 = width - 2 := by omega
  rw [scrolled?, hparts, hcolumns, List.append_assoc, Text.append_of_cutBytes hparts]
  rfl

theorem addsUp_prompt (h : Text.AddsUp front) : Text.AddsUp (prompt ++ front) :=
  .cons_alone (Text.standsAlone_of_not_picture (by decide) (by decide) (by decide) (by decide))
    (.cons_alone Text.standsAlone_space h)

theorem showsCursor_of_addsUp (hparts : l.parts? = some (front, back)) (hwidth : 3 ≤ width)
    (h : Text.AddsUp front) : l.ShowsCursor width := by
  obtain ⟨dropped, shown, hwhole, heq, hlt⟩ :=
    scrollTo?_of_addsUp (Nat.sub_pos_of_lt hwidth) (addsUp_prompt h) back
  exact ⟨front, back, dropped, shown, hparts, hwhole, (scrolled?_eq hparts hwidth).trans heq, hlt⟩

/-- The cursor is shown just where the text in front of it can be cut so that no character too many
is dropped, what is left fits, and the whole is as wide as what is left and the dropped characters,
each by itself. -/
theorem showsCursor_iff (hparts : l.parts? = some (front, back)) (hwidth : 3 ≤ width) :
    l.ShowsCursor width ↔ ∃ dropped shown, dropped ++ shown = prompt ++ front ∧
      Text.widthOf shown + Text.singles dropped = Text.widthOf (prompt ++ front) ∧
      MustDrop (width - 2) (Text.widthOf (prompt ++ front)) dropped ∧
      Text.widthOf shown < width - 2 := by
  constructor
  · rintro ⟨front', back', dropped', shown, hparts', -, hshown, hlt⟩
    obtain ⟨rfl, rfl⟩ := Prod.mk.inj (Option.some.inj (hparts.symm.trans hparts'))
    rw [scrolled?_eq hparts hwidth] at hshown
    obtain ⟨dropped, hsplit, hsum, hmust, -⟩ := scrollTo?_eq_some.1 hshown
    rw [← List.append_assoc] at hsplit
    exact ⟨dropped, shown, List.append_cancel_right hsplit, hsum, hmust, hlt⟩
  · rintro ⟨dropped, shown, hwhole, hsum, hmust, hlt⟩
    refine ⟨front, back, dropped, shown, hparts, hwhole, ?_, hlt⟩
    rw [scrolled?_eq hparts hwidth]
    exact scrollTo?_eq_some.2 ⟨dropped, by rw [← List.append_assoc, hwhole], hsum, hmust, fun _ => hlt⟩

/-- **Where the cursor is shown.**  Characters are dropped on the left, and no more of them than
have to be, so that the width of the text in front of the cursor less their widths, each by itself,
is a column between the edges of the frame, if it can be.  The column would pass below zero just
where characters that have to be dropped are wider, each by itself, than that text, and never in a
frame of five cells or more.  The cursor is shown where the text is if and only if the text in front
of it can be cut so that the dropped part makes it narrower by just those widths.  It always is shown
there if the characters in front of it add up. -/
theorem scrolled_shows_cursor (hparts : l.parts? = some (front, back)) (hwidth : 3 ≤ width) :
    let whole := prompt ++ front
    (∀ column text, l.scrolled? width = some (column, text) ↔
      ∃ dropped, dropped ++ text = prompt ++ l.buffer ∧
        column + Text.singles dropped = Text.widthOf whole ∧
        MustDrop (width - 2) (Text.widthOf whole) dropped ∧ (text ≠ [] → column < width - 2)) ∧
    (l.scrolled? width = none ↔ ∃ dropped, dropped <+: prompt ++ l.buffer ∧
      MustDrop (width - 2) (Text.widthOf whole) dropped ∧
      Text.widthOf whole < Text.singles dropped) ∧
    (5 ≤ width → l.scrolled? width ≠ none) ∧
    (l.ShowsCursor width ↔ ∃ dropped shown, dropped ++ shown = whole ∧
      Text.widthOf shown + Text.singles dropped = Text.widthOf whole ∧
      MustDrop (width - 2) (Text.widthOf whole) dropped ∧ Text.widthOf shown < width - 2) ∧
    (Text.AddsUp front → l.ShowsCursor width) := by
  intro whole
  have hbuffer : prompt ++ l.buffer = whole ++ back := by
    rw [List.append_assoc, Text.append_of_cutBytes hparts]
  have hscrolled := scrolled?_eq hparts hwidth
  refine ⟨fun column text => ?_, ?_, fun hfive => ?_, showsCursor_iff hparts hwidth,
    showsCursor_of_addsUp hparts hwidth⟩
  · rw [hscrolled, hbuffer]
    exact scrollTo?_eq_some
  · rw [hscrolled, hbuffer]
    exact scrollTo?_eq_none
  · rw [hscrolled]
    exact scrollTo?_ne_none (by omega)

/-- In a narrow frame the prompt and a first ideograph are dropped, and everything from the second
one on is shown. -/
theorem scrolled_shows_cursor_ideographs :
    let l : InputLine := ⟨"東京 buy 2 gt".toList, 10, [], none, []⟩
    l.parts? = some ("東京 buy".toList, " 2 gt".toList) ∧ 3 ≤ 9 ∧
      Text.AddsUp "東京 buy".toList ∧ l.ShowsCursor 9 ∧
      l.scrolled? 9 = some (6, "京 buy 2 gt".toList) := by
  intro l
  have hparts : l.parts? = some ("東京 buy".toList, " 2 gt".toList) := by decide +kernel
  have hfront : Text.AddsUp "東京 buy".toList := (Text.addsUp_of_isLoose (by decide +kernel)).1
  have hwidth : 3 ≤ 9 := by decide
  obtain ⟨-, -, -, -, hshown⟩ := scrolled_shows_cursor hparts hwidth
  exact ⟨hparts, hwidth, hfront, hshown hfront, by decide +kernel⟩

/-- Three pictures with their marks are two cells wide each, but their characters only one cell and
none: behind the prompt the column goes down by one for each picture, everything is dropped, and the
cursor is not between the edges of the frame.  Two joined pictures are two cells wide together, but
two cells each by themselves: behind the first of them the column is one, and the second one would
bring it below zero. -/
theorem exists_cursor_not_shown :
    let marked := ((ofHistory []).handle (.paste "\u260e\ufe0f\u260e\ufe0f\u260e\ufe0f")).1
    let joined := ((ofHistory []).handle (.paste "👨\u200d👩a")).1
    ('\n' ∉ marked.buffer ∧ marked.parts? = some (marked.buffer, []) ∧
      marked.scrolled? 5 = some (3, []) ∧ ¬ marked.ShowsCursor 5) ∧
    ('\n' ∉ joined.buffer ∧ joined.parts? = some (joined.buffer, []) ∧
      joined.scrolled? 3 = none ∧ ¬ joined.ShowsCursor 3) := by
  intro marked joined
  have hmarked : marked.scrolled? 5 = some (3, []) := by decide +kernel
  have hjoined : joined.scrolled? 3 = none := by decide +kernel
  refine ⟨⟨by decide +kernel, by decide +kernel, hmarked, ?_⟩,
    by decide +kernel, by decide +kernel, hjoined, ?_⟩
  · rintro ⟨front, back, dropped, shown, -, -, heq, hlt⟩
    have hcolumn : 3 = Text.widthOf shown :=
      congrArg Prod.fst (Option.some.inj (hmarked.symm.trans heq))
    omega
  · rintro ⟨front, back, dropped, shown, -, -, heq, -⟩
    cases hjoined.symm.trans heq

end InputLine
end ShareLedger
