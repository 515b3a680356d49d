import Mathlib.Algebra.Ring.Nat
import ShareLedger.Proofs.Text.Lines
import ShareLedger.Proofs.Text.Width
import ShareLedger.Table
/-!
# Proofs.TableDrawing

A table is drawn as a rectangle, in which every cell stands in its column unchanged.

1. The header and the rows may have any number of cells.  The loop over the rows finds the width of
   the widest cell of every column, and as many columns as the longest of them has cells
   (`Table.columnWidths_eq`).
2. The characters between the cells stand alone (`Text.StandsAlone`), so the width of a line is the
   sum of the widths of its fields and its bars (`Table.width_framed`).  A field is as wide as its
   column and two spaces (`Table.width_paddedCell`).
3. The text in front of a cell has the same width on every line (`Table.exists_rowLine_eq`).
4. Lines without a line feed come out of the text of the drawing as they were put in
   (`Text.lines_join`).
-/

namespace ShareLedger.Table

/-! ## Columns -/

/-- The cell of a row in a column; a missing cell is blank. -/
def cellAt (cells : List String) (i : Nat) : String := cells[i]?.getD ""

/-- The greatest of some numbers. -/
def greatest (ns : List Nat) : Nat := ns.foldr max 0

/-- The number of columns: as many as the header or a row has cells. -/
def columnCount (t : Table) : Nat := greatest ((t.header :: t.rows).map List.length)

/-- The width of the widest cell of a column. -/
def columnWidth (t : Table) (i : Nat) : Nat :=
  greatest ((t.header :: t.rows).map fun cells => Text.width (cellAt cells i))

theorem le_greatest {n : Nat} {ns : List Nat} (h : n ∈ ns) : n ≤ greatest ns := by
  induction ns with
  | nil => cases h
  | cons m ns ih =>
      have hcons : greatest (m :: ns) = max m (greatest ns) := rfl
      obtain rfl | h := List.mem_cons.1 h
      · omega
      · have := ih h
        omega

/-- Every cell has a column. -/
theorem length_le_columnCount {t : Table} {cells : List String} (h : cells ∈ t.header :: t.rows) :
    cells.length ≤ t.columnCount :=
  le_greatest (List.mem_map_of_mem h)

/-- No cell is wider than its column. -/
theorem width_le_columnWidth {t : Table} {cells : List String} (h : cells ∈ t.header :: t.rows)
    (i : Nat) : Text.width (cellAt cells i) ≤ t.columnWidth i :=
  le_greatest (List.mem_map_of_mem h)

theorem length_widen (vs ws : List Nat) : (widen vs ws).length = max vs.length ws.length := by
  induction vs generalizing ws with
  | nil => simp [widen]
  | cons v vs ih =>
      cases ws with
      | nil => simp [widen]
      | cons w ws => simp only [widen, List.length_cons, ih]; omega

theorem getD_widen (vs ws : List Nat) (i : Nat) :
    (widen vs ws)[i]?.getD 0 = max (vs[i]?.getD 0) (ws[i]?.getD 0) := by
  induction vs generalizing ws i with
  | nil => simp [widen]
  | cons v vs ih =>
      cases ws with
      | nil => simp [widen]
      | cons w ws =>
          cases i with
          | zero => simp [widen]
          | succ i => simpa [widen] using ih ws i

/-- The width of a cell, missing cells included. -/
theorem getD_map_width (cells : List String) (i : Nat) :
    (cells.map Text.width)[i]?.getD 0 = Text.width (cellAt cells i) := by
  rw [List.getElem?_map, cellAt]
  cases cells[i]? <;> rfl

/-- What is the greater one of two rows of columns is the greatest one of all rows. -/
theorem foldl_widen (size : List Nat → Nat)
    (hsize : ∀ vs ws, size (widen vs ws) = max (size vs) (size ws)) (rows : List (List String))
    (ws : List Nat) :
    size (rows.foldl (fun ws row => widen ws (row.map Text.width)) ws) =
      max (size ws) (greatest (rows.map fun row => size (row.map Text.width))) := by
  induction rows generalizing ws with
  | nil => exact (Nat.max_zero _).symm
  | cons row rows ih =>
      rw [List.foldl_cons, ih, hsize, Nat.max_assoc]
      rfl

theorem length_columnWidths (t : Table) : t.columnWidths.length = t.columnCount := by
  rw [columnWidths, foldl_widen List.length length_widen]
  simp only [List.length_map]
  rfl

theorem getD_columnWidths (t : Table) (i : Nat) :
    t.columnWidths[i]?.getD 0 = t.columnWidth i := by
  rw [columnWidths, foldl_widen (fun ws => ws[i]?.getD 0) (getD_widen · · i)]
  simp only [getD_map_width]
  rfl

/-- **The columns are as wide as their widest cells.** -/
theorem columnWidths_eq (t : Table) :
    t.columnWidths = (List.range t.columnCount).map t.columnWidth := by
  refine List.ext_getElem (by simp [length_columnWidths]) fun i hi _ => ?_
  have hwidth := t.getD_columnWidths i
  rw [List.getElem?_eq_getElem hi, Option.getD_some] at hwidth
  simpa using hwidth

/-! ## Fields -/

theorem getElem?_paddedCells (ws : List Nat) (cells : List String) (i : Nat) :
    (paddedCells ws cells)[i]? = ws[i]?.map fun w => paddedCell w (cellAt cells i) := by
  induction ws generalizing cells i with
  | nil => simp [paddedCells]
  | cons w ws ih => cases cells <;> cases i <;> simp [paddedCells, cellAt, ih]

/-- The fields of a line: the cells of a row, each filled to the width of its column. -/
def fields (t : Table) (cells : List String) : List String :=
  (List.range t.columnCount).map fun i => paddedCell (t.columnWidth i) (cellAt cells i)

theorem paddedCells_columnWidths (t : Table) (cells : List String) :
    paddedCells t.columnWidths cells = t.fields cells := by
  refine List.ext_getElem? fun i => ?_
  rw [getElem?_paddedCells, columnWidths_eq, fields, List.getElem?_map, List.getElem?_map,
    Option.map_map]
  obtain hi | hi := Nat.lt_or_ge i t.columnCount
  · rw [List.getElem?_range hi]
    rfl
  · rw [List.getElem?_eq_none (by simpa using hi)]
    rfl

/-! ## Runs of one character -/

theorem toList_fill (n : Nat) (c : Char) : (fill n c).toList = List.replicate n c := by simp [fill]

theorem width_fill {c : Char} (hc : Text.StandsAlone c) (n : Nat) : Text.width (fill n c) = n := by
  rw [Text.width_of_standsAlone, toList_fill, List.length_replicate]
  intro d hd
  rw [toList_fill] at hd
  exact List.eq_of_mem_replicate hd ▸ hc

theorem divides_fill {c : Char} (hc : Text.StandsAlone c) (n : Nat) :
    Text.Divides (fill (n + 1) c) := by
  apply Text.divides_of_standsAlone
  · simp [fill]
  · intro d hd
    rw [toList_fill] at hd
    exact List.eq_of_mem_replicate hd ▸ hc

theorem divides_space : Text.Divides " " := divides_fill Text.standsAlone_space 0

/-- The bars and the corners of a box. -/
def bars : List String := ["│", "┌", "┬", "┐", "├", "┼", "┤", "└", "┴", "┘"]

theorem chars_bars : ∀ bar ∈ bars, bar.toList.length = 1 ∧
    ∀ c ∈ bar.toList, 0x2500 ≤ c.toNat ∧ c.toNat ≤ 0x257F := by
  have hbox : (bars.all fun bar => bar.toList.length = 1 &&
      bar.toList.all fun c => 0x2500 ≤ c.toNat && c.toNat ≤ 0x257F) = true := by decide
  simpa [List.all_eq_true] using hbox

theorem standsAlone_bar {bar : String} (h : bar ∈ bars) : ∀ c ∈ bar.toList, Text.StandsAlone c :=
  fun c hc => Text.standsAlone_box ((chars_bars bar h).2 c hc).1 ((chars_bars bar h).2 c hc).2

theorem width_bar {bar : String} (h : bar ∈ bars) : Text.width bar = 1 :=
  (Text.width_of_standsAlone (standsAlone_bar h)).trans (chars_bars bar h).1

theorem divides_bar {bar : String} (h : bar ∈ bars) : Text.Divides bar := by
  refine Text.divides_of_standsAlone ?_ (standsAlone_bar h)
  rintro rfl
  exact absurd (chars_bars "" h).1 (by decide)

/-- A field is as wide as its column and two spaces. -/
theorem width_paddedCell {w : Nat} {cell : String} (h : Text.width cell ≤ w) :
    Text.width (paddedCell w cell) = w + 2 := by
  have hfilled : paddedCell w cell = " " ++ (cell ++ fill (w - Text.width cell + 1) ' ') := by
    simp [paddedCell, fill, List.replicate_succ', String.append_assoc]
  have hspace : Text.width " " = 1 := rfl
  rw [hfilled, divides_space.append_width, (divides_fill Text.standsAlone_space _).width_append,
    width_fill Text.standsAlone_space, hspace]
  omega

/-- The widths of fields and of the bars around them add up. -/
theorem width_framed {left crossing right : String} (hleft : Text.Divides left)
    (hcrossing : Text.Divides crossing) (hright : Text.Divides right) (fs : List String) :
    Text.width (left ++ Text.joinWith crossing fs ++ right) =
      (fs.map Text.width).sum + (fs.length - 1) * Text.width crossing + Text.width left +
        Text.width right := by
  have hjoined (f : String) (fs : List String) :
      Text.width (Text.joinWith crossing (f :: fs) ++ right) =
        Text.width f + (fs.map Text.width).sum + fs.length * Text.width crossing +
          Text.width right := by
    induction fs generalizing f with
    | nil =>
        have hlast := hright.width_append f
        simpa [Text.joinWith] using hlast
    | cons f' fs ih =>
        rw [Text.joinWith, String.append_assoc, hcrossing, ih, List.map_cons, List.sum_cons,
          List.length_cons, Nat.add_one_mul]
        · omega
        · simp
  rw [String.append_assoc, hleft.append_width]
  cases fs with
  | nil => simp [Text.joinWith]
  | cons f fs =>
      rw [hjoined, List.map_cons, List.sum_cons, List.length_cons, Nat.add_one_sub_one]
      omega

/-! ## Lines -/

/-- A rule without its line feed. -/
def ruleLine (t : Table) (left crossing right : String) : String :=
  left ++ Text.joinWith crossing (t.columnWidths.map fun w => fill (w + 2) '─') ++ right

/-- A line of cells without its line feed. -/
def rowLine (t : Table) (cells : List String) : String :=
  "│" ++ Text.joinWith "│" (t.fields cells) ++ "│"

/-- The lines of the drawing. -/
def drawnLines (t : Table) : List String :=
  t.ruleLine "┌" "┬" "┐" :: t.rowLine t.header :: t.ruleLine "├" "┼" "┤" ::
    (t.rows.map t.rowLine ++ [t.ruleLine "└" "┴" "┘"])

theorem line_eq (t : Table) (cells : List String) :
    line t.columnWidths cells = t.rowLine cells ++ "\n" := by
  rw [line, paddedCells_columnWidths, rowLine, String.append_assoc, String.append_assoc,
    String.append_assoc]
  rfl

theorem rule_eq (t : Table) (left crossing right : String) :
    rule left crossing right t.columnWidths = t.ruleLine left crossing right ++ "\n" :=
  rfl

theorem render_eq (t : Table) : t.render = String.join (t.drawnLines.map (· ++ "\n")) := by
  have hrows : t.rows.map (line t.columnWidths) = (t.rows.map t.rowLine).map (· ++ "\n") := by
    rw [List.map_map]
    exact List.map_congr_left fun cells _ => t.line_eq cells
  simp only [render, drawnLines, hrows, rule_eq, line_eq, List.map_cons, List.map_append,
    List.map_nil, String.join_cons, String.join_append, String.join_nil, String.append_empty,
    String.append_assoc]

/-- The width of the drawing: every column with two spaces, and a bar on each side of a column. -/
def drawnWidth (t : Table) : Nat :=
  ((List.range t.columnCount).map fun i => t.columnWidth i + 2).sum +
    if t.columnCount = 0 then 2 else t.columnCount + 1

theorem width_ruleLine (t : Table) {left crossing right : String} (hleft : left ∈ bars)
    (hcrossing : crossing ∈ bars) (hright : right ∈ bars) :
    Text.width (t.ruleLine left crossing right) = t.drawnWidth := by
  have hfill (n : Nat) : Text.width (fill n '─') = n :=
    width_fill (Text.standsAlone_box (by decide) (by decide)) n
  rw [ruleLine, columnWidths_eq, width_framed (divides_bar hleft) (divides_bar hcrossing)
    (divides_bar hright), width_bar hleft, width_bar hcrossing, width_bar hright, drawnWidth]
  simp only [List.map_map, List.length_map, List.length_range, Function.comp_def, hfill]
  split <;> omega

theorem width_rowLine {t : Table} {cells : List String} (h : cells ∈ t.header :: t.rows) :
    Text.width (t.rowLine cells) = t.drawnWidth := by
  have hbar : "│" ∈ bars := List.mem_cons_self
  have hfield (i : Nat) : Text.width (paddedCell (t.columnWidth i) (cellAt cells i)) =
      t.columnWidth i + 2 := width_paddedCell (width_le_columnWidth h i)
  rw [rowLine, width_framed (divides_bar hbar) (divides_bar hbar) (divides_bar hbar),
    width_bar hbar, drawnWidth]
  simp only [fields, List.map_map, List.length_map, List.length_range, Function.comp_def, hfield]
  split <;> omega

/-! ## Cells in a line -/

/-- Where the cells of a column begin: behind the bars and the fields in front and one space. -/
def columnStart (t : Table) (i : Nat) : Nat :=
  ((List.range i).map fun j => t.columnWidth j + 3).sum + 2

theorem width_barred {bar : String} (h : Text.Divides bar) (fs : List String) :
    Text.width (String.join (fs.map (· ++ bar))) =
      (fs.map fun f => Text.width f + Text.width bar).sum := by
  induction fs with
  | nil => rfl
  | cons f fs ih => rw [List.map_cons, String.join_cons, h, ih, List.map_cons, List.sum_cons]

theorem joinWith_eq_join_append (separator : String) (before : List String) (f : String)
    (after : List String) :
    Text.joinWith separator (before ++ f :: after) =
      String.join (before.map (· ++ separator)) ++ Text.joinWith separator (f :: after) := by
  induction before with
  | nil => simp
  | cons g before ih =>
      rw [List.map_cons, String.join_cons, String.append_assoc, ← ih]
      cases before <;> simp [Text.joinWith]

/-- The fields in front of one, that field, and those behind it. -/
theorem exists_fields_eq (t : Table) (cells : List String) {i : Nat} (hi : i < t.columnCount) :
    ∃ after, t.fields cells =
      ((List.range i).map fun j => paddedCell (t.columnWidth j) (cellAt cells j)) ++
        paddedCell (t.columnWidth i) (cellAt cells i) :: after := by
  have hsplit : List.range t.columnCount =
      List.range i ++ i :: (List.range t.columnCount).drop (i + 1) := by
    have hlength : i < (List.range t.columnCount).length := by simpa using hi
    have htake : (List.range t.columnCount).take i = List.range i := by
      rw [List.take_range, Nat.min_eq_left (Nat.le_of_lt hi)]
    have hdrop := List.drop_eq_getElem_cons hlength
    rw [List.getElem_range] at hdrop
    rw [← hdrop, ← htake, List.take_append_drop]
  rw [fields, hsplit, List.map_append, List.map_cons]
  exact ⟨_, rfl⟩

/-- **A line shows a cell in its column.** -/
theorem exists_rowLine_eq {t : Table} {cells : List String} (h : cells ∈ t.header :: t.rows)
    {i : Nat} (hi : i < t.columnCount) :
    ∃ front back,
      t.rowLine cells = front ++ " " ++ cellAt cells i ++
        fill (t.columnWidth i - Text.width (cellAt cells i)) ' ' ++ " │" ++ back ∧
      Text.width (front ++ " ") = t.columnStart i := by
  have hbar : "│" ∈ bars := List.mem_cons_self
  obtain ⟨after, hfields⟩ := t.exists_fields_eq cells hi
  let before := (List.range i).map fun j => paddedCell (t.columnWidth j) (cellAt cells j)
  have hend (f : String) : ∃ back, Text.joinWith "│" (f :: after) ++ "│" = f ++ ("│" ++ back) := by
    cases after with
    | nil => exact ⟨"", by simp [Text.joinWith]⟩
    | cons f' after =>
        refine ⟨Text.joinWith "│" (f' :: after) ++ "│", ?_⟩
        simp only [Text.joinWith, String.append_assoc]
  obtain ⟨back, hback⟩ := hend (paddedCell (t.columnWidth i) (cellAt cells i))
  refine ⟨"│" ++ String.join (before.map (· ++ "│")), back, ?_, ?_⟩
  · have hclose : " │" = " " ++ "│" := by decide
    rw [rowLine, hfields, joinWith_eq_join_append, String.append_assoc, String.append_assoc, hback,
      paddedCell, hclose]
    simp only [String.append_assoc]
    rfl
  · have hfield (j : Nat) : Text.width (paddedCell (t.columnWidth j) (cellAt cells j)) =
        t.columnWidth j + 2 := width_paddedCell (width_le_columnWidth h j)
    have hspace : Text.width " " = 1 := rfl
    rw [divides_space.width_append, (divides_bar hbar).append_width,
      width_barred (divides_bar hbar), width_bar hbar, hspace, columnStart, List.map_map]
    simp only [Function.comp_def, hfield, Nat.add_assoc, Nat.reduceAdd]
    omega

/-! ## The drawing -/

/-- No cell has a line feed in it. -/
def Unbroken (t : Table) : Prop :=
  ∀ cells ∈ t.header :: t.rows, ∀ cell ∈ cells, '\n' ∉ cell.toList

instance (t : Table) : Decidable t.Unbroken :=
  inferInstanceAs (Decidable (∀ cells ∈ t.header :: t.rows, ∀ cell ∈ cells, '\n' ∉ cell.toList))

theorem feed_notMem_fill {c : Char} (hc : c ≠ '\n') (n : Nat) : '\n' ∉ (fill n c).toList := by
  rw [toList_fill]
  exact fun hmem => hc (List.eq_of_mem_replicate hmem).symm

theorem feed_notMem_bar {bar : String} (h : bar ∈ bars) : '\n' ∉ bar.toList := by
  intro hmem
  exact absurd ((chars_bars bar h).2 _ hmem).1 (by decide)

/-- What holds of every rule and of every line of cells holds of all lines of the drawing. -/
theorem forall_drawnLines {t : Table} {p : String → Prop}
    (hrule : ∀ left ∈ bars, ∀ crossing ∈ bars, ∀ right ∈ bars, p (t.ruleLine left crossing right))
    (hrow : ∀ cells ∈ t.header :: t.rows, p (t.rowLine cells)) : ∀ line ∈ t.drawnLines, p line := by
  have hrows : ∀ line ∈ t.rows.map t.rowLine, p line :=
    List.forall_mem_map.2 fun cells hcells => hrow cells (List.mem_cons_of_mem _ hcells)
  have hlast : ∀ line ∈ [t.ruleLine "└" "┴" "┘"], p line :=
    List.forall_mem_singleton.2 (hrule _ (by decide) _ (by decide) _ (by decide))
  simp only [drawnLines, List.forall_mem_cons, List.forall_mem_append]
  exact ⟨hrule _ (by decide) _ (by decide) _ (by decide), hrow _ List.mem_cons_self,
    hrule _ (by decide) _ (by decide) _ (by decide), hrows, List.forall_mem_cons.1 hlast⟩

theorem feed_notMem_framed {left crossing right : String} (hleft : left ∈ bars)
    (hcrossing : crossing ∈ bars) (hright : right ∈ bars) {fs : List String}
    (h : ∀ f ∈ fs, '\n' ∉ f.toList) :
    '\n' ∉ (left ++ Text.joinWith crossing fs ++ right).toList := by
  simp [feed_notMem_bar hleft, feed_notMem_bar hright,
    Text.notMem_joinWith (feed_notMem_bar hcrossing) h]

theorem feed_notMem_drawnLines {t : Table} (h : t.Unbroken) :
    ∀ line ∈ t.drawnLines, '\n' ∉ line.toList := by
  apply forall_drawnLines
  · intro left hleft crossing hcrossing right hright
    refine feed_notMem_framed hleft hcrossing hright (List.forall_mem_map.2 fun w _ => ?_)
    exact feed_notMem_fill (by decide) _
  · intro cells hcells
    have hbar : "│" ∈ bars := List.mem_cons_self
    refine feed_notMem_framed hbar hbar hbar (List.forall_mem_map.2 fun i _ => ?_)
    have hcell : '\n' ∉ (cellAt cells i).toList := by
      rw [cellAt]
      cases hi : cells[i]? with
      | none => simp
      | some cell => exact h cells hcells cell (List.mem_of_getElem? hi)
    have hfill := feed_notMem_fill (c := ' ') (by decide)
      (t.columnWidth i - Text.width (cellAt cells i))
    simp [paddedCell, hcell, hfill]

/-- Every line of the drawing ends in a bar. -/
theorem getLast?_drawnLines {t : Table} :
    ∀ line ∈ t.drawnLines, line.toList.getLast? ≠ some '\r' := by
  have hframed (s : String) {right : String} (hright : right ∈ bars) :
      (s ++ right).toList.getLast? ≠ some '\r' := by
    obtain ⟨hlength, hbox⟩ := chars_bars right hright
    obtain ⟨c, hc⟩ := List.length_eq_one_iff.1 hlength
    have hne : c ≠ '\r' := by
      rintro rfl
      exact absurd (hbox '\r' (by simp [hc])).1 (by decide)
    rw [String.toList_append, hc, List.getLast?_concat]
    exact fun heq => hne (Option.some.inj heq)
  apply forall_drawnLines
  · exact fun left _ crossing _ right hright => hframed _ hright
  · exact fun cells _ => hframed _ List.mem_cons_self

theorem width_drawnLines {t : Table} :
    ∀ line ∈ t.drawnLines, Text.width line = t.drawnWidth := by
  apply forall_drawnLines
  · exact fun left hleft crossing hcrossing right hright =>
      t.width_ruleLine hleft hcrossing hright
  · exact fun cells hcells => width_rowLine hcells

theorem lines_render {t : Table} (h : t.Unbroken) : Text.lines t.render = t.drawnLines := by
  rw [render_eq]
  exact Text.lines_join (feed_notMem_drawnLines h) getLast?_drawnLines

/-- A line shows the cells of a row: each of them stands in its column unchanged, with blanks behind
it up to the width of the column. -/
def Shows (t : Table) (cells : List String) (line : String) : Prop :=
  ∀ i < t.columnCount, ∃ front back,
    line = front ++ " " ++ cellAt cells i ++
      fill (t.columnWidth i - Text.width (cellAt cells i)) ' ' ++ " │" ++ back ∧
    Text.width (front ++ " ") = t.columnStart i

/-- **The drawing of a table is a rectangle that shows every cell in its column.**  Every cell has a
column and is no wider than the column is drawn, so what is left of a column is never below zero.
There are four lines more than rows, each of which ends in a line feed, and all are equally wide.
The second line shows the header, and the lines behind the third one show the rows. -/
theorem render_rectangular (t : Table) (h : t.Unbroken) :
    (∀ cells ∈ t.header :: t.rows, cells.length ≤ t.columnCount ∧
        ∀ i, ∀ w ∈ t.columnWidths[i]?, Text.width (cellAt cells i) ≤ w) ∧
      t.render = String.join ((Text.lines t.render).map (· ++ "\n")) ∧
      (Text.lines t.render).length = t.rows.length + 4 ∧
      (∀ line ∈ Text.lines t.render, Text.width line = t.drawnWidth) ∧
      (∃ line, (Text.lines t.render)[1]? = some line ∧ t.Shows t.header line) ∧
      ∀ k cells, t.rows[k]? = some cells →
        ∃ line, (Text.lines t.render)[k + 3]? = some line ∧ t.Shows cells line := by
  rw [lines_render h]
  have hshows {cells : List String} (hcells : cells ∈ t.header :: t.rows) :
      t.Shows cells (t.rowLine cells) := fun i hi => exists_rowLine_eq hcells hi
  refine ⟨fun cells hcells => ⟨length_le_columnCount hcells, fun i w hw => ?_⟩, t.render_eq, ?_,
    width_drawnLines,
    ⟨t.rowLine t.header, rfl, hshows List.mem_cons_self⟩, fun k cells hk => ?_⟩
  · have hwidth := t.getD_columnWidths i
    rw [Option.mem_def] at hw
    rw [hw, Option.getD_some] at hwidth
    exact hwidth ▸ width_le_columnWidth hcells i
  · simp [drawnLines]
  · refine ⟨t.rowLine cells, ?_, hshows (List.mem_cons_of_mem _ (List.mem_of_getElem? hk))⟩
    have hlt : k < (t.rows.map t.rowLine).length := by
      rw [List.length_map]
      exact (List.getElem?_eq_some_iff.1 hk).1
    rw [drawnLines, List.getElem?_cons_succ, List.getElem?_cons_succ, List.getElem?_cons_succ,
      List.getElem?_append_left hlt, List.getElem?_map, hk, Option.map_some]

/-- A table whose rows are shorter and longer than the header, with a wide character, an accent of
its own and a joined emoji. -/
theorem render_rectangular_ragged :
    let t : Table := ⟨["Name", "£"], [["名", "e\u0301", "👩\u200D👩\u200D👧"], [], ["a"]]⟩
    t.Unbroken ∧ (Text.lines t.render).length = 7 ∧
      (∀ line ∈ Text.lines t.render, Text.width line = 17) ∧
      ∃ line, (Text.lines t.render)[3]? = some line ∧
        t.Shows ["名", "e\u0301", "👩\u200D👩\u200D👧"] line := by
  intro t
  have hunbroken : t.Unbroken := by decide
  have hwidth : t.drawnWidth = 17 := by decide +kernel
  obtain ⟨-, -, hlength, hlines, -, hrows⟩ := render_rectangular t hunbroken
  exact ⟨hunbroken, hlength, fun line hline => (hlines line hline).trans hwidth, hrows 0 _ rfl⟩

end ShareLedger.Table
