import Mathlib.Data.List.Basic
import Mathlib.Data.List.Induction
import ShareLedger.Proofs.Text.Lines
import ShareLedger.Screen.Scrollback
/-!
# Proofs.ScrollView

Which rows of everything that was typed and answered are on the screen.

1. The entries are the newest of all that were added, in order (`Scrollback.entries_after`): keeping
   the newest of what was kept and something more is keeping the newest of all (`newest_append`).
2. A drawing shows consecutive rows, the first of them at `Scrollback.top`, and `back` rows are left
   below them.  That is so as long as the count of the rows in 16 bits is their number, or all of
   them fit (`Scrollback.top_settle`).
3. A new entry brings the bottom back into view (`Scrollback.back_push`).  Each step up brings one row
   more from above into view, until the first row is the top one (`Scrollback.settle_scrollUps`).
-/

namespace ShareLedger

/-! ## Moves -/

/-- What happens to a scrollback. -/
inductive ScrollMove where
  | command (line : String)
  | feedback (text : String)
  | event (e : Event)
  | draw (width height : Nat)

/-- The entries that a move adds. -/
def ScrollMove.entries : ScrollMove → List ScrollEntry
  | command line => [.command line]
  | feedback text => (Text.lines (Text.trimEnd text)).map .feedback
  | event _ | draw _ _ => []

namespace Scrollback

/-- The scrollback behind a move; events that are not about scrolling change nothing. -/
def move (s : Scrollback) : ScrollMove → Scrollback
  | .command line => s.pushCommand line
  | .feedback text => s.pushFeedback text
  | .event e => (s.handle e).getD s
  | .draw width height => s.settle width height

/-- The scrollback behind some moves. -/
def after (moves : List ScrollMove) : Scrollback := moves.foldl move empty

/-- The row that a drawing begins with. -/
def top (s : Scrollback) : Nat := s.reach - s.back

/-- The newest of some entries, as many as are kept. -/
def newest (kept : Nat) (entries : List ScrollEntry) : List ScrollEntry :=
  entries.drop (entries.length - kept)

variable (s : Scrollback)

theorem after_concat (moves : List ScrollMove) (m : ScrollMove) :
    after (moves ++ [m]) = (after moves).move m := by
  rw [after, List.foldl_append]
  rfl

/-! ## Entries -/

/-- The newest of what was kept and of what is new are the newest of all. -/
theorem newest_append (kept : Nat) (old new : List ScrollEntry) :
    newest kept (newest kept old ++ new) = newest kept (old ++ new) := by
  unfold newest
  rw [List.length_append, List.length_drop, List.length_append]
  by_cases hfits : old.length ≤ kept
  · rw [Nat.sub_eq_zero_of_le hfits, List.drop_zero, Nat.sub_zero]
  · rw [← List.drop_append_of_le_length (Nat.sub_le _ _), List.drop_drop]
    congr 1
    omega

theorem newest_of_length_le {kept : Nat} {entries : List ScrollEntry}
    (h : entries.length ≤ kept) : newest kept entries = entries := by
  rw [newest, Nat.sub_eq_zero_of_le h, List.drop_zero]

theorem newest_newest (kept : Nat) (entries : List ScrollEntry) :
    newest kept (newest kept entries) = newest kept entries := by
  have hagain := newest_append kept entries []
  rwa [List.append_nil, List.append_nil] at hagain

theorem entries_push (e : ScrollEntry) :
    (s.push e).entries = newest capacity (s.entries ++ [e]) := by
  rw [push, newest]

/-- Adding entries one after another is adding all of them. -/
theorem entries_pushAll (es : List ScrollEntry) (h : newest capacity s.entries = s.entries) :
    (es.foldl push s).entries = newest capacity (s.entries ++ es) := by
  induction es generalizing s with
  | nil => rw [List.foldl_nil, List.append_nil, h]
  | cons e es ih =>
      have hkept : newest capacity (s.push e).entries = (s.push e).entries := by
        rw [entries_push, newest_newest]
      rw [List.foldl_cons, ih (s.push e) hkept, entries_push, newest_append, List.append_assoc,
        List.singleton_append]

theorem pushFeedback_eq (text : String) :
    s.pushFeedback text = (ScrollMove.feedback text).entries.foldl push s := by
  rw [pushFeedback, ScrollMove.entries, List.foldl_map]

theorem handle_cases (e : Event) :
    s.handle e = none ∨ ∃ up, s.handle e = some (s.scroll up) := by
  cases e with
  | scrollUp | scrollDown | pageUp | pageDown => exact .inr ⟨_, rfl⟩
  | _ => exact .inl rfl

/-- A move adds its entries. -/
theorem entries_move (m : ScrollMove) (h : newest capacity s.entries = s.entries) :
    (s.move m).entries = newest capacity (s.entries ++ m.entries) := by
  cases m with
  | command line => exact s.entries_push _
  | feedback text => rw [move, pushFeedback_eq, s.entries_pushAll _ h]
  | event e =>
      rw [ScrollMove.entries, List.append_nil, h, move]
      obtain hnone | ⟨up, hscroll⟩ := s.handle_cases e
      · rw [hnone, Option.getD_none]
      · rw [hscroll, Option.getD_some]
        rfl
  | draw width height =>
      rw [ScrollMove.entries, List.append_nil, h]
      rfl

/-- **The newest entries are kept, in order.** -/
theorem entries_after (moves : List ScrollMove) :
    (after moves).entries = newest capacity (moves.flatMap ScrollMove.entries) := by
  induction moves using List.reverseRecOn with
  | nil => rfl
  | append_singleton moves m ih =>
      have hkept : newest capacity (after moves).entries = (after moves).entries := by
        rw [ih, newest_newest]
      rw [after_concat, entries_move _ _ hkept, ih, newest_append, List.flatMap_append,
        List.flatMap_singleton]

/-! ## Drawing -/

/-- What lies below the last row of a screen is not looked at. -/
theorem area_take (width height : Nat) (texts : List (List Char)) :
    Screen.area width height (texts.take height) = Screen.area width height texts := by
  rw [Screen.area, Screen.area, List.take_take, Nat.min_self, List.length_take]
  congr 2
  omega

theorem rows_settle (width height width' : Nat) :
    (s.settle width height).rows width' = s.rows width' :=
  rfl

/-- A drawing shows as many rows as there is room for, from its top one on. -/
theorem draw_eq (width height : Nat) :
    s.draw width height =
      Screen.area width height (((s.rows width).drop s.top).take height) := by
  rw [area_take, draw, top]

/-- **The rows that are shown are those above the `back` last ones**, as many as there is room for,
if and only if the rows can be counted in 16 bits or all of them fit. -/
theorem top_settle (width height : Nat) :
    let rows := s.rows width
    let drawn := s.settle width height
    drawn.back ≤ rows.length - height ∧
      (drawn.top + min height rows.length + drawn.back = rows.length ↔
        rows.length < 65536 ∨ rows.length ≤ height) := by
  intro rows drawn
  have hreach : drawn.reach = rows.length % 65536 - height := rfl
  have hback : drawn.back = min s.back drawn.reach := rfl
  have htop : drawn.top = drawn.reach - drawn.back := rfl
  omega

/-- A view that is not scrolled stays at the bottom, as far as the rows can be counted. -/
theorem settle_of_back_eq_zero {s : Scrollback} (h : s.back = 0) (width height : Nat) :
    (s.settle width height).back = 0 ∧
      (s.settle width height).top = (s.rows width).length % 65536 - height := by
  have hback : (s.settle width height).back = 0 := by
    rw [settle]
    dsimp only
    rw [h, Nat.zero_min]
  refine ⟨hback, ?_⟩
  rw [top, hback, Nat.sub_zero]
  rfl

/-! ## New entries -/

theorem back_push (e : ScrollEntry) : (s.push e).back = 0 := rfl

/-- A move that adds an entry brings the bottom back into view. -/
theorem back_move {m : ScrollMove} (h : m.entries ≠ []) : (s.move m).back = 0 := by
  cases m with
  | command line => exact s.back_push _
  | feedback text =>
      obtain ⟨es, e, hes⟩ := (List.eq_nil_or_concat' _).resolve_left h
      rw [move, pushFeedback_eq, hes, List.foldl_append]
      exact back_push _ e
  | event e => exact absurd rfl h
  | draw width height => exact absurd rfl h

/-! ## Scrolling -/

/-- Steps up move the view as far as it can be moved. -/
theorem move_scrollUps (n : Nat) (h : s.back ≤ s.reach) :
    (List.replicate n (.event .scrollUp)).foldl move s =
      { s with back := min (s.back + n) s.reach } := by
  induction n generalizing s with
  | zero => rw [List.replicate_zero, List.foldl_nil, Nat.add_zero, Nat.min_eq_left h]
  | succ n ih =>
      have hstep : s.move (.event .scrollUp) = { s with back := min (s.back + 1) s.reach } := by
        have hback : (max 0 (min ((s.back : Int) + 1) s.reach)).toNat = min (s.back + 1) s.reach := by
          omega
        rw [move, handle, Option.getD_some, scroll, hback]
      rw [List.replicate_succ, List.foldl_cons, hstep, ih _ (Nat.min_le_right _ _)]
      congr 1
      dsimp only
      omega

/-- The drawing behind steps up from a drawing of the same size. -/
theorem settle_scrollUps (width height n : Nat) :
    let drawn := s.settle width height
    let up := ((List.replicate n (.event .scrollUp)).foldl move drawn).settle width height
    up.rows width = s.rows width ∧ up.top = drawn.top - n := by
  intro drawn up
  have hback : drawn.back ≤ drawn.reach := Nat.min_le_right _ _
  have hup : up = { drawn with back := min (min (drawn.back + n) drawn.reach) drawn.reach } := by
    rw [show up = _ from congrArg (settle · width height) (drawn.move_scrollUps n hback)]
    rfl
  refine ⟨by rw [hup]; rfl, ?_⟩
  have htop : drawn.top = drawn.reach - drawn.back := rfl
  rw [hup, top, htop]
  dsimp only
  omega

/-- **What is on the screen.**  Behind any moves the newest entries are kept, in order.  Their rows
are drawn from a top one on, as many as there is room for, and at most as many are left below as
are too many.  They are the rows that end `back` rows above the last one (all rows, if they fit),
if and only if the rows can be counted in 16 bits or fit.  Where that is so, the newest row is at the
bottom of the screen directly behind a new entry, and any row that is not below the view is brought
into view by steps up. -/
theorem shows_rows_of_newest (moves : List ScrollMove) (width : Nat) {height : Nat}
    (hheight : 0 < height) :
    let s := after moves
    let rows := s.rows width
    let counted := rows.length < 65536 ∨ rows.length ≤ height
    let drawn := s.settle width height
    s.entries = newest capacity (moves.flatMap ScrollMove.entries) ∧
      drawn.draw width height =
        Screen.area width height ((rows.drop drawn.top).take height) ∧
      drawn.back ≤ rows.length - height ∧
      (drawn.top + min height rows.length + drawn.back = rows.length ↔ counted) ∧
      (∀ m ∈ moves.getLast?, m.entries ≠ [] →
        drawn.back = 0 ∧ (counted → drawn.top = rows.length - height)) ∧
      (counted → ∀ i, i + drawn.back < rows.length → ∃ n,
        let up := (after (moves ++ .draw width height ::
          List.replicate n (.event .scrollUp))).settle width height
        up.rows width = rows ∧ up.top ≤ i ∧ i < up.top + height) := by
  intro s rows counted drawn
  obtain ⟨hback, hcounted⟩ := s.top_settle width height
  refine ⟨entries_after moves, drawn.draw_eq width height, hback, hcounted, fun m hm hnew => ?_,
    fun hcount i hi => ?_⟩
  · obtain ⟨before, hmoves⟩ := List.getLast?_eq_some_iff.1 hm
    have hzero : s.back = 0 := by
      rw [show s = (after before).move m by rw [← after_concat, ← hmoves]]
      exact back_move _ hnew
    have hback' : drawn.back = 0 := (settle_of_back_eq_zero hzero width height).1
    refine ⟨hback', fun hcount => ?_⟩
    have hall : drawn.top + min height rows.length + drawn.back = rows.length := hcounted.2 hcount
    omega
  · refine ⟨drawn.top - i, ?_⟩
    obtain ⟨hrows, htop⟩ := s.settle_scrollUps width height (drawn.top - i)
    have hall : drawn.top + min height rows.length + drawn.back = rows.length := hcounted.2 hcount
    have hafter : after (moves ++ .draw width height ::
          List.replicate (drawn.top - i) (.event .scrollUp)) =
        (List.replicate (drawn.top - i) (.event .scrollUp)).foldl move drawn := by
      rw [after, List.foldl_append]
      rfl
    intro up
    rw [show up = _ from congrArg (settle · width height) hafter]
    -- A row above the top one becomes the top one, any other row is in view already.
    have hplace : drawn.top - (drawn.top - i) ≤ i ∧ i < drawn.top - (drawn.top - i) + height := by
      omega
    exact ⟨hrows, htop.symm ▸ hplace⟩

/-- Behind two answers, a drawing and steps up a command is typed: the newest row is drawn last, and
steps up from there bring the oldest one back. -/
theorem shows_rows_of_newest_scrolled :
    let moves : List ScrollMove := [.feedback "line 0\nline 1\nline 2\nline 3\n", .draw 20 2,
      .event .scrollUp, .event .pageUp, .feedback "line 4\n\n", .command "holdings"]
    let drawn := (after moves).settle 20 2
    0 < 2 ∧ drawn.top = 4 ∧ drawn.back = 0 ∧
      Screen.texts (drawn.draw 20 2) = ["line 4", "> holdings"] ∧
      ∃ n, ((after (moves ++ .draw 20 2 :: List.replicate n (.event .scrollUp))).settle 20 2).top =
        0 := by
  intro moves drawn
  have hlength : ((after moves).rows 20).length = 6 := by decide +kernel
  have hcount : ((after moves).rows 20).length < 65536 ∨ ((after moves).rows 20).length ≤ 2 := by
    omega
  obtain ⟨-, -, -, -, hnew, hscroll⟩ := shows_rows_of_newest moves 20 (by decide : 0 < 2)
  obtain ⟨hback, htop⟩ := hnew (.command "holdings") rfl (List.cons_ne_nil _ _)
  obtain ⟨n, -, hfirst, -⟩ := hscroll hcount 0 (by omega)
  refine ⟨by decide, ?_, hback, by decide +kernel, n, Nat.le_zero.1 hfirst⟩
  rw [show drawn.top = _ from htop hcount, hlength]

/-- The rows of an answer whose lines but the last one are all the same. -/
theorem rows_repeated {line last text : String} {n k width : Nat} {row row' : List Char}
    (hlines : Text.lines (Text.trimEnd text) = List.replicate n line ++ [last])
    (hn : n + 1 ≤ capacity) (hline : rowsOf (max width 1) (.feedback line) = List.replicate k row)
    (hlast : rowsOf (max width 1) (.feedback last) = [row']) :
    (after [.feedback text]).back = 0 ∧
      (after [.feedback text]).rows width = List.replicate (n * k) row ++ [row'] := by
  have hnew : (ScrollMove.feedback text).entries =
      List.replicate n (.feedback line) ++ [.feedback last] := by
    rw [ScrollMove.entries, hlines, List.map_append, List.map_replicate, List.map_singleton]
  have hne : (ScrollMove.feedback text).entries ≠ [] := by
    rw [hnew]
    exact List.append_ne_nil_of_right_ne_nil _ (List.cons_ne_nil _ _)
  have hle : (ScrollMove.feedback text).entries.length ≤ capacity := by
    rwa [hnew, List.length_append, List.length_replicate, List.length_singleton]
  have hentries := entries_after [.feedback text]
  rw [List.flatMap_singleton, newest_of_length_le hle, hnew] at hentries
  refine ⟨(congrArg back (after_concat [] _)).trans (back_move _ hne), ?_⟩
  rw [rows, hentries, List.flatMap_append, List.flatMap_replicate, List.flatMap_singleton, hline,
    hlast, List.flatten_replicate_replicate]

/-- An answer of 65968 rows is drawn from a row far above its last one, though nothing is scrolled. -/
theorem exists_newest_out_of_view :
    let line := String.ofList (List.replicate 33 'a')
    let text := String.join ((List.replicate 1999 line).map (· ++ "\n")) ++ "b"
    let s := after [.feedback text]
    (s.rows 1).getLast? = some ['b'] ∧ (s.settle 1 1).back = 0 ∧
      (s.settle 1 1).draw 1 1 = [[['a']]] := by
  intro line text s
  have hlines : Text.lines (Text.trimEnd text) = List.replicate 1999 line ++ ["b"] := by
    have htrim : Text.trimEnd text = text := by
      rw [Text.trimEnd, ← String.toList_inj, String.toList_ofList, String.toList_append]
      exact Text.dropEndWhile_concat (by decide) _
    have hrest : Text.lines "b" = ["b"] := by decide +kernel
    rw [htrim, Text.lines_join_append, hrest]
    · exact fun l hl => by rw [List.eq_of_mem_replicate hl]; decide
    · exact fun l hl => by rw [List.eq_of_mem_replicate hl]; decide
  have hline : rowsOf (max 1 1) (.feedback line) = List.replicate 33 ['a'] := by decide +kernel
  have hlast : rowsOf (max 1 1) (.feedback "b") = [['b']] := by decide +kernel
  obtain ⟨hzero, hrows⟩ := rows_repeated hlines (by decide) hline hlast
  obtain ⟨hback, htop⟩ := settle_of_back_eq_zero hzero 1 1
  rw [hrows, List.length_append, List.length_replicate, List.length_singleton] at htop
  refine ⟨by rw [hrows, List.getLast?_concat], hback, ?_⟩
  have hlong : 431 ≤ (List.replicate (1999 * 33) ['a']).length := by
    rw [List.length_replicate]
    omega
  have hrest : (List.replicate (1999 * 33) ['a']).drop 431 = ['a'] :: List.replicate 65535 ['a'] := by
    rw [List.drop_replicate, ← List.replicate_succ]
  rw [draw_eq, rows_settle, htop, hrows, List.drop_append_of_le_length hlong, hrest,
    List.cons_append, List.take_succ_cons, List.take_zero]
  decide +kernel

end Scrollback
end ShareLedger
