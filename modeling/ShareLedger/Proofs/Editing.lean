import Mathlib.Data.List.Basic
import ShareLedger.Proofs.Text.Place
import ShareLedger.Proofs.Text.Words
import ShareLedger.Screen.InputLine
/-!
# Proofs.Editing

The line in which commands are typed is an editor of characters.

1. An editor has no places in it: the text is the characters in front of the cursor and those
   behind it, and a history that is gone back in is its entries older and newer than the shown one
   (`Editor`, `Past`).  No step of it can fail.
2. Counted in bytes and in places of the history it is an input line (`Editor.toLine`).  Every event
   does to that line what it does to the editor, without a place that is none of the text or of the
   history (`Editor.handle?_toLine`).
3. An input line begins as an editor, so it is one after any events (`Editor.after_toLine`).
-/

namespace ShareLedger

/-- The line behind some events. -/
def InputLine.after (l : InputLine) (events : List Event) : InputLine :=
  events.foldl (fun l e => (l.handle e).1) l

/-! ## Editors -/

/-- The submitted lines. -/
inductive Past where
  /-- No entry is shown; the entries, oldest first. -/
  | closed (entries : List String)
  /-- An entry is shown; the older and the newer ones, each nearest first, and the parked line. -/
  | opened (older : List String) (entry : String) (newer : List String) (draft : List Char)

/-- The characters in front of the cursor and behind it, and the submitted lines. -/
structure Editor where
  front : List Char
  back : List Char
  past : Past

namespace Past

/-- All entries, oldest first. -/
def entries : Past → List String
  | closed entries => entries
  | opened older entry newer _ => older.reverse ++ entry :: newer

/-- The place of the entry that is shown. -/
def place? : Past → Option Nat
  | closed _ => none
  | opened older _ _ _ => some older.length

/-- The line that is parked; nothing while no entry is shown. -/
def draft : Past → List Char
  | closed _ => []
  | opened _ _ _ draft => draft

/-- An entry that is shown is one of the entries. -/
theorem place?_lt (p : Past) : ∀ place ∈ p.place?, place < p.entries.length := by
  intro place hplace
  cases p with
  | closed entries => cases hplace
  | opened older entry newer draft =>
      obtain rfl : older.length = place := Option.some.inj hplace
      simp [entries]

end Past

namespace Editor

/-- An editor without text. -/
def ofHistory (history : List String) : Editor := ⟨[], [], .closed history⟩

/-- Puts characters in front of the cursor. -/
def insert (E : Editor) (cs : List Char) : Editor × Option InputResult :=
  ({ E with front := E.front ++ cs }, some .changed)

/-- Drops the character in front of the cursor. -/
def backspace (E : Editor) : Editor × Option InputResult :=
  if E.front = [] then (E, none) else ({ E with front := E.front.dropLast }, some .changed)

/-- Drops the character behind the cursor. -/
def delete (E : Editor) : Editor × Option InputResult :=
  match E.back with
  | [] => (E, none)
  | _ :: back => ({ E with back }, some .changed)

/-- Moves the character in front of the cursor behind it. -/
def left (E : Editor) : Editor × Option InputResult :=
  match E.front.getLast? with
  | none => (E, none)
  | some c => ({ E with front := E.front.dropLast, back := c :: E.back }, some .changed)

/-- Moves the character behind the cursor in front of it. -/
def right (E : Editor) : Editor × Option InputResult :=
  match E.back with
  | [] => (E, none)
  | c :: back => ({ E with front := E.front ++ [c], back }, some .changed)

/-- Moves all characters behind the cursor. -/
def home (E : Editor) : Editor × Option InputResult :=
  if E.front = [] then (E, none)
  else ({ E with front := [], back := E.front ++ E.back }, some .changed)

/-- Moves all characters in front of the cursor. -/
def toEnd (E : Editor) : Editor × Option InputResult :=
  if E.back = [] then (E, none)
  else ({ E with front := E.front ++ E.back, back := [] }, some .changed)

/-- Drops all characters. -/
def clear (E : Editor) : Editor × Option InputResult :=
  if E.front ++ E.back = [] then (E, none)
  else ({ E with front := [], back := [] }, some .changed)

/-- Shows the entry before, or the newest one and parks the text, with the cursor at its end. -/
def older (E : Editor) : Editor × Option InputResult :=
  match E.past with
  | .closed entries =>
    match entries.reverse with
    | [] => (E, none)
    | newest :: older =>
      (⟨newest.toList, [], .opened older newest [] (E.front ++ E.back)⟩, some .changed)
  | .opened [] _ _ _ => (E, none)
  | .opened (before :: older) entry newer draft =>
    (⟨before.toList, [], .opened older before (entry :: newer) draft⟩, some .changed)

/-- Shows the entry behind, or the parked text behind the newest one, with the cursor at its end. -/
def newer (E : Editor) : Editor × Option InputResult :=
  match E.past with
  | .closed _ => (E, none)
  | .opened older entry [] draft => (⟨draft, [], .closed (older.reverse ++ [entry])⟩, some .changed)
  | .opened older entry (behind :: newer) draft =>
    (⟨behind.toList, [], .opened (entry :: older) behind newer draft⟩, some .changed)

/-- Empties the editor, and submits the text without the blanks around it if anything is left; the
entry is added unless it is the newest one already. -/
def submit (E : Editor) : Editor × Option InputResult :=
  let line := String.ofList (Text.trimChars (E.front ++ E.back))
  let entries := E.past.entries
  if line = "" then (ofHistory entries, none)
  else
    (ofHistory (if entries.getLast? = some line then entries else entries ++ [line]),
      some (.submitted line))

/-- What an event does. -/
def step (E : Editor) : Event → Editor × Option InputResult
  | .char c => E.insert [c]
  | .paste s => E.insert s.toList
  | .submit => E.submit
  | .backspace => E.backspace
  | .delete => E.delete
  | .left => E.left
  | .right => E.right
  | .home => E.home
  | .toEnd => E.toEnd
  | .clear => E.clear
  | .older => E.older
  | .newer => E.newer
  | .scrollUp | .scrollDown | .pageUp | .pageDown | .resize | .quit => (E, none)

/-- The editor behind some events. -/
def after (E : Editor) (events : List Event) : Editor :=
  events.foldl (fun E e => (E.step e).1) E

/-- The input line of an editor: its places are counted. -/
def toLine (E : Editor) : InputLine :=
  { buffer := E.front ++ E.back
    cursor := Text.byteCount E.front
    history := E.past.entries
    browsing := E.past.place?
    draft := E.past.draft }

@[simp] theorem entries_ofHistory (history : List String) :
    (ofHistory history).past.entries = history :=
  rfl

/-- What a step of an editor does to its line. -/
def seen (next : Editor × Option InputResult) : InputLine × Option InputResult :=
  (next.1.toLine, next.2)

/-! ## Editing -/

variable (E : Editor)

theorem parts?_toLine : E.toLine.parts? = some (E.front, E.back) := Text.cutBytes_byteCount _ _

theorem cursor_le_toLine : E.toLine.cursor ≤ Text.byteCount E.toLine.buffer := by
  rw [toLine, Text.byteCount_append]
  exact Nat.le_add_right _ _

theorem insert?_toLine (cs : List Char) : E.toLine.insert? cs = some (seen (E.insert cs)) := by
  simp [InputLine.insert?, toLine, insert, seen, Text.byteCount_append]

theorem backspace?_toLine : E.toLine.backspace? = some (seen E.backspace) := by
  obtain ⟨front, back, past⟩ := E
  obtain rfl | ⟨front, c, rfl⟩ := List.eq_nil_or_concat' front
  · rfl
  · simp [InputLine.backspace?, toLine, backspace, seen]

theorem delete?_toLine : E.toLine.delete? = some (seen E.delete) := by
  obtain ⟨front, back, past⟩ := E
  cases back <;> simp [InputLine.delete?, toLine, delete, seen]

theorem left?_toLine : E.toLine.left? = some (seen E.left) := by
  obtain ⟨front, back, past⟩ := E
  obtain rfl | ⟨front, c, rfl⟩ := List.eq_nil_or_concat' front
  · rfl
  · simp [InputLine.left?, toLine, left, seen]

theorem right?_toLine : E.toLine.right? = some (seen E.right) := by
  obtain ⟨front, back, past⟩ := E
  cases back <;> simp [InputLine.right?, toLine, right, seen]

theorem moveTo_toLine_zero : E.toLine.moveTo 0 = seen E.home := by
  rw [InputLine.moveTo, home, apply_ite seen]
  exact if_congr Text.byteCount_eq_zero rfl rfl

theorem moveTo_toLine_end : E.toLine.moveTo (Text.byteCount E.toLine.buffer) = seen E.toEnd := by
  rw [InputLine.moveTo, toEnd, apply_ite seen]
  refine if_congr (Text.byteCount_eq_append E.front E.back) rfl ?_
  simp [toLine, seen]

theorem clear_toLine : E.toLine.clear = seen E.clear := by
  rw [InputLine.clear, clear, apply_ite seen]
  exact if_congr List.isEmpty_iff rfl rfl

/-! ## History -/

/-- Showing an entry opens the history at its place. -/
theorem openAt?_length (l : InputLine) (older : List String) (entry : String) (newer : List String)
    (h : l.history = older.reverse ++ entry :: newer) :
    l.openAt? older.length =
      some (seen (⟨entry.toList, [], .opened older entry newer l.draft⟩, some .changed)) := by
  simp [InputLine.openAt?, InputLine.withBuffer, h, seen, toLine, Past.entries, Past.place?,
    Past.draft]

theorem older?_toLine : E.toLine.older? = some (seen E.older) := by
  obtain ⟨front, back, past⟩ := E
  cases past with
  | closed entries =>
      obtain rfl | ⟨older, newest, rfl⟩ := List.eq_nil_or_concat' entries
      · rfl
      · let parked : InputLine :=
          { (toLine ⟨front, back, .closed (older ++ [newest])⟩) with draft := front ++ back }
        have hshown := openAt?_length parked older.reverse newest [] (by simp [parked, toLine,
          Past.entries])
        simpa [InputLine.older?, toLine, parked, Past.entries, Past.place?, Editor.older] using hshown
  | opened older entry newer draft =>
      cases older with
      | nil => rfl
      | cons before older => exact openAt?_length _ older before (entry :: newer) (by simp [toLine,
          Past.entries])

theorem newer?_toLine : E.toLine.newer? = some (seen E.newer) := by
  obtain ⟨front, back, past⟩ := E
  cases past with
  | closed entries => rfl
  | opened older entry newer draft =>
      cases newer with
      | nil =>
          simp [InputLine.newer?, InputLine.withBuffer, toLine, Past.entries, Past.place?,
            Past.draft, Editor.newer, seen]
      | cons behind newer =>
          let E : Editor := ⟨front, back, .opened older entry (behind :: newer) draft⟩
          have hbehind : older.length + 1 < E.toLine.history.length := by
            simp [E, toLine, Past.entries]
          have hshown := openAt?_length E.toLine (entry :: older) behind newer (by simp [E, toLine,
            Past.entries])
          exact (if_pos hbehind).trans hshown

theorem submit_toLine : E.toLine.submit = seen E.submit := by
  rw [InputLine.submit, submit, apply_ite seen]
  rfl

/-! ## Events -/

/-- **An event does to the line of an editor what it does to the editor.**  No place it uses lies
outside the text or inside a character, and no entry it shows lies outside the history. -/
theorem handle?_toLine (e : Event) : E.toLine.handle? e = some (seen (E.step e)) := by
  cases e with
  | char c => exact E.insert?_toLine [c]
  | paste s => exact E.insert?_toLine s.toList
  | submit => exact congrArg some E.submit_toLine
  | backspace => exact E.backspace?_toLine
  | delete => exact E.delete?_toLine
  | left => exact E.left?_toLine
  | right => exact E.right?_toLine
  | home => exact congrArg some E.moveTo_toLine_zero
  | toEnd => exact congrArg some E.moveTo_toLine_end
  | clear => exact congrArg some E.clear_toLine
  | older => exact E.older?_toLine
  | newer => exact E.newer?_toLine
  | scrollUp | scrollDown | pageUp | pageDown | resize | quit => rfl

theorem handle_toLine (e : Event) : E.toLine.handle e = seen (E.step e) := by
  rw [InputLine.handle, handle?_toLine, Option.getD_some]

/-- The line behind some events is the line of the editor behind them. -/
theorem after_toLine (events : List Event) : E.toLine.after events = (E.after events).toLine := by
  induction events generalizing E with
  | nil => rfl
  | cons e events ih =>
      have hstep : (E.toLine.handle e).1 = (E.step e).1.toLine :=
        congrArg Prod.fst (E.handle_toLine e)
      rw [InputLine.after, List.foldl_cons, hstep]
      exact ih (E.step e).1

/-- The cursor goes over a character of two bytes in one step. -/
example :
    ((InputLine.ofHistory []).after [.paste "né", .left, .backspace, .char 'h']).parts? =
      some (['h'], ['é']) := by
  decide

/-! ## Submitting -/

/-- What no one submits leaves the history alone. -/
theorem entries_step {e : Event} (h : e ≠ .submit) :
    (E.step e).1.past.entries = E.past.entries := by
  obtain ⟨front, back, past⟩ := E
  cases e with
  | submit => exact absurd rfl h
  | backspace | delete | left | right | home | toEnd | clear =>
      dsimp only [step, backspace, delete, left, right, home, toEnd, clear]
      split <;> rfl
  | older =>
      cases past with
      | closed entries =>
          obtain rfl | ⟨older, newest, rfl⟩ := List.eq_nil_or_concat' entries
          · rfl
          · simp [step, Editor.older, Past.entries]
      | opened older entry newer draft => cases older <;> simp [step, Editor.older, Past.entries]
  | newer =>
      cases past with
      | closed entries => rfl
      | opened older entry newer draft => cases newer <;> simp [step, Editor.newer, Past.entries]
  | char | paste | scrollUp | scrollDown | pageUp | pageDown | resize | quit => rfl

theorem history_handle {e : Event} (h : e ≠ .submit) :
    (E.toLine.handle e).1.history = E.toLine.history := by
  rw [handle_toLine]
  exact E.entries_step h

/-- Submitting empties the line, and what is submitted is the text without the blanks around it. -/
theorem handle_submit :
    let text := Text.trim (String.ofList E.toLine.buffer)
    let entries := E.toLine.history
    E.toLine.handle .submit =
      if E.toLine.buffer.all Text.isBlank then (InputLine.ofHistory entries, none)
      else
        (InputLine.ofHistory (if entries.getLast? = some text then entries else entries ++ [text]),
          some (.submitted text)) := by
  intro text entries
  have htext : String.ofList (Text.trimChars (E.front ++ E.back)) = text := by
    rw [show text = Text.trim (String.ofList (E.front ++ E.back)) from rfl, Text.trim,
      String.toList_ofList]
  have hblank : text = "" ↔ E.toLine.buffer.all Text.isBlank = true := by
    rw [← htext, String.ofList_eq_empty_iff, Text.trimChars_eq_nil, List.all_eq_true]
    rfl
  rw [handle_toLine, step, submit, apply_ite seen, htext]
  exact if_congr hblank rfl rfl

/-- Entries are added to the history, and none is taken away. -/
theorem entries_prefix_step (e : Event) : E.past.entries <+: (E.step e).1.past.entries := by
  by_cases h : e = .submit
  · subst h
    rw [step, submit]
    split
    · exact List.prefix_rfl
    · rw [entries_ofHistory]
      split
      · exact List.prefix_rfl
      · exact List.prefix_append _ _
  · exact E.entries_step h ▸ List.prefix_rfl

theorem entries_prefix_after (events : List Event) :
    E.past.entries <+: (E.after events).past.entries := by
  induction events generalizing E with
  | nil => exact List.prefix_rfl
  | cons e events ih => exact (E.entries_prefix_step e).trans (ih (E.step e).1)

end Editor

/-- **The input line edits characters.**  Behind any events its cursor is a place of the text, the
entry that is shown is one of the history, and the characters in front of the cursor and behind it
are those of an editor that has no places in it.  Every further event can be handled, and does what
it does to the editor.  Only a submitted line is added to the history: the text without the blanks
around it, if anything is left and unless it is the newest entry already. -/
theorem InputLine.edits_characters (history : List String) (events : List Event) :
    let line := (InputLine.ofHistory history).after events
    let editor := (Editor.ofHistory history).after events
    line = editor.toLine ∧
      line.parts? = some (editor.front, editor.back) ∧
      line.cursor ≤ Text.byteCount line.buffer ∧
      (∀ place ∈ line.browsing, place < line.history.length) ∧
      (∀ e, line.handle? e = some ((editor.step e).1.toLine, (editor.step e).2)) ∧
      history <+: line.history ∧
      (∀ e, e ≠ .submit → (line.handle e).1.history = line.history) ∧
      let text := Text.trim (String.ofList line.buffer)
      line.handle .submit =
        if line.buffer.all Text.isBlank then (InputLine.ofHistory line.history, none)
        else
          (InputLine.ofHistory
              (if line.history.getLast? = some text then line.history else line.history ++ [text]),
            some (.submitted text)) := by
  intro line editor
  have hline : line = editor.toLine := (Editor.ofHistory history).after_toLine events
  rw [hline]
  exact ⟨rfl, editor.parts?_toLine, editor.cursor_le_toLine, editor.past.place?_lt,
    editor.handle?_toLine, (Editor.ofHistory history).entries_prefix_after events,
    fun _ he => editor.history_handle he, editor.handle_submit⟩

end ShareLedger
