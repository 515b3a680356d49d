import ShareLedger.Proofs.Editing
/-!
# Proofs.Browsing

Going back in the history and forth again loses neither the line that was being typed nor an entry.

1. How far an editor is gone back is a number, its depth: an accepted step to an older entry adds
   one, an accepted step to a newer one takes one away, and nothing else counts
   (`Editor.depth_after`).  At depth `k` the `k`-th newest entry is open
   (`Past.getElem?_reverse_entries`).
2. While an entry is open the parked line stays as it is, whatever is done to the text.  The only
   way out of the history without submitting is a step to a newer line from the newest entry, and it
   puts the parked line back (`Editor.step_opened`).
3. The first step of a line that browses no history parks it, also where the line is none of an
   editor (`InputLine.handle_older_of_fresh`).
-/

namespace ShareLedger

namespace InputLine

/-- How many of some events that are handled one after another are of a kind and change the line. -/
def accepted (kind : Event) (l : InputLine) : List Event → Nat
  | [] => 0
  | e :: events =>
    (if e = kind ∧ (l.handle e).2 = some .changed then 1 else 0) +
      accepted kind (l.handle e).1 events

/-- The last one of some events is a step in the history, and it is accepted. -/
def Arrives (l : InputLine) (events : List Event) : Prop :=
  ∃ before last, events = before ++ [last] ∧ (last = .older ∨ last = .newer) ∧
    ((l.after before).handle last).2 = some .changed

/-- Some events lead out of the history, and fewer of them do not. -/
def FirstReturn (l : InputLine) (events : List Event) : Prop :=
  (l.after events).browsing = none ∧
    ∀ n < events.length, 0 < n → (l.after (events.take n)).browsing ≠ none

instance (l : InputLine) (events : List Event) : Decidable (l.FirstReturn events) :=
  inferInstanceAs (Decidable (_ ∧ _))

end InputLine

namespace Past

/-- How many entries back the shown one is. -/
def depth : Past → Nat
  | closed _ => 0
  | opened _ _ newer _ => newer.length + 1

/-- The entry that is shown. -/
def entry? : Past → Option String
  | closed _ => none
  | opened _ entry _ _ => some entry

variable (p : Past)

theorem place?_eq_none : p.place? = none ↔ p.depth = 0 := by
  cases p <;> simp [place?, depth]

/-- At depth `k` the `k`-th newest entry is shown. -/
theorem getElem?_reverse_entries {k : Nat} (h : p.depth = k + 1) :
    p.entries.reverse[k]? = p.entry? := by
  cases p with
  | closed => cases h
  | opened older entry newer draft =>
      obtain rfl : newer.length = k := Nat.succ.inj h
      simp [entries, entry?]

end Past

namespace Editor

variable (E : Editor)

/-! ## Depth -/

/-- What a step in the history does to the depth, and when it is accepted. -/
theorem older_cases :
    (E.past.depth < E.past.entries.length ∧ E.older.2 = some .changed ∧
        E.older.1.past.depth = E.past.depth + 1) ∨
      (E.past.depth = E.past.entries.length ∧ E.older = (E, none)) := by
  obtain ⟨front, back, past⟩ := E
  cases past with
  | closed entries =>
      obtain rfl | ⟨older, newest, rfl⟩ := List.eq_nil_or_concat' entries
      · exact .inr ⟨rfl, rfl⟩
      · exact .inl (by simp [Editor.older, Past.depth, Past.entries])
  | opened older entry newer draft =>
      cases older with
      | nil => exact .inr (by simp [Editor.older, Past.depth, Past.entries])
      | cons before older =>
          exact .inl (by simp [Editor.older, Past.depth, Past.entries]; omega)

theorem newer_cases :
    (0 < E.past.depth ∧ E.newer.2 = some .changed ∧
        E.newer.1.past.depth + 1 = E.past.depth) ∨
      (E.past.depth = 0 ∧ E.newer = (E, none)) := by
  obtain ⟨front, back, past⟩ := E
  cases past with
  | closed entries => exact .inr ⟨rfl, rfl⟩
  | opened older entry newer draft => cases newer <;> exact .inl (by simp [Editor.newer, Past.depth])

/-- What is no step in the history and submits nothing leaves the history as it is. -/
theorem past_step {e : Event} (hsubmit : e ≠ .submit) (holder : e ≠ .older) (hnewer : e ≠ .newer) :
    (E.step e).1.past = E.past := by
  cases e with
  | submit => exact absurd rfl hsubmit
  | older => exact absurd rfl holder
  | newer => exact absurd rfl hnewer
  | backspace | delete | left | right | home | toEnd | clear =>
      dsimp only [step, backspace, delete, left, right, home, toEnd, clear]
      split <;> rfl
  | char | paste | scrollUp | scrollDown | pageUp | pageDown | resize | quit => rfl

/-- **Depth is counted by the accepted steps.** -/
theorem depth_after {events : List Event} (h : .submit ∉ events) :
    (E.after events).past.depth + E.toLine.accepted .newer events =
      E.past.depth + E.toLine.accepted .older events := by
  induction events generalizing E with
  | nil => rfl
  | cons e events ih =>
      obtain ⟨hsubmit, hevents⟩ := not_or.1 (mt List.mem_cons.2 h)
      have hrest := ih (E.step e).1 hevents
      have hafter : E.after (e :: events) = (E.step e).1.after events := rfl
      have hline : (E.toLine.handle e).1 = (E.step e).1.toLine := congrArg Prod.fst (E.handle_toLine e)
      have hresult : (E.toLine.handle e).2 = (E.step e).2 := congrArg Prod.snd (E.handle_toLine e)
      have hstep : (E.step e).1.past.depth +
            (if e = .newer ∧ (E.toLine.handle e).2 = some .changed then 1 else 0) =
          E.past.depth +
            (if e = .older ∧ (E.toLine.handle e).2 = some .changed then 1 else 0) := by
        rw [hresult]
        by_cases holder : e = .older
        · subst holder
          obtain ⟨-, hchanged, hdepth⟩ | ⟨-, hrefused⟩ := E.older_cases
          · simp [step, hchanged, hdepth]
          · simp [step, hrefused]
        · by_cases hnewer : e = .newer
          · subst hnewer
            obtain ⟨-, hchanged, hdepth⟩ | ⟨-, hrefused⟩ := E.newer_cases
            · simp [step, hchanged, hdepth]
            · simp [step, hrefused]
          · rw [E.past_step (Ne.symm hsubmit) holder hnewer]
            simp [holder, hnewer]
      rw [InputLine.accepted, InputLine.accepted, hline, hafter]
      omega

theorem entries_after {events : List Event} (h : .submit ∉ events) :
    (E.after events).past.entries = E.past.entries := by
  induction events generalizing E with
  | nil => rfl
  | cons e events ih =>
      obtain ⟨hsubmit, hevents⟩ := not_or.1 (mt List.mem_cons.2 h)
      exact (ih (E.step e).1 hevents).trans (E.entries_step (Ne.symm hsubmit))

/-! ## Arriving at an entry -/

/-- The text is that of the entry that is shown, if one is, and the cursor stands at its end. -/
def AtEntry : Prop := E.back = [] ∧ ∀ entry ∈ E.past.entry?, E.front = entry.toList

/-- An accepted step in the history shows an entry as it is stored. -/
theorem atEntry_step {e : Event} (hstep : e = .older ∨ e = .newer)
    (hchanged : (E.step e).2 = some .changed) : (E.step e).1.AtEntry := by
  obtain ⟨front, back, past⟩ := E
  obtain rfl | rfl := hstep
  · cases past with
    | closed entries =>
        obtain rfl | ⟨older, newest, rfl⟩ := List.eq_nil_or_concat' entries
        · cases hchanged
        · simp [step, Editor.older, AtEntry, Past.entry?]
    | opened older entry newer draft =>
        cases older with
        | nil => cases hchanged
        | cons before older => simp [step, Editor.older, AtEntry, Past.entry?]
  · cases past with
    | closed entries => cases hchanged
    | opened older entry newer draft =>
        cases newer <;> simp [step, Editor.newer, AtEntry, Past.entry?]

/-- The line at depth `k` is the `k`-th newest entry. -/
theorem AtEntry.toLine {E : Editor} (h : E.AtEntry) {k : Nat} (hk : E.past.depth = k + 1) :
    E.past.entries.reverse[k]? = some (String.ofList E.toLine.buffer) ∧
      E.toLine.cursor = Text.byteCount E.toLine.buffer := by
  obtain ⟨front, back, past⟩ := E
  obtain ⟨rfl, hfront⟩ := h
  have hshown := past.getElem?_reverse_entries hk
  cases past with
  | closed => cases hk
  | opened older entry newer draft =>
      obtain rfl : front = entry.toList := hfront entry rfl
      rw [hshown]
      simp [Editor.toLine, Past.entry?]

/-- The editor behind some events and one more. -/
theorem after_concat (events : List Event) (e : Event) :
    E.after (events ++ [e]) = ((E.after events).step e).1 := by
  rw [after, List.foldl_append]
  rfl

/-! ## The parked line -/

/-- An entry is open, and a line is parked. -/
def Parks (draft : List Char) : Prop :=
  ∃ older entry newer, E.past = .opened older entry newer draft

/-- **A parked line stays parked** until a step to a newer line puts it back as the text. -/
theorem step_opened {e : Event} {draft : List Char} (hparks : E.Parks draft) (h : e ≠ .submit) :
    (E.step e).1.Parks draft ∨
      e = .newer ∧ ∃ entries, (E.step e).1 = ⟨draft, [], .closed entries⟩ := by
  obtain ⟨older, entry, newer, hpast⟩ := hparks
  by_cases holder : e = .older
  · subst holder
    rw [step, Editor.older, hpast]
    cases older with
    | nil => exact .inl ⟨_, _, _, hpast⟩
    | cons before older => exact .inl ⟨_, _, _, rfl⟩
  · by_cases hnewer : e = .newer
    · subst hnewer
      rw [step, Editor.newer, hpast]
      cases newer with
      | nil => exact .inr ⟨rfl, _, rfl⟩
      | cons behind newer => exact .inl ⟨_, _, _, rfl⟩
    · exact .inl ⟨_, _, _, (E.past_step h holder hnewer).trans hpast⟩

/-- The first return out of the history puts the parked line back. -/
theorem after_of_firstReturn {events : List Event} {draft : List Char} (hparks : E.Parks draft)
    (hsubmit : .submit ∉ events) (hclosed : (E.after events).past.place? = none)
    (hfirst : ∀ n < events.length, 0 < n → (E.after (events.take n)).past.place? ≠ none) :
    events.getLast? = some .newer ∧ ∃ entries, E.after events = ⟨draft, [], .closed entries⟩ := by
  induction events generalizing E with
  | nil =>
      obtain ⟨older, entry, newer, hpast⟩ := hparks
      rw [after, List.foldl_nil, hpast] at hclosed
      cases hclosed
  | cons e events ih =>
      obtain ⟨he, hevents⟩ := not_or.1 (mt List.mem_cons.2 hsubmit)
      obtain hparks' | ⟨rfl, entries, hback⟩ := E.step_opened hparks (Ne.symm he)
      · obtain ⟨hlast, hback⟩ := ih (E.step e).1 hparks' hevents hclosed fun n hn _ =>
          hfirst (n + 1) (Nat.succ_lt_succ hn) n.succ_pos
        exact ⟨by rw [List.getLast?_cons, hlast]; rfl, hback⟩
      · -- The parked line is back, so this event is the last one.
        have hnil : events = [] := by
          by_contra hne
          refine hfirst 1 (Nat.succ_lt_succ (List.length_pos_of_ne_nil hne)) Nat.one_pos ?_
          rw [List.take_succ_cons, List.take_zero, after, List.foldl_cons, hback]
          rfl
        subst hnil
        exact ⟨rfl, entries, hback⟩

end Editor

namespace InputLine

variable {l : InputLine}

/-- A line that browses no history is parked by the first step back, wherever its cursor stands. -/
theorem handle_older_of_fresh (hfresh : l.browsing = none) (hhistory : l.history ≠ []) :
    ∃ E : Editor, E.Parks l.buffer ∧ E.past.entries = l.history ∧ E.past.depth = 1 ∧ E.AtEntry ∧
      l.handle .older = Editor.seen (E, some .changed) := by
  obtain hnil | ⟨before, newest, hentries⟩ := List.eq_nil_or_concat' l.history
  · exact absurd hnil hhistory
  · have hparked := Editor.openAt?_length { l with draft := l.buffer } before.reverse newest []
      (by rw [List.reverse_reverse]; exact hentries)
    have hplace : before.reverse.length = l.history.length - 1 := by simp [hentries]
    have holder : l.older? = { l with draft := l.buffer }.openAt? (l.history.length - 1) := by
      simp [older?, hfresh, hhistory]
    refine ⟨⟨newest.toList, [], .opened before.reverse newest [] l.buffer⟩, ⟨_, _, _, rfl⟩, ?_, rfl,
      ⟨rfl, fun entry hentry => ?_⟩, ?_⟩
    · rw [Past.entries, List.reverse_reverse, hentries]
    · rw [← Option.some.inj hentry]
    · rw [handle, handle?, holder, ← hplace, hparked, Option.getD_some]

section Opened

variable {E : Editor} (hopened : l.handle .older = Editor.seen (E, some .changed))

include hopened

theorem after_older (events : List Event) :
    l.after (.older :: events) = (E.after events).toLine := by
  rw [← E.after_toLine, after, List.foldl_cons, hopened]
  rfl

/-- The steps are counted by the depth. -/
theorem depth_add_accepted (hdepth : E.past.depth = 1) {events : List Event}
    (hsubmit : .submit ∉ events) :
    (E.after events).past.depth + l.accepted .newer (.older :: events) =
      l.accepted .older (.older :: events) := by
  have hrest := E.depth_after hsubmit
  simp only [accepted, hopened, Editor.seen]
  simp only [reduceCtorEq, false_and, true_and, if_true, if_false]
  omega

theorem atEntry_of_arrives (hentry : E.AtEntry) {events : List Event}
    (h : l.Arrives (.older :: events)) : (E.after events).AtEntry := by
  obtain ⟨before, last, htrip, hstep, hchanged⟩ := h
  cases before with
  | nil =>
      obtain ⟨-, rfl⟩ := List.cons.inj htrip
      exact hentry
  | cons first before =>
      rw [List.cons_append] at htrip
      obtain ⟨rfl, rfl⟩ := List.cons.inj htrip
      rw [after_older hopened, Editor.handle_toLine] at hchanged
      rw [Editor.after_concat]
      exact (E.after before).atEntry_step hstep hchanged

theorem firstReturn_of_parks (hparks : E.Parks l.buffer) {events : List Event}
    (hsubmit : .submit ∉ events) (h : l.FirstReturn (.older :: events)) :
    events.getLast? = some .newer ∧
      ∃ entries, E.after events = ⟨l.buffer, [], .closed entries⟩ := by
  obtain ⟨hclosed, hfirst⟩ := h
  rw [after_older hopened] at hclosed
  refine E.after_of_firstReturn hparks hsubmit hclosed fun n hn _ => ?_
  have haway := hfirst (n + 1) (Nat.succ_lt_succ hn) n.succ_pos
  rwa [List.take_succ_cons, after_older hopened] at haway

end Opened

/-- **Browsing the history never loses the draft.**  Take a line that browses no history, and events
that begin with a step to an older entry and submit nothing.  They leave the entries alone.  Steps
are accepted as long as there is a line to go to, and the difference of those to older and to newer
entries says how far back the line is: on arrival at an entry it is the entry that many places from
the newest, as stored.  The first return out of the history is by a step to a newer line, and brings
back the text that was being typed, with the cursor at its end. -/
theorem draft_comes_back {events : List Event} (hfresh : l.browsing = none)
    (hhistory : l.history ≠ []) (hsubmit : .submit ∉ events) :
    let trip := .older :: events
    let line := l.after trip
    let ups := l.accepted .older trip
    let downs := l.accepted .newer trip
    line.history = l.history ∧
      downs ≤ ups ∧ (line.browsing = none ↔ ups = downs) ∧
      ((line.handle .older).2 = some .changed ↔ ups < downs + l.history.length) ∧
      ((line.handle .newer).2 = some .changed ↔ downs < ups) ∧
      (∀ k, l.Arrives trip → ups = downs + (k + 1) →
        l.history.reverse[k]? = some (String.ofList line.buffer) ∧
          line.cursor = Text.byteCount line.buffer) ∧
      (l.FirstReturn trip →
        trip.getLast? = some .newer ∧ line.buffer = l.buffer ∧
          line.cursor = Text.byteCount l.buffer) := by
  intro trip line ups downs
  obtain ⟨E, hparks, hentries, hone, hentry, hopened⟩ := handle_older_of_fresh hfresh hhistory
  have hline : line = (E.after events).toLine := after_older hopened events
  have hkept : (E.after events).past.entries = l.history :=
    (E.entries_after hsubmit).trans hentries
  have hdepth : (E.after events).past.depth + downs = ups := depth_add_accepted hopened hone hsubmit
  have hlength : (E.after events).past.entries.length = l.history.length := by rw [hkept]
  rw [hline]
  refine ⟨hkept, by omega, ?_, ?_, ?_, fun k harrives hk => ?_, fun hreturn => ?_⟩
  · exact (E.after events).past.place?_eq_none.trans (by omega)
  · rw [Editor.handle_toLine]
    obtain ⟨hlt, hchanged, -⟩ | ⟨heq, hrefused⟩ := (E.after events).older_cases
    · exact iff_of_true hchanged (by omega)
    · exact iff_of_false (by simp [Editor.seen, Editor.step, hrefused]) (by omega)
  · rw [Editor.handle_toLine]
    obtain ⟨hlt, hchanged, -⟩ | ⟨heq, hrefused⟩ := (E.after events).newer_cases
    · exact iff_of_true hchanged (by omega)
    · exact iff_of_false (by simp [Editor.seen, Editor.step, hrefused]) (by omega)
  · rw [← hkept]
    exact (atEntry_of_arrives hopened hentry harrives).toLine (by omega)
  · obtain ⟨hlast, entries, hback⟩ := firstReturn_of_parks hopened hparks hsubmit hreturn
    rw [hback]
    exact ⟨by simp [trip, List.getLast?_cons, hlast], List.append_nil _, rfl⟩

/-- The entries that are recalled are edited and cleared, the oldest one is asked for once more, and
what was being typed comes back. -/
theorem draft_comes_back_edited :
    let l : InputLine := ⟨"mikko bü".toList, 2, ["cr float 670", "mikko cash 100"], none, []⟩
    let events : List Event := [.older, .older, .char '0', .clear, .newer, .paste "€", .newer]
    let line := l.after (.older :: events)
    l.browsing = none ∧ l.history ≠ [] ∧ .submit ∉ events ∧ l.FirstReturn (.older :: events) ∧
      line.history = ["cr float 670", "mikko cash 100"] ∧ line.buffer = "mikko bü".toList ∧
      line.cursor = 9 := by
  intro l events line
  have hhistory : l.history ≠ [] := by decide
  have hsubmit : .submit ∉ events := by decide
  have hreturn : l.FirstReturn (.older :: events) := by decide
  obtain ⟨hkept, -, -, -, -, -, hback⟩ := draft_comes_back rfl hhistory hsubmit
  obtain ⟨-, hbuffer, hcursor⟩ := hback hreturn
  exact ⟨rfl, hhistory, hsubmit, hreturn, hkept, hbuffer, hcursor⟩

end InputLine
end ShareLedger
