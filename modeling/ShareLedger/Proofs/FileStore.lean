import ShareLedger.Proofs.Index
import ShareLedger.Proofs.Json.Values
import ShareLedger.Store.File
/-!
# Proofs.FileStore

A store in a file answers as an index in memory does.

1. Every index is read back from the text of its file (`GameIndex.read?_render`): the games, their
   logs and moments, and the name of the game in play.
2. So the file of an open store always holds the index of the store, or is the file that it was
   opened with (`FileStore.Saved`), and opening it again changes nothing.  Every step keeps this, and
   so do any number of steps (`FileStore.Saved.callAll`).
3. What is known of a game after steps is what it was kept with first and last since it was deleted
   (`GameRecord.afterSaves`, `GameIndex.get?_callAll`).
-/

namespace ShareLedger

/-! ## Books in a file -/

namespace Book

variable {α : Type}

/-- Filing increasing entries into a book puts them over what the book has. -/
theorem get?_foldl_insert {entries : List (String × α)} (hinc : entries.Pairwise (·.1 < ·.1))
    (book : Book α) (name : String) :
    (entries.foldl (fun book e => book.insert e.1 e.2) book).get? name =
      (lookup name entries).or (book.get? name) := by
  induction entries generalizing book with
  | nil => rfl
  | cons head rest ih =>
      obtain ⟨hhead, hrest⟩ := List.pairwise_cons.1 hinc
      rw [List.foldl_cons, ih hrest, get?_insert, lookup]
      by_cases hname : name = head.1
      · rw [hname, lookup_eq_none_of_lt hhead, if_pos rfl, if_pos rfl]
        rfl
      · rw [if_neg hname, if_neg hname]

/-- A book is the book of its entries. -/
theorem ofList_entries (book : Book α) : ofList book.entries = book := by
  refine ext_get? fun name => ?_
  rw [ofList, get?_foldl_insert book.increasing, get?_empty, Option.or_none, get?]

end Book

/-! ## Records and indices in a file -/

/-- Reading a list back item by item. -/
theorem mapM_map_of_reads {α β : Type} {f : β → Option α} {g : α → β} (h : ∀ a, f (g a) = some a)
    (as : List α) : (as.map g).mapM f = some as := by
  induction as with
  | nil => rfl
  | cons a as ih => rw [List.map_cons, List.mapM_cons, h, ih]; rfl

namespace GameRecord

theorem plain_toJson (r : GameRecord) : r.toJson.Plain := by
  refine .object fun m hm => ?_
  simp only [List.mem_cons, List.not_mem_nil, or_false] at hm
  obtain rfl | rfl | rfl := hm
  · refine .array fun j hj => ?_
    obtain ⟨s, -, rfl⟩ := List.mem_map.1 hj
    exact .text s
  · exact .integer _
  · exact .integer _

theorem moment?_toInt (a : Amount) : moment? (.integer a.toInt) = some a :=
  Amount.ofInt?_eq_some_iff.2 rfl

/-- A game is read back from its value. -/
theorem ofJson?_toJson (r : GameRecord) : ofJson? r.toJson = some r := by
  have hfields : r.toJson.fields fieldNames = some [some (.array (r.events.map .text)),
      some (.integer r.createdAt.toInt), some (.integer r.updatedAt.toInt)] := rfl
  have htext (s : String) : Json.asText? (.text s) = some s := rfl
  have hevents : (Json.array (r.events.map .text)).asTexts? = some r.events :=
    mapM_map_of_reads htext r.events
  rw [ofJson?, hfields]
  simp only [hevents, moment?_toInt, Option.bind_eq_bind, Option.bind_some]

end GameRecord

namespace GameIndex

theorem plain_toJson (i : GameIndex) : i.toJson.Plain := by
  refine .object fun m hm => ?_
  simp only [List.mem_cons, List.not_mem_nil, or_false] at hm
  obtain rfl | rfl := hm
  · cases i.current with
    | none => exact .null
    | some name => exact .text name
  · refine .object fun m hm => ?_
    obtain ⟨e, -, rfl⟩ := List.mem_map.1 hm
    exact e.2.plain_toJson

/-- An index is read back from its value. -/
theorem ofJson?_toJson (i : GameIndex) : ofJson? i.toJson = some i := by
  obtain ⟨current, games⟩ := i
  have hgame (e : String × GameRecord) :
      (GameRecord.ofJson? e.2.toJson).map (fun r => (e.1, r)) = some e := by
    rw [e.2.ofJson?_toJson, Option.map_some]
  have hgames : games? (some (.object (games.entries.map fun e => (e.1, e.2.toJson)))) =
      some games := by
    rw [games?, mapM_map_of_reads hgame, Option.map_some, games.ofList_entries]
  have hfields : (toJson ⟨current, games⟩).fields fieldNames =
      some [some (current.elim .null .text),
        some (.object (games.entries.map fun e => (e.1, e.2.toJson)))] := by
    cases current <;> rfl
  have hcurrent : current? (some (current.elim .null .text)) = some current := by
    cases current <;> rfl
  rw [ofJson?, hfields]
  simp only [hcurrent, hgames, Option.bind_eq_bind, Option.bind_some]

/-- **Every index is read back from the text of its file.** -/
theorem read?_render (i : GameIndex) : read? i.render = some i := by
  rw [read?, render, Json.read?_render i.plain_toJson, Option.bind_some, ofJson?_toJson]

end GameIndex

/-! ## Steps in memory -/

/-- What a store was asked and what it answered. -/
abbrev StoreTalk := List (StoreCall × StoreAnswer)

/-- Steps at moments of the clock. -/
abbrev StoreSteps := List (Amount × StoreCall)

namespace StoreSteps

/-- The steps that do not open the store again. -/
def staying (steps : StoreSteps) : StoreSteps := steps.filter (·.2 ≠ .reopen)

/-- The logs that were kept of a game, each with its moment. -/
def savesOf (name : String) (steps : StoreSteps) : List (Amount × List String) :=
  steps.filterMap fun
    | (now, .change (.save other events)) => if other = name then some (now, events) else none
    | _ => none

/-- Whether a game is never deleted. -/
def Spares (name : String) (steps : StoreSteps) : Prop :=
  ∀ step ∈ steps, step.2 ≠ .change (.delete name)

instance (name : String) (steps : StoreSteps) : Decidable (steps.Spares name) :=
  inferInstanceAs (Decidable (∀ step ∈ steps, step.2 ≠ .change (.delete name)))

end StoreSteps

/-- The record of a game after its log was kept at several moments: made when it was kept first, or
before, and changed when it was kept last. -/
def GameRecord.afterSaves (record : Option GameRecord) :
    List (Amount × List String) → Option GameRecord
  | [] => record
  | first :: rest =>
    let last := rest.getLastD first
    some ⟨last.2, (record.map (·.createdAt)).getD first.1, last.1⟩

theorem GameRecord.afterSaves_cons (record : Option GameRecord) (now : Amount)
    (events : List String) (saves : List (Amount × List String)) :
    afterSaves record ((now, events) :: saves) =
      afterSaves (some ⟨events, (record.map (·.createdAt)).getD now, now⟩) saves := by
  cases saves with
  | nil => rfl
  | cons save saves => rw [afterSaves, afterSaves, List.getLastD_cons]; rfl

namespace GameIndex

/-- The index in memory answers steps. -/
def callAll (i : GameIndex) : StoreSteps → GameIndex × StoreTalk
  | [] => (i, [])
  | (now, c) :: steps =>
    let (i, answer) := i.call now c
    let (i, talk) := i.callAll steps
    (i, (c, answer) :: talk)

theorem callAll_cons (i : GameIndex) (now : Amount) (c : StoreCall) (steps : StoreSteps) :
    i.callAll ((now, c) :: steps) =
      (((i.call now c).1.callAll steps).1,
        (c, (i.call now c).2) :: ((i.call now c).1.callAll steps).2) := rfl

theorem index_callAll_append (i : GameIndex) (before later : StoreSteps) :
    (i.callAll (before ++ later)).1 = ((i.callAll before).1.callAll later).1 := by
  induction before generalizing i with
  | nil => rfl
  | cons step before ih =>
      obtain ⟨now, c⟩ := step
      rw [List.cons_append, callAll_cons, callAll_cons, ih]

/-- In memory, steps that open the store again may as well be left out. -/
theorem callAll_staying (i : GameIndex) (steps : StoreSteps) :
    i.callAll steps.staying = ((i.callAll steps).1, (i.callAll steps).2.filter (·.1 ≠ .reopen)) := by
  induction steps generalizing i with
  | nil => rfl
  | cons step steps ih =>
      obtain ⟨now, c⟩ := step
      by_cases hc : c = .reopen
      · subst hc
        exact ih i
      · have hkept : StoreSteps.staying ((now, c) :: steps) = (now, c) :: StoreSteps.staying steps :=
          List.filter_cons_of_pos (decide_eq_true hc)
        rw [hkept, callAll_cons, callAll_cons, ih]
        simp [hc]

/-- A step that does not delete a game changes its record only by keeping its log. -/
theorem get?_call {name : String} {c : StoreCall} (h : c ≠ .change (.delete name)) (i : GameIndex)
    (now : Amount) (steps : StoreSteps) :
    GameRecord.afterSaves ((i.call now c).1.games.get? name) (steps.savesOf name) =
      GameRecord.afterSaves (i.games.get? name) (StoreSteps.savesOf name ((now, c) :: steps)) := by
  cases c with
  | change c =>
      cases c with
      | save other events =>
          have hcall : (i.call now (.change (.save other events))).1 = i.save now other events := rfl
          rw [hcall]
          by_cases hname : other = name
          · subst hname
            have hsave : StoreSteps.savesOf other ((now, .change (.save other events)) :: steps) =
                (now, events) :: steps.savesOf other :=
              List.filterMap_cons_some (if_pos rfl)
            rw [hsave, GameRecord.afterSaves_cons, get?_save, if_pos rfl]
          · have hother : StoreSteps.savesOf name ((now, .change (.save other events)) :: steps) =
                steps.savesOf name :=
              List.filterMap_cons_none (if_neg hname)
            rw [hother, get?_save_of_ne i now events (Ne.symm hname)]
      | delete other =>
          have hname : name ≠ other := by
            rintro rfl
            exact h rfl
          have hcall : (i.call now (.change (.delete other))).1 = i.delete other := rfl
          rw [hcall, get?_delete_of_ne i hname]
          rfl
      | point other => rfl
  | has _ | events _ | record _ | logs | current | reopen => rfl

/-- The record of a game after steps that do not delete it. -/
theorem get?_callAll {name : String} {steps : StoreSteps} (h : steps.Spares name) (i : GameIndex) :
    (i.callAll steps).1.games.get? name =
      GameRecord.afterSaves (i.games.get? name) (steps.savesOf name) := by
  induction steps generalizing i with
  | nil => rfl
  | cons step steps ih =>
      obtain ⟨now, c⟩ := step
      obtain ⟨hc, hsteps⟩ := List.forall_mem_cons.1 h
      rw [callAll_cons, ih hsteps, get?_call hc]

end GameIndex

/-! ## Steps in a file -/

namespace FileStore

/-- The store in a file answers steps, as long as it can be opened. -/
def callAll (s : FileStore) : StoreSteps → Except StoreError (FileStore × StoreTalk)
  | [] => .ok (s, [])
  | (now, c) :: steps => do
    let (s, answer) ← s.call now c
    let (s, talk) ← s.callAll steps
    return (s, (c, answer) :: talk)

/-- The file of the store opens as the store. -/
def Saved (s : FileStore) : Prop := ofText? s.text = .ok s

theorem saved_of_ofText? {text : Option String} {s : FileStore} (h : ofText? text = .ok s) :
    s.Saved := by
  cases text with
  | none =>
      cases h
      rfl
  | some text =>
      have htext : s.text = some text := by
        rw [ofText?] at h
        split at h <;> cases h
        rfl
      rw [Saved, htext]
      exact h

theorem saved_change (s : FileStore) (now : Amount) (c : Change) : (s.change now c).Saved := by
  simp only [Saved, change, ofText?, GameIndex.read?_render]

/-- The store answers a step as the index in memory does, and its file is saved after it. -/
theorem Saved.call {s : FileStore} (h : s.Saved) (now : Amount) (c : StoreCall) :
    ∃ s', s.call now c = .ok (s', (s.index.call now c).2) ∧ s'.Saved ∧
      s'.index = (s.index.call now c).1 := by
  cases c with
  | change c => exact ⟨s.change now c, rfl, s.saved_change now c, rfl⟩
  | reopen =>
      refine ⟨s, ?_, h, rfl⟩
      rw [FileStore.call, h]
      rfl
  | has _ | events _ | record _ | logs | current => exact ⟨s, rfl, h, rfl⟩

/-- The store answers any steps as the index in memory does. -/
theorem Saved.callAll {s : FileStore} (h : s.Saved) (steps : StoreSteps) :
    ∃ s', s.callAll steps = .ok (s', (s.index.callAll steps).2) ∧ s'.Saved ∧
      s'.index = (s.index.callAll steps).1 := by
  induction steps generalizing s with
  | nil => exact ⟨s, rfl, h, rfl⟩
  | cons step steps ih =>
      obtain ⟨now, c⟩ := step
      obtain ⟨s₁, hcall, hsaved, hindex⟩ := h.call now c
      obtain ⟨s₂, hrest, hsaved', hindex'⟩ := ih hsaved
      refine ⟨s₂, ?_, hsaved', ?_⟩
      · rw [FileStore.callAll, hcall, GameIndex.callAll_cons, ← hindex]
        simp only [bind, Except.bind, hrest]
        rfl
      · rw [hindex', hindex, GameIndex.callAll_cons]

/-- **A store in a file behaves as an index in memory.**  From any file that opens, or from none,
whatever steps are taken: the store never fails; leaving out the steps that open it again, its
answers and its index are those of the index in memory; and its file opens as the store.  A game
that is never deleted has the record that it began with, or was first made with, changed by the
logs that were kept of it alone; a game that was deleted has the record that the logs made which
were kept since. -/
theorem behaves_as_memory {text : Option String} {s : FileStore} (hopen : ofText? text = .ok s)
    (steps : StoreSteps) :
    (∀ i : GameIndex, GameIndex.read? i.render = some i) ∧
    ∃ s' talk, s.callAll steps = .ok (s', talk) ∧
      s.index.callAll steps.staying = (s'.index, talk.filter (·.1 ≠ .reopen)) ∧
      ofText? s'.text = .ok s' ∧
      (∀ name, steps.Spares name → s'.index.games.get? name =
        GameRecord.afterSaves (s.index.games.get? name) (steps.savesOf name)) ∧
      ∀ name before now later, steps = before ++ (now, .change (.delete name)) :: later →
        StoreSteps.Spares name later →
        s'.index.games.get? name = GameRecord.afterSaves none (StoreSteps.savesOf name later) := by
  obtain ⟨s', hcall, hsaved, hindex⟩ := (saved_of_ofText? hopen).callAll steps
  refine ⟨GameIndex.read?_render, s', _, hcall, ?_, hsaved, fun name hspares => ?_, ?_⟩
  · rw [hindex]
    exact s.index.callAll_staying steps
  · rw [hindex]
    exact GameIndex.get?_callAll hspares s.index
  · rintro name before now later rfl hspares
    rw [hindex, GameIndex.index_callAll_append, GameIndex.callAll_cons,
      GameIndex.get?_callAll hspares]
    have hgone : ((s.index.callAll before).1.delete name).games.get? name = none := by
      rw [GameIndex.get?_delete, if_pos rfl]
    exact congrArg (GameRecord.afterSaves · _) hgone

/-- A file that was written by hand; one of its games is deleted and made anew, with an entry that
has to be escaped. -/
theorem behaves_as_memory_handwritten :
    let text := "\x7b\"games\":\x7b\"a\":[[],1,-2],\"\":[[],3,4]\x7d\x7d"
    let odd := "\"\x07🚂\\"
    let steps : StoreSteps := [(5, .change (.point (some "a"))), (6, .change (.delete "a")),
      (7, .change (.save "a" ["next SR"])), (8, .reopen), (9, .change (.save "a" [odd])),
      (10, .reopen), (11, .record "a")]
    ∃ s s' talk, ofText? (some text) = .ok s ∧ s.callAll steps = .ok (s', talk) ∧
      s.index.callAll steps.staying = (s'.index, talk.filter (·.1 ≠ .reopen)) ∧
      ofText? s'.text = .ok s' ∧ s'.index.games.get? "a" = some ⟨[odd], 7, 9⟩ ∧
      s'.index.games.get? "" = some ⟨[], 3, 4⟩ := by
  intro text odd steps
  let i : GameIndex :=
    ⟨none, ((∅ : Book GameRecord).insert "a" ⟨[], 1, -2⟩).insert "" ⟨[], 3, 4⟩⟩
  have hread : GameIndex.read? text = some i := by decide +kernel
  have hopen : ofText? (some text) = .ok ⟨i, some text⟩ := by rw [ofText?, hread]
  obtain ⟨-, s', talk, hcall, htalk, hsaved, hspared, hdeleted⟩ := behaves_as_memory hopen steps
  have ha := hdeleted "a" [(5, .change (.point (some "a")))] 6 (steps.drop 2) rfl (by decide)
  have hempty := hspared "" (by decide)
  exact ⟨_, s', talk, hopen, hcall, htalk, hsaved, ha, hempty⟩

end FileStore
end ShareLedger
