import ShareLedger.Proofs.EntryText
import ShareLedger.Proofs.Request
import ShareLedger.Proofs.Text.AsciiCase
import ShareLedger.Proofs.Text.Folding
/-!
# Proofs.Addressing

By which words a game is reached.

1. A line of a verb and a name is about the game of the folded name, in whatever case the letters A
   to Z of the line are typed (`Game.plan_named`).
2. What it means that lines reach a game by a word is said once, for all states in which there is
   the game (`Game.Reaches`): they open it and delete it, and they cannot start it again.
3. A game is kept under the folded form of the word that it was started with.  So it is reached by
   that word, and by the name under which it is kept if folding leaves that name as it is, which it
   does unless there is a capital sharp s in the word (`Game.started_game_reached`).
-/

namespace ShareLedger

open Text (IsWord sameUpToAsciiCase folded capitalSharpS)

/-- A game is listed with its log. -/
theorem GameIndex.mem_logs {index : GameIndex} {name : String} {events : List String} :
    (name, events) ∈ index.logs ↔ index.eventsOf name = some events := by
  rw [logs, eventsOf, List.mem_map, Option.map_eq_some_iff]
  constructor
  · rintro ⟨⟨other, record⟩, hentry, hsame⟩
    obtain ⟨rfl, rfl⟩ := Prod.mk.inj hsame
    exact ⟨record, Book.mem_entries.1 hentry, rfl⟩
  · rintro ⟨record, hrecord, rfl⟩
    exact ⟨(name, record), Book.mem_entries.2 hrecord, rfl⟩

namespace Game

variable {index : GameIndex} {session : Option Session} {currency line word name : String}

/-! ## Lines that name a game -/

/-- A text with a blank in it is no word without one, and no beginning of such a word. -/
theorem ne_of_blank {b : Char} (hb : Text.isBlank b = true) {typed : String}
    (h : b ∈ typed.toList) (w : String) (hw : w.toList.any Text.isBlank = false) :
    abbreviates typed w = false ∧ typed ≠ w := by
  have hmem : b ∉ w.toList := fun hmem => List.any_eq_false.1 hw b hmem hb
  constructor
  · rw [abbreviates, Bool.and_eq_false_iff, Text.startsWith]
    exact .inr (Bool.eq_false_iff.2 fun hlead => hmem (Text.mem_of_dropLead hlead _ h))
  · rintro rfl
    exact hmem h

/-- A line with a blank in it is none of the lines that are looked for before commands. -/
theorem plan_eq_command_of_blank {b : Char} (hb : Text.isBlank b = true)
    (h : b ∈ (Text.trim line).toList) :
    plan index session currency line = command index session currency (Action.read line) := by
  have hblank := Text.blank_mem_lower hb h
  obtain ⟨hquit, -⟩ := ne_of_blank hb hblank "quit" (by decide)
  obtain ⟨hexit, -⟩ := ne_of_blank hb hblank "exit" (by decide)
  obtain ⟨-, hundo⟩ := ne_of_blank hb hblank "undo" (by decide)
  obtain ⟨-, hhelp⟩ := ne_of_blank hb hblank "help" (by decide)
  obtain ⟨-, hmark⟩ := ne_of_blank hb hblank "?" (by decide)
  simp [plan, hquit, hexit, hundo, hhelp, hmark, Action.read_trim]

/-- A line of two words is read as a verb and its argument. -/
theorem read_two_words {first second : String} (hfirst : IsWord first) (hsecond : IsWord second) :
    Action.read (first ++ " " ++ second) =
        { Action.ofUnary first second with comment := none } ∧
      ' ' ∈ (Text.trim (first ++ " " ++ second)).toList := by
  have hwords : ∀ w ∈ [first, second], IsWord w := by simp [hfirst, hsecond]
  have hjoin : first ++ " " ++ second = Text.joinWith " " [first, second] := rfl
  obtain ⟨hcommand, hcomment⟩ := Action.read_unmarked (Text.unmarked_joinWith hwords)
  obtain ⟨-, htrimmed⟩ := Text.trimmed_joinWith hwords (List.cons_ne_nil _ _)
  constructor
  · rw [Action.read_eq, hjoin, hcommand, hcomment, Text.words_joinWith hwords]
    rfl
  · rw [hjoin, Text.trim, Text.trimChars_of_trimmed htrimmed, String.ofList_toList,
      Text.toList_joinWith_cons]
    simp

/-- **A line of a verb and a name is a command about the name**, in whatever case its letters A to Z
are typed. -/
theorem plan_named {first : String} {verb : Verb} (hfirst : IsWord first) (hword : IsWord word)
    (hfind : Keyword.find Keyword.unary first = some verb) (hverb : verb ≠ .bankSize)
    (hline : sameUpToAsciiCase line (first ++ " " ++ word) = true) :
    plan index session currency line =
      command index session currency { verb := some verb, object := some (Text.upper word) } := by
  obtain ⟨v, w, rfl, hv, hw⟩ := Text.exists_words_of_same hline
  obtain ⟨hread, hspace⟩ :=
    read_two_words (Text.isWord_of_same hv hfirst) (Text.isWord_of_same hw hword)
  rw [plan_eq_command_of_blank (by decide) hspace, hread, Action.ofUnary_eq_of_same hv hw,
    Action.ofUnary, hfind]
  cases verb with
  | bankSize => exact absurd rfl hverb
  | _ => rfl

theorem plan_open_named (hword : IsWord word)
    (hline : sameUpToAsciiCase line ("open " ++ word) = true) :
    plan index session currency line = openGame index session currency (folded word) := by
  have hfind : Keyword.find Keyword.unary "open" = some .openGame := by decide +kernel
  exact plan_named (by decide) hword hfind (by decide) hline

theorem plan_delete_named (hword : IsWord word)
    (hline : sameUpToAsciiCase line ("delete " ++ word) = true) :
    plan index session currency line = deleteGame index session (folded word) := by
  have hfind : Keyword.find Keyword.unary "delete" = some .deleteGame := by decide +kernel
  exact plan_named (by decide) hword hfind (by decide) hline

theorem plan_start_named (hword : IsWord word)
    (hline : sameUpToAsciiCase line ("start " ++ word) = true) :
    plan index session currency line = startGame index session currency (folded word) := by
  have hfind : Keyword.find Keyword.unary "start" = some .startGame := by decide +kernel
  exact plan_named (by decide) hword hfind (by decide) hline

/-! ## Reaching a game -/

/-- The game of a name is open with its log, and in play unless the store has failed. -/
structure Opened (g : Game) (name : String) (events : List String) (g' : Game)
    (result : Except StoreError Reply) : Prop where
  session : g'.session = some (.replay name events g.currency)
  answered : ∀ reply, result = .ok reply →
    reply.effect = .refresh ∧ g'.store.index = g.store.index.point (some name)
  failed : ∀ e, result = .error e → g'.store.index = g.store.index

/-- The game of a name is gone and not open, unless the store has failed, and no other game is
touched. -/
structure Deleted (g : Game) (name : String) (g' : Game) (result : Except StoreError Reply) :
    Prop where
  others : ∀ other, other ≠ name →
    g'.store.index.eventsOf other = g.store.index.eventsOf other
  answered : ∀ reply, result = .ok reply →
    reply.effect = .refresh ∧ g'.store.index.eventsOf name = none ∧
      g'.session = g.session.filter fun s => s.name ≠ name

/-- The lines that have a word for a game reach the game of a name: wherever there is the game, they
open it and no other one, delete it and no other one, and do not start it again.  Wherever there is
not, they find no game. -/
structure Reaches (word name : String) : Prop where
  opens {g : Game} {line : String} {events : List String}
    (hline : sameUpToAsciiCase line ("open " ++ word) = true)
    (hevents : g.store.index.eventsOf name = some events) :
    Opened g name events (g.execute line).1 (g.execute line).2
  deletes {g : Game} {line : String} (hline : sameUpToAsciiCase line ("delete " ++ word) = true)
    (hhas : g.store.index.has name = true) :
    Deleted g name (g.execute line).1 (g.execute line).2
  starts {g : Game} {line : String} (hline : sameUpToAsciiCase line ("start " ++ word) = true)
    (hhas : g.store.index.has name = true) :
    g.execute line = (g, .ok (.refusal (.duplicateGame name)))
  misses {g : Game} {line : String}
    (hline : sameUpToAsciiCase line ("open " ++ word) = true ∨
      sameUpToAsciiCase line ("delete " ++ word) = true)
    (hnot : g.store.index.has name = false) :
    g.execute line = (g, .ok (.refusal (.gameNotFound name)))

/-- A line comes to one of the ends of what it plans. -/
theorem outcome_of_plan {g : Game} {request : Request} {p : Steps}
    (hplan : plan g.store.index g.session g.currency line = p)
    (hleads : p.Leads (Request.Outcome g.store.index g.session g.currency request)
      g.store.index) :
    Request.Outcome g.store.index g.session g.currency request (g.execute line).1.store.index
      (g.execute line).1.session (g.execute line).2 :=
  execute_of_leads (hplan ▸ hleads)

/-- Opening a game that there is. -/
theorem opened_of_plan {g : Game} {events : List String}
    (hplan : plan g.store.index g.session g.currency line =
      openGame g.store.index g.session g.currency name)
    (hevents : g.store.index.eventsOf name = some events) :
    Opened g name events (g.execute line).1 (g.execute line).2 := by
  have houtcome := outcome_of_plan hplan (leads_openGame name)
  generalize g.execute line = after at houtcome ⊢
  obtain ⟨⟨⟨index', tried, fate⟩, session', currency'⟩, result⟩ := after
  cases houtcome with
  | quiet hrefused _ =>
      rw [Request.Refused, GameIndex.has_of_eventsOf hevents] at hrefused
      cases hrefused
  | opened hevents' hrefresh =>
      obtain rfl := Option.some.inj (hevents.symm.trans hevents')
      refine ⟨rfl, fun reply hanswer => ?_, fun e herror => ?_⟩
      · cases hanswer
        exact ⟨hrefresh, rfl⟩
      · cases herror
  | unpointed hevents' =>
      obtain rfl := Option.some.inj (hevents.symm.trans hevents')
      refine ⟨rfl, fun reply hanswer => ?_, fun _ _ => rfl⟩
      cases hanswer

/-- Deleting a game that there is. -/
theorem deleted_of_plan {g : Game}
    (hplan : plan g.store.index g.session g.currency line =
      deleteGame g.store.index g.session name)
    (hhas : g.store.index.has name = true) :
    Deleted g name (g.execute line).1 (g.execute line).2 := by
  have houtcome := outcome_of_plan hplan (leads_deleteGame name)
  generalize g.execute line = after at houtcome ⊢
  obtain ⟨⟨⟨index', tried, fate⟩, session', currency'⟩, result⟩ := after
  cases houtcome with
  | quiet hrefused _ =>
      rw [Request.Refused, hhas] at hrefused
      cases hrefused
  | deleted _ hother hrefresh =>
      refine ⟨fun other hne => g.store.index.eventsOf_delete_of_ne hne, fun reply hanswer => ?_⟩
      cases hanswer
      refine ⟨hrefresh, g.store.index.eventsOf_delete name, ?_⟩
      cases hsession : g.session with
      | none => rfl
      | some s => simp [Option.filter, hother s hsession]
  | undeleted _ =>
      refine ⟨fun other _ => rfl, fun reply hanswer => ?_⟩
      cases hanswer
  | @closed s _ hs _ hrefresh =>
      refine ⟨fun other hne => g.store.index.eventsOf_delete_of_ne hne, fun reply hanswer => ?_⟩
      cases hanswer
      refine ⟨hrefresh, g.store.index.eventsOf_delete _, ?_⟩
      simp [hs, Option.filter]
  | halfClosed hs _ =>
      refine ⟨fun other hne => g.store.index.eventsOf_delete_of_ne hne, fun reply hanswer => ?_⟩
      cases hanswer

/-- Starting a game that there is. -/
theorem refused_of_plan {g : Game}
    (hplan : plan g.store.index g.session g.currency line =
      startGame g.store.index g.session g.currency name)
    (hhas : g.store.index.has name = true) :
    g.execute line = (g, .ok (.refusal (.duplicateGame name))) := by
  rw [startGame, if_pos hhas] at hplan
  exact execute_eq (by rw [hplan]; rfl)

/-- **A word reaches the game of its folded form.** -/
theorem reaches_folded (hword : IsWord word) : Reaches word (folded word) where
  opens hline hevents := opened_of_plan (plan_open_named hword hline) hevents
  deletes hline hhas := deleted_of_plan (plan_delete_named hword hline) hhas
  starts hline hhas := refused_of_plan (plan_start_named hword hline) hhas
  misses {g line} hline hnot := by
    refine execute_eq ?_
    obtain hopen | hdelete := hline
    · rw [plan_open_named hword hopen, openGame, GameIndex.eventsOf_eq_none_of_has hnot]
      rfl
    · rw [plan_delete_named hword hdelete, deleteGame, hnot]
      rfl

/-- A word reaches no other game. -/
theorem Reaches.folded_eq (h : Reaches word name) (hword : IsWord word) : folded word = name := by
  by_contra hne
  -- Of the two games only the one of the name is kept.
  let g : Game := ⟨⟨GameIndex.empty.save 0 name [], 0, fun _ => .made 0⟩, none, "$"⟩
  have hsame := Text.same_refl ("open " ++ word)
  have hmissed := (reaches_folded hword).misses (g := g) (.inl hsame)
    (by rw [GameIndex.has_save, decide_eq_false hne]; rfl)
  have hopened := h.opens (g := g) hsame (GameIndex.eventsOf_save _ _ _ _)
  rw [hmissed] at hopened
  have hrefresh := (hopened.answered _ rfl).1
  cases hrefresh

/-! ## The game that a line starts -/

/-- A game of a new name is kept, listed, in play and open, and no other game is touched. -/
structure Started (g : Game) (name : String) (g' : Game) : Prop where
  new : g.store.index.has name = false
  listed : (name, []) ∈ g'.store.index.logs
  current : g'.store.index.current = some name
  session : g'.session = some (.new name g.currency)
  others : ∀ other, other ≠ name →
    g'.store.index.eventsOf other = g.store.index.eventsOf other

/-- A line that starts a game starts the game of its plan. -/
theorem started_of_plan {g : Game} {reply : Reply}
    (hplan : plan g.store.index g.session g.currency line =
      startGame g.store.index g.session g.currency name)
    (hstarted : (g.execute line).2 = .ok reply) (hrefresh : reply.effect = .refresh) :
    Started g name (g.execute line).1 := by
  have houtcome := outcome_of_plan hplan (leads_startGame name)
  generalize g.execute line = after at houtcome hstarted ⊢
  obtain ⟨⟨⟨index', tried, fate⟩, session', currency'⟩, result⟩ := after
  obtain rfl : result = .ok reply := hstarted
  cases houtcome with
  | quiet _ hquiet => exact absurd hrefresh hquiet
  | started now hnew _ =>
      have hlog := g.store.index.eventsOf_save now name []
      exact ⟨hnew, GameIndex.mem_logs.2 hlog, rfl, rfl,
        fun other hne => g.store.index.eventsOf_save_of_ne now [] hne⟩

/-- **The words that reach a game that was started.**  The game is kept under the folded form of the
word that it was started with.  Every word with the same capitals reaches it, that word itself
included.  The name under which it is kept reaches it exactly when there is no capital sharp s in
the word. -/
theorem started_game_reached {g : Game} {reply : Reply} (hword : IsWord word)
    (hline : sameUpToAsciiCase line ("start " ++ word) = true)
    (hstarted : (g.execute line).2 = .ok reply) (hrefresh : reply.effect = .refresh) :
    Started g (folded word) (g.execute line).1 ∧
      (∀ other, IsWord other → Text.upper other = Text.upper word →
        Reaches other (folded word)) ∧
      (Reaches (folded word) (folded word) ↔ capitalSharpS ∉ word.toList) := by
  refine ⟨started_of_plan (plan_start_named hword hline) hstarted hrefresh,
    fun other hother hcapitals => ?_, ?_⟩
  · have hsame : folded other = folded word := congrArg Text.lower hcapitals
    exact hsame ▸ reaches_folded hother
  · rw [← Text.folded_folded_iff]
    constructor
    · exact fun h => h.folded_eq hword.folded
    · intro hfixed
      have hreaches := reaches_folded hword.folded
      rwa [hfixed] at hreaches

/-- A word with a small sharp s and a last sigma starts a game that is listed under another name and
reached by both. -/
theorem started_game_reached_sigma :
    let g : Game := ⟨⟨.empty, 0, fun _ => .made 7⟩, none, "$"⟩
    let name := folded "Straßeς"
    name = "strasseς" ∧ Started g name (g.execute "start Straßeς").1 ∧
      Reaches "Straßeς" name ∧ Reaches name name := by
  intro g name
  have hword : IsWord "Straßeς" := by decide +kernel
  have hsame := Text.same_refl ("start " ++ "Straßeς")
  have hrefresh : (g.execute ("start " ++ "Straßeς")).2 =
      .ok ⟨"Game 'strasseς' generated and active.\n", .refresh⟩ := by decide +kernel
  obtain ⟨hstarted, hreached, hname⟩ := started_game_reached hword hsame hrefresh rfl
  exact ⟨by decide +kernel, hstarted, hreached _ hword rfl, hname.2 (by decide)⟩

/-- A game that is started by a capital sharp s is listed under the small one, and by that name it
is neither opened nor deleted, nor is the name refused for a new game. -/
theorem exists_started_unreachable :
    let g : Game := ⟨⟨.empty, 0, fun _ => .made 7⟩, none, "$"⟩
    let g' := (g.execute "start ẞ").1
    g'.store.index.logs = [("ß", [])] ∧
      (g'.execute "open ß").2 = .ok (.refusal (.gameNotFound "ss")) ∧
      (g'.execute "delete ß").2 = .ok (.refusal (.gameNotFound "ss")) ∧
      (g'.execute "start ß").1.store.index.logs = [("ss", []), ("ß", [])] ∧
      ¬ Reaches "ß" "ß" := by
  intro g g'
  refine ⟨by decide +kernel, by decide +kernel, by decide +kernel, by decide +kernel, fun h => ?_⟩
  have hname := h.folded_eq (by decide +kernel)
  exact absurd hname (by decide +kernel)

end Game
end ShareLedger
