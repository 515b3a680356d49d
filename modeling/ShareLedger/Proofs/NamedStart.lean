import ShareLedger.Program
import ShareLedger.Proofs.Accepted
import ShareLedger.Proofs.Isolation
/-!
# Proofs.NamedStart

What a start-up does with the name of a game that it is given.

1. The name is set behind `open ` and the line is carried out.  What the line asks for depends on
   the words of the name in front of its first `#`: one word names a game that is opened, and
   without a word or with several the line is a matter of the open game (`Game.plan_open`).
2. Several words can make a command of it, one whose party is called OPEN.  The open game carries it
   out and logs it, and that is the one way in which a start-up that names a game changes a log
   (`Program.named_start`).
-/

namespace ShareLedger

/-! ## Verbs of longer lines -/

/-- What is found in a table of verbs that are logged is logged. -/
theorem Keyword.isLogged_of_find {table : List Keyword} {word : String} {verb : Verb}
    (htable : ∀ k ∈ table, k.verb.isLogged = true) (h : find table word = some verb) :
    verb.isLogged = true := by
  obtain ⟨k, hk, rfl⟩ := List.mem_map.1 (mem_of_find h)
  exact htable k hk

namespace Action

/-- The verb of a line of three words is that of the second. -/
theorem verb_ofBinary (subject word argument : String) :
    (ofBinary subject word argument).verb = Keyword.find Keyword.binary word := by
  unfold ofBinary
  cases Keyword.find Keyword.binary word with
  | none => rfl
  | some verb =>
      cases Amount.read? argument with
      | some n => rfl
      | none => cases verb <;> rfl

/-- The verb of a longer line is that of the second word. -/
theorem verb_ofVariadic (subject word : String) (arguments : List String) :
    (ofVariadic subject word arguments).verb = Keyword.find Keyword.variadic word := by
  unfold ofVariadic
  cases Keyword.find Keyword.variadic word with
  | none => rfl
  | some verb =>
      have htrade : (ofTrade verb (Text.upper subject) arguments).verb = some verb := by
        rw [ofTrade_eq]
      cases verb with
      | give => cases arguments <;> rfl
      | _ => exact htrade

/-- Lines of three or more words are logged if they are commands. -/
theorem isLogged_of_ofWords {hasComment : Bool} {first second third : String} {rest : List String}
    {verb : Verb} (h : (ofWords hasComment (first :: second :: third :: rest)).verb = some verb) :
    verb.isLogged = true := by
  cases rest with
  | nil =>
      rw [ofWords, verb_ofBinary] at h
      exact Keyword.isLogged_of_find (by decide) h
  | cons fourth rest =>
      have hwords : ofWords hasComment (first :: second :: third :: fourth :: rest) =
          ofVariadic first second (third :: fourth :: rest) := rfl
      rw [hwords, verb_ofVariadic] at h
      exact Keyword.isLogged_of_find (by decide) h

end Action

/-! ## What a name stands for -/

namespace Program

/-- The name under which the game is kept that a text names, by one word in front of the first
`#`. -/
def storedName (name : String) : Option String :=
  match Text.words (Action.commandPart name) with
  | [word] => some (Text.lower (Text.upper word))
  | _ => none

end Program

/-- Trimmed and in small letters, the line that opens a game begins as it is written. -/
theorem Text.lower_trim_open (name : String) :
    ∃ rest, (lower (trim ("open " ++ name))).toList = 'o' :: rest := by
  have hblank : isBlank 'o' = false := by decide
  have hline : ("open " ++ name).toList = 'o' :: ("pen " ++ name).toList := by simp
  have htrim : (trim ("open " ++ name)).toList =
      'o' :: dropEndWhile isBlank ("pen " ++ name).toList := by
    unfold trim trimChars
    rw [String.toList_ofList, hline, List.dropWhile_cons_of_neg (by simp [hblank]),
      dropEndWhile_cons hblank]
  refine ⟨lowerAfter ['o'] (dropEndWhile isBlank ("pen " ++ name).toList), ?_⟩
  unfold lower
  rw [String.toList_ofList, htrim]
  rfl

namespace Game

variable {index : GameIndex} {currency : String}

/-- A line that begins with an `o` is none of the lines that are looked for before commands. -/
theorem plan_eq_command {session : Option Session} {line : String} {rest : List Char}
    (h : (Text.lower (Text.trim line)).toList = 'o' :: rest) :
    plan index session currency line = command index session currency (Action.read line) := by
  have hnot (word : String) (hword : word.toList.head? ≠ some 'o') :
      Text.lower (Text.trim line) ≠ word := by
    rintro rfl
    rw [h] at hword
    exact hword rfl
  have hquit : abbreviates (Text.lower (Text.trim line)) "quit" = false := by
    simp [abbreviates, Text.startsWith, h, Text.dropLead]
  have hexit : abbreviates (Text.lower (Text.trim line)) "exit" = false := by
    simp [abbreviates, Text.startsWith, h, Text.dropLead]
  have hundo := hnot "undo" (by decide)
  have hhelp := hnot "help" (by decide)
  have hmark := hnot "?" (by decide)
  simp [plan, hquit, hexit, hundo, hhelp, hmark, Action.read_trim]

/-- A line that is no command, or one that is logged, is a matter of the open game. -/
theorem command_eq_perform {a : Action} (s : Session)
    (h : ∀ verb, a.verb = some verb → verb.isLogged = true) :
    command index (some s) currency a = perform (some s) a := by
  unfold command
  cases hverb : a.verb with
  | none => simp [perform, Session.perform, Ledger.apply, hverb]
  | some verb =>
      have hlogged := h verb hverb
      cases verb with
      | holdings | values | companies | bank | listGames | openGame | deleteGame | startGame =>
          cases hlogged
      | _ => rfl

/-- With one word the line opens the game of that name.  With another number of words it is logged
if it is a command at all. -/
theorem read_open (name : String) :
    let a := Action.read ("open " ++ name)
    match Program.storedName name with
    | some stored => a.verb = some .openGame ∧ gameName a = stored
    | none => ∀ verb, a.verb = some verb → verb.isLogged = true := by
  have hopen : Text.IsWord "open" := by decide
  obtain ⟨hwords, hcomment⟩ := Action.read_word_space hopen name
  have hline : "open" ++ " " ++ name = "open " ++ name := rfl
  rw [hline] at hwords hcomment
  rw [Action.read_eq, hwords, hcomment, Program.storedName]
  generalize Action.commentPart name = note
  match Text.words (Action.commandPart name) with
  | [] =>
      have hfind : Keyword.find Keyword.queries "open" = none := by decide +kernel
      intro a verb hverb
      simp [a, Action.ofWords, Action.ofQuery, hfind] at hverb
  | [word] =>
      have hfind : Keyword.find Keyword.unary "open" = some .openGame := by decide +kernel
      simp [Action.ofWords, Action.ofUnary, hfind, gameName]
  | first :: second :: others =>
      intro a verb hverb
      exact Action.isLogged_of_ofWords hverb

/-- The line opens the game that the name stands for, or is a matter of the open game. -/
theorem plan_open (index : GameIndex) (s : Session) (currency name : String) :
    plan index (some s) currency ("open " ++ name) =
      match Program.storedName name with
      | some stored => openGame index (some s) currency stored
      | none => perform (some s) (Action.read ("open " ++ name)) := by
  obtain ⟨rest, hrest⟩ := Text.lower_trim_open name
  have hread := read_open name
  rw [plan_eq_command hrest]
  cases hstored : Program.storedName name with
  | none =>
      rw [hstored] at hread
      exact command_eq_perform s hread
  | some stored =>
      rw [hstored] at hread
      obtain ⟨hverb, hname⟩ := hread
      simp [command, hverb, hname]

end Game

/-! ## Opening and nothing else -/

namespace Program

/-- What naming a game should come to, `g` being what the start-up has come to before that: no log
changes, and the game of the name is open and in play, or an error stands behind the greeting and
everything is as it was.  A store that fails brings the program down. -/
structure OnlyOpens (g : Game) (greeting name : String) (index : GameIndex)
    (session : Option Session) (result : Except StoreError String) : Prop where
  logs : ∀ other, index.eventsOf other = g.store.index.eventsOf other
  told : ∀ text, result = .ok text →
    (∃ stored events, storedName name = some stored ∧
      g.store.index.eventsOf stored = some events ∧ index.current = some stored ∧
      session = some (.replay stored events g.currency)) ∨
    ∃ e : Refusal, text = greeting ++ (e.message ++ "\n") ∧ index = g.store.index ∧
      session = g.session

/-- The text with which a sitting begins, an answer being given to the name of a game. -/
def tell (greeting : String) (reply : Reply) : String :=
  (if reply.effect = .refresh then "" else greeting) ++ reply.feedback

/-- A start-up that is given a name does with it what an input line does. -/
theorem welcome_named {g g₀ : Game} {words : List UInt32} {greeting : String}
    (h : g.createOrLoad words = some (g₀, .ok greeting)) (name : String) :
    welcome g words (some name) =
      some ((g₀.execute ("open " ++ name)).1,
        (g₀.execute ("open " ++ name)).2.map (tell greeting)) := by
  unfold welcome
  rw [h]
  dsimp only
  rcases g₀.execute ("open " ++ name) with ⟨g', e | reply⟩ <;> rfl

/-- What a command of the open game comes to that is taken for the name of a game. -/
structure Takes (g : Game) (s s' : Session) (report : String) (index : GameIndex)
    (session : Option Session) (result : Except StoreError String) : Prop where
  failed : ∀ e, result = .error e → index = g.store.index
  told : ∀ text, result = .ok text →
    text = report ∧ session = some s' ∧
      ∀ other, index.eventsOf other =
        if other = s.name then some s'.events else g.store.index.eventsOf other

/-- Every end of a plan is in `P` when its answer is told behind the greeting. -/
def Ends (g : Game) (greeting : String)
    (P : GameIndex → Option Session → Except StoreError String → Prop) (p : Game.Steps) : Prop :=
  p.Leads (fun index session result => P index session (result.map (tell greeting))) g.store.index

variable {g : Game} {greeting name : String} {s s' : Session} {report : String}

theorem Ends.execute {P : GameIndex → Option Session → Except StoreError String → Prop}
    {line : String} (h : Ends g greeting P (Game.plan g.store.index g.session g.currency line)) :
    P (g.execute line).1.store.index (g.execute line).1.session
      ((g.execute line).2.map (tell greeting)) := by
  have hend := Game.execute_of_leads h
  exact hend

theorem ends_refusal (e : Refusal) :
    Ends g greeting (OnlyOpens g greeting name) (Game.answer g.session (.refusal e)) := by
  refine .done ⟨fun _ => rfl, fun text htext => .inr ⟨e, ?_, rfl, rfl⟩⟩
  exact (Except.ok.inj htext).symm

theorem ends_openGame {stored : String} (h : storedName name = some stored) :
    Ends g greeting (OnlyOpens g greeting name)
      (Game.openGame g.store.index g.session g.currency stored) := by
  unfold Game.openGame
  cases hevents : g.store.index.eventsOf stored with
  | none => exact ends_refusal _
  | some events =>
      refine .write (fun e => ⟨fun _ => rfl, nofun⟩) fun now => .done ⟨fun _ => rfl, ?_⟩
      exact fun text htext => .inl ⟨stored, events, h, hevents, rfl, rfl⟩

theorem ends_keep (hname : s'.name = s.name) :
    Ends g greeting (Takes g s s' report) (Game.keep s' report) := by
  refine .write (fun e => ⟨fun _ _ => rfl, nofun⟩) fun now => .done ⟨nofun, fun text htext => ?_⟩
  have htext : text = report := by
    have hreport : tell greeting ⟨report, .refresh⟩ = report := by simp [tell]
    rw [← hreport]
    exact (Except.ok.inj htext).symm
  refine ⟨htext, rfl, fun other => ?_⟩
  rw [← hname]
  by_cases hother : other = s'.name
  · rw [if_pos hother, hother]
    exact GameIndex.eventsOf_save _ now s'.name s'.events
  · rw [if_neg hother]
    exact GameIndex.eventsOf_save_of_ne _ now s'.events hother

/-- A command that is taken is more than opening a game. -/
theorem Takes.onlyOpens_iff {index : GameIndex} {session : Option Session}
    {result : Except StoreError String} {entry : String}
    (h : Takes g s s' report index session result)
    (hkept : g.store.index.eventsOf s.name = some s.events)
    (hentry : s'.events = s.events ++ [entry]) :
    OnlyOpens g greeting name index session result ↔ ∃ e, result = .error e := by
  cases result with
  | error e =>
      refine ⟨fun _ => ⟨e, rfl⟩, fun _ => ⟨fun other => ?_, nofun⟩⟩
      rw [h.failed e rfl]
  | ok text =>
      refine ⟨fun honly => ?_, nofun⟩
      have hlog := honly.logs s.name
      rw [(h.told text rfl).2.2, if_pos rfl, hkept, hentry] at hlog
      simp at hlog

/-- One word opens a game, and a command that is refused leaves everything as it was. -/
theorem ends_onlyOpens (greeting : String) (hs : g.session = some s)
    (h : (storedName name).isSome ∨ ∃ e, s.perform (Action.read ("open " ++ name)) = .error e) :
    Ends g greeting (OnlyOpens g greeting name)
      (Game.plan g.store.index g.session g.currency ("open " ++ name)) := by
  rw [hs, Game.plan_open, ← hs]
  cases hstored : storedName name with
  | some stored => exact ends_openGame hstored
  | none =>
      obtain ⟨e, he⟩ := h.resolve_left (by simp [hstored])
      have hrefused : Game.perform g.session (Action.read ("open " ++ name)) =
          Game.answer g.session (.refusal e) := by
        simp [Game.perform, hs, he]
      dsimp only
      rw [hrefused]
      exact ends_refusal e

/-- A command that is not refused is taken. -/
theorem ends_takes (greeting : String) (hs : g.session = some s) (hstored : storedName name = none)
    (hperform : s.perform (Action.read ("open " ++ name)) = .ok (s', report)) :
    Ends g greeting (Takes g s s' report)
      (Game.plan g.store.index g.session g.currency ("open " ++ name)) := by
  have hkept : Game.perform g.session (Action.read ("open " ++ name)) = Game.keep s' report := by
    simp [Game.perform, hs, hperform]
  rw [hs, Game.plan_open, ← hs, hstored]
  dsimp only
  rw [hkept]
  exact ends_keep (Session.name_perform hperform).1

/-- **Naming a game at the start** opens it and does nothing else, or adds an error to the greeting,
exactly when the name is one word in front of its first `#`, or the open game refuses the command
that the line is otherwise, or the store fails.  A command that is not refused is logged, and its
report takes the place of the greeting.  No log of a game is changed in any other way, the first
steps of the start-up included. -/
theorem named_start {store : Store} {currency : String} {words : List UInt32} {g : Game}
    {begun : Except StoreError String}
    (hbegun : (Game.mk store none currency).createOrLoad words = some (g, begun)) (name : String) :
    (∀ other events, store.index.eventsOf other = some events →
      g.store.index.eventsOf other = some events) ∧
    (∀ e, begun = .error e →
      welcome ⟨store, none, currency⟩ words (some name) = some (g, .error e)) ∧
    ∀ greeting, begun = .ok greeting →
      let a := Action.read ("open " ++ name)
      ∃ s g' result, g.session = some s ∧ g.store.index.eventsOf s.name = some s.events ∧
        welcome ⟨store, none, currency⟩ words (some name) = some (g', result) ∧
        (OnlyOpens g greeting name g'.store.index g'.session result ↔
          (storedName name).isSome ∨ (∃ e, s.perform a = .error e) ∨ ∃ e, result = .error e) ∧
        ∀ s' report text, storedName name = none → s.perform a = .ok (s', report) →
          result = .ok text →
            text = report ∧ g'.session = some s' ∧ ∃ entry, a.entry = some entry ∧
              ∀ other, g'.store.index.eventsOf other =
                if other = s.name then some (s.events ++ [entry])
                else g.store.index.eventsOf other := by
  refine ⟨fun other events hevents => ?_, fun e he => ?_, fun greeting hgreeting => ?_⟩
  · obtain hsame | ⟨hnone, -⟩ := (Game.Begins.resumed hbegun).eventsOf other
    · rw [hsame, hevents]
    · rw [hevents] at hnone
      cases hnone
  · simp only [welcome, hbegun, he]
  · subst hgreeting
    intro a
    obtain ⟨s, hs, -, hkept⟩ := Game.opened_createOrLoad hbegun
    refine ⟨s, _, _, hs, hkept, welcome_named hbegun name, ?_, ?_⟩
    · cases hstored : storedName name with
      | some stored =>
          have hsome : (storedName name).isSome := by rw [hstored]; rfl
          have honly := (ends_onlyOpens greeting hs (.inl hsome)).execute
          simpa using honly
      | none =>
          cases hperform : s.perform a with
          | error e =>
              have honly := (ends_onlyOpens greeting hs (.inr ⟨e, hperform⟩)).execute
              simpa using honly
          | ok performed =>
              obtain ⟨entry, -, hentry⟩ := Session.events_perform hperform
              have htaken := (ends_takes greeting hs hstored hperform).execute
              simpa using htaken.onlyOpens_iff hkept hentry
    · intro s' report text hstored hperform htext
      obtain ⟨entry, hentry, hevents⟩ := Session.events_perform hperform
      have htaken := (ends_takes greeting hs hstored hperform).execute
      obtain ⟨hreport, hsession, hlogs⟩ := htaken.told text htext
      rw [hevents] at hlogs
      exact ⟨hreport, hsession, entry, hentry, hlogs⟩

/-- A name in capitals with a comment behind it opens the game. -/
theorem named_start_opened :
    let store : Store :=
      ⟨⟨some "a", ((∅ : Book GameRecord).insert "a" ⟨["MIKKO cash 100"], 0, 0⟩).insert "b"
        ⟨["next OR"], 0, 0⟩⟩, 0, fun _ => .made 7⟩
    let g : Game := ⟨store, some (.replay "a" ["MIKKO cash 100"] "$"), "$"⟩
    let name := " B # Sunday"
    (Game.mk store none "$").createOrLoad [] = some (g, .ok "Continuing game 'a'.\n") ∧
    storedName name = some "b" ∧
    ∃ g', welcome ⟨store, none, "$"⟩ [] (some name) = some (g', .ok "Opened game 'b'.\n") ∧
      OnlyOpens g "Continuing game 'a'.\n" name g'.store.index g'.session
        (.ok "Opened game 'b'.\n") ∧
      g'.store.index.current = some "b" := by
  intro store g name
  have hbegun : (Game.mk store none "$").createOrLoad [] =
      some (g, .ok "Continuing game 'a'.\n") := rfl
  have hstored : storedName name = some "b" := by decide +kernel
  obtain ⟨-, -, hnamed⟩ := named_start hbegun name
  obtain ⟨s, g', result, -, -, hwelcome, honly, -⟩ := hnamed _ rfl
  have hopened : (welcome ⟨store, none, "$"⟩ [] (some name)).map
      (fun start => (start.1.store.index.current, start.2)) =
      some (some "b", .ok "Opened game 'b'.\n") := by decide +kernel
  rw [hwelcome, Option.map_some, Option.some.injEq, Prod.mk.injEq] at hopened
  obtain ⟨hcurrent, rfl⟩ := hopened
  have hone : (storedName name).isSome := by rw [hstored]; rfl
  exact ⟨hbegun, hstored, g', hwelcome, honly.2 (.inl hone), hcurrent⟩

/-- A name of two words is carried out as a command of the game in play, which logs it. -/
theorem exists_named_start_logged :
    let store : Store :=
      ⟨⟨some "a", (∅ : Book GameRecord).insert "a" ⟨["MIKKO cash 100"], 0, 0⟩⟩, 0,
        fun _ => .made 7⟩
    let g : Game := ⟨store, some (.replay "a" ["MIKKO cash 100"] "$"), "$"⟩
    (Game.mk store none "$").createOrLoad [] = some (g, .ok "Continuing game 'a'.\n") ∧
    ∃ g', welcome ⟨store, none, "$"⟩ [] (some "cash 5") = some (g', .ok "OPEN now has $5.\n") ∧
      g'.store.index.eventsOf "a" = some ["MIKKO cash 100", "OPEN cash 5"] ∧
      ¬ OnlyOpens g "Continuing game 'a'.\n" "cash 5" g'.store.index g'.session
        (.ok "OPEN now has $5.\n") := by
  intro store g
  have hbegun : (Game.mk store none "$").createOrLoad [] =
      some (g, .ok "Continuing game 'a'.\n") := rfl
  let g' : Game := (g.execute ("open " ++ "cash 5")).1
  have htold : (g.execute ("open " ++ "cash 5")).2.map (tell "Continuing game 'a'.\n") =
      .ok "OPEN now has $5.\n" := by decide +kernel
  have hbefore : g.store.index.eventsOf "a" = some ["MIKKO cash 100"] := by decide +kernel
  have hlog : g'.store.index.eventsOf "a" = some ["MIKKO cash 100", "OPEN cash 5"] := by
    decide +kernel
  have hwelcome := welcome_named hbegun "cash 5"
  rw [htold] at hwelcome
  refine ⟨hbegun, g', hwelcome, hlog, fun honly => ?_⟩
  have hsame := honly.logs "a"
  rw [hlog, hbefore] at hsame
  simp at hsame

end Program
end ShareLedger
