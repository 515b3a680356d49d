import Mathlib.Data.List.GetD
import Mathlib.Data.Stream.Init
import ShareLedger.Proofs.Sitting
/-!
# Proofs.Naming

When a name is found for a game that is started without one.

1. Random words are drawn into names one after another (`GameName.drawn`).  More words only add
   names, and the first name that is not taken is the one that is found
   (`GameName.drawUnused_eq_find?`).
2. There are no other names than those of an adjective and a noun (`GameName.mem_names_of_mem_drawn`),
   four hundred in all.
3. Among words in which every one of them keeps coming (`GameName.AllRecur`) the search therefore
   ends exactly when one of them is not taken, and the game that is begun takes the place of no other
   (`Game.naming_ends`).  At a store that has them all it never ends
   (`Game.exists_naming_endless`).
-/

namespace ShareLedger

namespace GameName

/-! ## Drawing on -/

theorem drawPlace_append {ws rest : List UInt32} {place : Nat}
    (h : drawPlace ws = some (place, rest)) (more : List UInt32) :
    drawPlace (ws ++ more) = some (place, rest ++ more) := by
  induction ws with
  | nil => cases h
  | cons w ws ih =>
      rw [List.cons_append, drawPlace]
      rw [drawPlace] at h
      split at h
      · next haccepted =>
          rw [if_pos haccepted]
          cases h
          rfl
      · next hrejected =>
          rw [if_neg hrejected]
          exact ih h

/-- The name of two places, that of the adjective and that of the noun. -/
def nameAt (a n : Nat) : String := adjectives.getD a "new" ++ "-" ++ nouns.getD n "game"

/-- A name is made of the two places that are drawn one after the other. -/
theorem draw_eq_some {ws rest : List UInt32} {name : String} :
    draw ws = some (name, rest) ↔
      ∃ a n mid, drawPlace ws = some (a, mid) ∧ drawPlace mid = some (n, rest) ∧
        nameAt a n = name := by
  unfold draw
  cases drawPlace ws with
  | none => simp
  | some first =>
      obtain ⟨a, mid⟩ := first
      cases hn : drawPlace mid with
      | none => simp [hn]
      | some second =>
          obtain ⟨n, last⟩ := second
          simp [hn, nameAt, and_comm]

/-- More words behind those that suffice for a name do not change it. -/
theorem draw_append {ws rest : List UInt32} {name : String} (h : draw ws = some (name, rest))
    (more : List UInt32) : draw (ws ++ more) = some (name, rest ++ more) := by
  obtain ⟨a, n, mid, ha, hn, hname⟩ := draw_eq_some.1 h
  exact draw_eq_some.2 ⟨a, n, _, drawPlace_append ha more, drawPlace_append hn more, hname⟩

/-- The names that are drawn one after another until the words run out. -/
def drawn (ws : List UInt32) : List String :=
  match _h : draw ws with
  | none => []
  | some (name, rest) => name :: drawn rest
termination_by ws.length
decreasing_by exact length_lt_of_draw _h

theorem drawn_eq_nil {ws : List UInt32} (h : draw ws = none) : drawn ws = [] := by
  rw [drawn, h]

theorem drawn_eq_cons {ws rest : List UInt32} {name : String} (h : draw ws = some (name, rest)) :
    drawn ws = name :: drawn rest := by
  rw [drawn, h]

/-- More words only add names. -/
theorem drawn_prefix_append (ws more : List UInt32) : drawn ws <+: drawn (ws ++ more) := by
  induction ws using drawn.induct with
  | case1 ws hdraw =>
      rw [drawn_eq_nil hdraw]
      exact List.nil_prefix
  | case2 ws name rest hdraw ih =>
      rw [drawn_eq_cons hdraw, drawn_eq_cons (draw_append hdraw more)]
      exact (List.prefix_cons_inj name).2 ih

theorem drawUnused_eq_ite {taken : String → Bool} {ws rest : List UInt32} {name : String}
    (h : draw ws = some (name, rest)) :
    drawUnused taken ws = if taken name then drawUnused taken rest else some name := by
  rw [drawUnused, h]

/-- The name that is found is the first one that is drawn and not taken. -/
theorem drawUnused_eq_find? (taken : String → Bool) (ws : List UInt32) :
    drawUnused taken ws = (drawn ws).find? fun name => !taken name := by
  induction ws using drawn.induct with
  | case1 ws hdraw =>
      rw [drawUnused, drawn_eq_nil hdraw, hdraw]
      rfl
  | case2 ws name rest hdraw ih =>
      rw [drawUnused_eq_ite hdraw, drawn_eq_cons hdraw, List.find?_cons]
      cases taken name with
      | false => rfl
      | true => exact ih

/-! ## What can be drawn -/

/-- All names: every adjective with every noun. -/
def names : List String := adjectives.flatMap fun a => nouns.map fun n => a ++ "-" ++ n

theorem mem_names_iff {name : String} :
    name ∈ names ↔ ∃ a ∈ adjectives, ∃ n ∈ nouns, a ++ "-" ++ n = name := by
  simp only [names, List.mem_flatMap, List.mem_map]

theorem nameAt_mem_names {a n : Nat} (ha : a < 20) (hn : n < 20) : nameAt a n ∈ names := by
  have hadjective : adjectives.getD a "new" ∈ adjectives := by
    rw [List.getD_eq_getElem _ _ ha]
    exact List.getElem_mem _
  have hnoun : nouns.getD n "game" ∈ nouns := by
    rw [List.getD_eq_getElem _ _ hn]
    exact List.getElem_mem _
  exact mem_names_iff.2 ⟨_, hadjective, _, hnoun, rfl⟩

theorem drawPlace_lt {ws rest : List UInt32} {place : Nat}
    (h : drawPlace ws = some (place, rest)) : place < 20 := by
  induction ws with
  | nil => cases h
  | cons w ws ih =>
      rw [drawPlace] at h
      split at h
      · have hw := w.toNat_lt
        cases h
        omega
      · exact ih h

theorem mem_names_of_draw {ws rest : List UInt32} {name : String}
    (h : draw ws = some (name, rest)) : name ∈ names := by
  obtain ⟨a, n, mid, ha, hn, rfl⟩ := draw_eq_some.1 h
  exact nameAt_mem_names (drawPlace_lt ha) (drawPlace_lt hn)

theorem mem_names_of_mem_drawn {ws : List UInt32} {name : String} (h : name ∈ drawn ws) :
    name ∈ names := by
  induction ws using drawn.induct with
  | case1 ws hdraw =>
      rw [drawn_eq_nil hdraw] at h
      cases h
  | case2 ws first rest hdraw ih =>
      rw [drawn_eq_cons hdraw, List.mem_cons] at h
      obtain rfl | hrest := h
      · exact mem_names_of_draw hdraw
      · exact ih hrest

/-- A name that is found is one of them and is not taken. -/
theorem found_of_drawUnused {taken : String → Bool} {ws : List UInt32} {name : String}
    (h : drawUnused taken ws = some name) : name ∈ names ∧ taken name = false := by
  have hfree := Game.taken_eq_false_of_drawUnused h
  rw [drawUnused_eq_find?] at h
  exact ⟨mem_names_of_mem_drawn (List.mem_of_find?_eq_some h), hfree⟩

/-- When they are all taken, no words lead to a name. -/
theorem drawUnused_eq_none {taken : String → Bool} (htaken : ∀ name ∈ names, taken name = true)
    (ws : List UInt32) : drawUnused taken ws = none := by
  rw [Option.eq_none_iff_forall_ne_some]
  intro name h
  obtain ⟨hname, hfree⟩ := found_of_drawUnused h
  rw [htaken name hname] at hfree
  cases hfree

/-! ## Words that never end -/

/-- Every adjective is drawn with every noun again and again: however many of the names that are
drawn first are passed over, it comes behind them. -/
def AllRecur (words : Stream' UInt32) : Prop :=
  ∀ a ∈ adjectives, ∀ n ∈ nouns, ∀ passed, ∃ m,
    a ++ "-" ++ n ∈ (drawn (words.take m)).drop passed

theorem AllRecur.exists_mem_drawn {words : Stream' UInt32} (h : AllRecur words) {name : String}
    (hname : name ∈ names) : ∃ m, name ∈ drawn (words.take m) := by
  obtain ⟨a, ha, n, hn, rfl⟩ := mem_names_iff.1 hname
  obtain ⟨m, hm⟩ := h a ha n hn 0
  exact ⟨m, hm⟩

/-- **The search for a name ends** exactly when one of the names is not taken. -/
theorem AllRecur.exists_drawUnused_iff {words : Stream' UInt32} (h : AllRecur words)
    (taken : String → Bool) :
    (∃ m, (drawUnused taken (words.take m)).isSome) ↔ ∃ name ∈ names, taken name = false := by
  constructor
  · rintro ⟨m, hm⟩
    obtain ⟨name, hname⟩ := Option.isSome_iff_exists.1 hm
    exact ⟨name, found_of_drawUnused hname⟩
  · rintro ⟨name, hname, hfree⟩
    obtain ⟨m, hm⟩ := h.exists_mem_drawn hname
    refine ⟨m, ?_⟩
    rw [drawUnused_eq_find?, List.find?_isSome]
    exact ⟨name, hm, by rw [hfree]; rfl⟩

/-- A name that is found is found whatever words follow. -/
theorem drawUnused_take_of_le {taken : String → Bool} {words : Stream' UInt32} {m m' : Nat}
    {name : String} (h : drawUnused taken (words.take m) = some name) (hle : m ≤ m') :
    drawUnused taken (words.take m') = some name := by
  obtain ⟨later, hlater⟩ := Stream'.take_prefix_take_left m m' words hle
  rw [drawUnused_eq_find?] at h ⊢
  rw [← hlater]
  exact (drawn_prefix_append _ later).find?_eq_some h

/-! ## All names in turn -/

/-- A word with which a place is drawn. -/
def wordFor (place : Nat) : UInt32 := .ofNat (place * 214748365)

/-- Words that draw all names in turn, and then again: the nouns go round with every adjective. -/
def inTurn : Stream' UInt32 := fun i => wordFor (if i % 2 = 0 then i / 40 % 20 else i / 2 % 20)

/-- The name that comes in its turn. -/
def turn (i : Nat) : String := nameAt (i / 20 % 20) (i % 20)

theorem inTurn_even (i : Nat) : inTurn.get (2 * i) = wordFor (i / 20 % 20) := by
  have hplace : 2 * i / 40 = i / 20 := by omega
  simp [inTurn, Stream'.get, hplace]

theorem inTurn_odd (i : Nat) : inTurn.get (2 * i + 1) = wordFor (i % 20) := by
  have hodd : (2 * i + 1) % 2 = 1 := by omega
  have hplace : (2 * i + 1) / 2 = i := by omega
  simp [inTurn, Stream'.get, hodd, hplace]

theorem drawPlace_wordFor {place : Nat} (h : place < 20) (ws : List UInt32) :
    drawPlace (wordFor place :: ws) = some (place, ws) := by
  have hword : (wordFor place).toNat = place * 214748365 := by
    rw [wordFor, UInt32.toNat_ofNat']
    omega
  have hplace : place * 214748365 * 20 / 4294967296 = place := by omega
  have haccepted : place * 214748365 * 20 % 4294967296 ≤ lastAccepted := by
    unfold lastAccepted
    omega
  rw [drawPlace, hword, if_pos haccepted, hplace]

theorem drawn_wordFor {a n : Nat} (ha : a < 20) (hn : n < 20) (ws : List UInt32) :
    drawn (wordFor a :: wordFor n :: ws) = nameAt a n :: drawn ws :=
  drawn_eq_cons
    (draw_eq_some.2 ⟨a, n, _, drawPlace_wordFor ha _, drawPlace_wordFor hn ws, rfl⟩)

/-- From an even place on, two words at a time draw one name after another. -/
theorem drawn_inTurn (i k : Nat) :
    drawn ((inTurn.drop (2 * i)).take (2 * k)) = (List.range' i k).map turn := by
  induction k generalizing i with
  | zero => exact drawn_eq_nil rfl
  | succ k ih =>
      have htake : (inTurn.drop (2 * i)).take (2 * (k + 1)) =
          wordFor (i / 20 % 20) :: wordFor (i % 20) ::
            (inTurn.drop (2 * (i + 1))).take (2 * k) := by
        rw [Nat.mul_succ, Stream'.take_succ, Stream'.take_succ, Stream'.head_drop,
          Stream'.tail_drop', Stream'.head_drop, Stream'.tail_drop', inTurn_even, inTurn_odd]
        rfl
      have ha : i / 20 % 20 < 20 := Nat.mod_lt _ (by omega)
      have hn : i % 20 < 20 := Nat.mod_lt _ (by omega)
      rw [htake, drawn_wordFor ha hn, ih (i + 1)]
      rfl

theorem allRecur_inTurn : AllRecur inTurn := by
  intro adjective hadjective noun hnoun passed
  obtain ⟨a, ha, hfirst⟩ := List.getElem_of_mem hadjective
  obtain ⟨n, hn, hsecond⟩ := List.getElem_of_mem hnoun
  have ha20 : a < 20 := ha
  have hn20 : n < 20 := hn
  -- The name comes once in every round of four hundred.
  obtain ⟨i, hi⟩ : ∃ i, i = 400 * passed + 20 * a + n := ⟨_, rfl⟩
  have hturn : turn i = adjective ++ "-" ++ noun := by
    have hplace : i / 20 % 20 = a ∧ i % 20 = n := by omega
    rw [turn, hplace.1, hplace.2, nameAt, List.getD_eq_getElem _ _ ha,
      List.getD_eq_getElem _ _ hn, hfirst, hsecond]
  have hdrawn : drawn (inTurn.take (2 * (i + 1))) = (List.range' 0 (i + 1)).map turn :=
    drawn_inTurn 0 (i + 1)
  refine ⟨2 * (i + 1), List.mem_iff_getElem?.2 ⟨i - passed, ?_⟩⟩
  have hbehind : passed + (i - passed) = i := by omega
  rw [hdrawn, List.getElem?_drop, hbehind, ← hturn]
  simp

end GameName

/-! ## New games -/

namespace Game

/-- What becomes of beginning a game under a name: the other games are as they were, and once the
game is greeted it is empty, in play and open. -/
structure BegunAs (name : String) (index : GameIndex) (currency : String) (index' : GameIndex)
    (session' : Option Session) (result : Except StoreError String) : Prop where
  others : ∀ other, other ≠ name → index'.games.get? other = index.games.get? other
  greeted : ∀ greeting, result = .ok greeting →
    greeting = "Your game name is '" ++ name ++ "'.\n" ∧ session' = some (.new name currency) ∧
      index'.current = some name ∧ index'.eventsOf name = some []

variable {index : GameIndex} {session : Option Session} {currency name : String}

/-- What a game comes to that begins a new one under a name and greets with it. -/
def beginAs (g : Game) (name : String) : Game × Except StoreError String :=
  let (store, session, result) :=
    (begin g.session g.currency name ("Your game name is '" ++ name ++ "'.\n")).run g.store
  ({ g with store, session }, result)

/-- A start-up that finds no game in play begins one under the name that it finds. -/
theorem createOrLoad_of_dangling {g : Game}
    (hnone : ∀ name ∈ g.store.index.current, g.store.index.has name = false)
    (words : List UInt32) :
    g.createOrLoad words = (GameName.drawUnused g.store.index.has words).map g.beginAs := by
  have hgoing : (g.store.index.current.bind fun name =>
      (g.store.index.eventsOf name).map fun events => (name, events)) = none := by
    rw [Option.bind_eq_none_iff]
    intro name hname
    rw [GameIndex.eventsOf_eq_none_of_has (hnone name hname), Option.map_none]
  simp only [createOrLoad, resume?, hgoing, Option.map_map]
  rfl

theorem leads_begunAs (name : String) :
    (begin session currency name ("Your game name is '" ++ name ++ "'.\n")).Leads
      (BegunAs name index currency) index := by
  have hothers (now : Amount) (other : String) (hother : other ≠ name) :
      (index.save now name []).games.get? other = index.games.get? other :=
    index.get?_save_of_ne now [] hother
  refine leads_begin (fun _ => ⟨fun _ _ => rfl, nofun⟩) (fun now _ => ⟨hothers now, nofun⟩)
    fun now => ⟨hothers now, ?_⟩
  rintro greeting ⟨⟩
  exact ⟨rfl, rfl, rfl, GameIndex.eventsOf_save index now name []⟩

theorem begunAs_beginAs (g : Game) (name : String) :
    BegunAs name g.store.index g.currency (g.beginAs name).1.store.index
      (g.beginAs name).1.session (g.beginAs name).2 :=
  (leads_begunAs name).run

/-- When no write fails, the game is greeted. -/
theorem greeted_beginAs (g : Game) (name : String)
    (hmade : g.store.AllMade (g.beginAs name).1.store) :
    ∃ greeting, (g.beginAs name).2 = .ok greeting := by
  let p : Plan Session String :=
    begin g.session g.currency name ("Your game name is '" ++ name ++ "'.\n")
  have hrun : ∃ greeting, (p.run g.store).2.2 = .ok greeting := Plan.run_answered hmade
  exact hrun

/-- **Naming a game at the start ends** exactly when the store does not have all the names, however
many other games it has.  The name that is found is new and does not hang on the words that follow.
Every log that was there is kept, whichever writes fail, and when none fails the game is begun under
the name as an empty one. -/
theorem naming_ends {g : Game} {words : Stream' UInt32}
    (hnone : ∀ name ∈ g.store.index.current, g.store.index.has name = false)
    (hwords : GameName.AllRecur words) :
    ((∃ m, (g.createOrLoad (words.take m)).isSome) ↔
      ∃ name ∈ GameName.names, g.store.index.has name = false) ∧
    ∀ m g' result, g.createOrLoad (words.take m) = some (g', result) →
      (∀ m', m ≤ m' → g.createOrLoad (words.take m') = some (g', result)) ∧
      (∀ other events, g.store.index.eventsOf other = some events →
        g'.store.index.eventsOf other = some events) ∧
      ∃ name ∈ GameName.names, g.store.index.has name = false ∧
        (∀ other, other ≠ name →
          g'.store.index.games.get? other = g.store.index.games.get? other) ∧
        (g.store.AllMade g'.store →
          result = .ok ("Your game name is '" ++ name ++ "'.\n") ∧
            g'.session = some (.new name g.currency) ∧ g'.store.index.current = some name ∧
            g'.store.index.eventsOf name = some []) := by
  refine ⟨?_, fun m g' result h => ?_⟩
  · rw [← hwords.exists_drawUnused_iff]
    simp only [createOrLoad_of_dangling hnone, Option.isSome_map]
  rw [createOrLoad_of_dangling hnone] at h
  obtain ⟨name, hfound, hbegun⟩ := Option.map_eq_some_iff.1 h
  obtain ⟨hname, hnew⟩ := GameName.found_of_drawUnused hfound
  have hends := g.begunAs_beginAs name
  have hanswered := g.greeted_beginAs name
  rw [hbegun] at hends hanswered
  refine ⟨fun m' hle => ?_, fun other events hevents => ?_, name, hname, hnew, hends.others,
    fun hmade => ?_⟩
  · rw [createOrLoad_of_dangling hnone, GameName.drawUnused_take_of_le hfound hle,
      Option.map_some, hbegun]
  · have hother : other ≠ name := by
      rintro rfl
      rw [GameIndex.eventsOf_eq_none_of_has hnew] at hevents
      cases hevents
    rw [GameIndex.eventsOf, hends.others other hother]
    exact hevents
  · obtain ⟨greeting, rfl⟩ := hanswered hmade
    obtain ⟨rfl, hsession, hcurrent, hlog⟩ := hends.greeted greeting rfl
    exact ⟨rfl, hsession, hcurrent, hlog⟩

/-- A store that points to a name and keeps a game of one round under each name of a list. -/
def storeOf (current : Option String) (names : List String) : Store :=
  ⟨⟨current, .ofList (names.map fun name => (name, ⟨["next SR"], 0, 0⟩))⟩, 0, fun _ => .made 7⟩

theorem has_storeOf {current : Option String} {names : List String} {name : String} :
    (storeOf current names).index.has name = true ↔ name ∈ names := by
  unfold storeOf GameIndex.has
  rw [Book.contains_ofList, List.map_map]
  simp

/-- The name of the game in play points nowhere and all names but one are taken: the one that is left
is found. -/
theorem naming_ends_last_name :
    let store := storeOf (some "gone") (GameName.names.filter (· ≠ "frosty-dividend"))
    ∃ m g', (Game.mk store none "$").createOrLoad (GameName.inTurn.take m) =
        some (g', .ok "Your game name is 'frosty-dividend'.\n") ∧
      g'.session = some (.new "frosty-dividend" "$") ∧
      g'.store.index.eventsOf "frosty-dividend" = some [] ∧
      ∀ other, other ≠ "frosty-dividend" →
        g'.store.index.games.get? other = store.index.games.get? other := by
  intro store
  have hhas {name : String} : store.index.has name = true ↔
      name ∈ GameName.names ∧ name ≠ "frosty-dividend" := by
    rw [has_storeOf, List.mem_filter, decide_eq_true_iff]
  have hfree {name : String} : store.index.has name = false ↔
      (name ∈ GameName.names → name = "frosty-dividend") := by
    rw [← Bool.not_eq_true, hhas, not_and, not_not]
  have hnone : ∀ name ∈ store.index.current, store.index.has name = false := by
    rintro name ⟨⟩
    have hother : "gone" ∉ GameName.names := by decide +kernel
    exact hfree.2 fun hname => absurd hname hother
  have hleft : "frosty-dividend" ∈ GameName.names := by decide +kernel
  let g : Game := ⟨store, none, "$"⟩
  obtain ⟨hends, hbegins⟩ := naming_ends (g := g) hnone GameName.allRecur_inTurn
  obtain ⟨m, hm⟩ := hends.2 ⟨_, hleft, hfree.2 fun _ => rfl⟩
  obtain ⟨⟨g', result⟩, hresult⟩ := Option.isSome_iff_exists.1 hm
  obtain ⟨-, -, name, hname, hnew, hothers, hmade⟩ := hbegins m g' result hresult
  obtain rfl := hfree.1 hnew hname
  obtain ⟨rfl, hsession, -, hlog⟩ := hmade fun _ _ _ => ⟨7, rfl⟩
  exact ⟨m, g', hresult, hsession, hlog, hothers⟩

/-- At a store that has all the names the search goes on for ever, although every name keeps coming. -/
theorem exists_naming_endless :
    let g : Game := ⟨storeOf none GameName.names, none, "$"⟩
    g.store.index.current = none ∧ GameName.AllRecur GameName.inTurn ∧
      ∀ m, g.createOrLoad (GameName.inTurn.take m) = none := by
  intro g
  have hnone : ∀ name ∈ g.store.index.current, g.store.index.has name = false := nofun
  have htaken : ∀ name ∈ GameName.names, g.store.index.has name = true :=
    fun _ hname => has_storeOf.2 hname
  refine ⟨rfl, GameName.allRecur_inTurn, fun m => ?_⟩
  rw [createOrLoad_of_dangling hnone, GameName.drawUnused_eq_none htaken, Option.map_none]

end Game
end ShareLedger
