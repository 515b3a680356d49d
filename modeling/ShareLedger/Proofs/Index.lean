import ShareLedger.Proofs.Roster
import ShareLedger.Store.Index
/-!
# Proofs.Index

What each change of an index says of each game.

1. The record of a game is the one that was kept last, made at the moment at which it was first
   kept; deleting drops it (`GameIndex.get?_save`, `GameIndex.get?_delete`).  Neither touches the
   record of any other game, and pointing touches none.
2. Whether there is a game and what its log is follow from its record.
-/

namespace ShareLedger.GameIndex

variable {i : GameIndex} {name other : String}

/-! ## Records -/

theorem get?_save (i : GameIndex) (now : Amount) (name : String) (events : List String)
    (other : String) :
    (i.save now name events).games.get? other =
      if other = name then
        some ⟨events, ((i.games.get? name).map (·.createdAt)).getD now, now⟩
      else i.games.get? other := by
  rw [save, Book.get?_insert]
  cases i.games.get? name <;> rfl

theorem get?_delete (i : GameIndex) (name other : String) :
    (i.delete name).games.get? other = if other = name then none else i.games.get? other :=
  i.games.get?_erase name other

theorem get?_save_of_ne (i : GameIndex) (now : Amount) (events : List String)
    (h : other ≠ name) : (i.save now name events).games.get? other = i.games.get? other := by
  rw [get?_save, if_neg h]

theorem get?_delete_of_ne (i : GameIndex) (h : other ≠ name) :
    (i.delete name).games.get? other = i.games.get? other := by
  rw [get?_delete, if_neg h]

/-! ## Games -/

/-- A game is kept exactly when it has a log. -/
theorem has_eq_isSome (i : GameIndex) (name : String) :
    i.has name = (i.eventsOf name).isSome := by
  rw [eventsOf, Option.isSome_map]
  rfl

theorem has_save (i : GameIndex) (now : Amount) (name : String) (events : List String)
    (other : String) :
    (i.save now name events).has other = (decide (other = name) || i.has other) :=
  i.games.contains_insert name other _

theorem has_delete (i : GameIndex) (name other : String) :
    (i.delete name).has other = (!decide (other = name) && i.has other) :=
  i.games.contains_erase name other

@[simp] theorem has_point (i : GameIndex) (name : Option String) (other : String) :
    (i.point name).has other = i.has other := rfl

theorem has_of_eventsOf {events : List String} (h : i.eventsOf name = some events) :
    i.has name = true := by
  rw [has_eq_isSome, h]
  rfl

/-! ## Logs -/

theorem eventsOf_eq_none_of_has (h : i.has name = false) : i.eventsOf name = none := by
  rwa [has_eq_isSome, Option.isSome_eq_false_iff, Option.isNone_iff_eq_none] at h

theorem eventsOf_save (i : GameIndex) (now : Amount) (name : String) (events : List String) :
    (i.save now name events).eventsOf name = some events := by
  rw [eventsOf, get?_save, if_pos rfl]
  rfl

theorem eventsOf_save_of_ne (i : GameIndex) (now : Amount) (events : List String)
    (h : other ≠ name) : (i.save now name events).eventsOf other = i.eventsOf other := by
  rw [eventsOf, get?_save_of_ne i now events h, eventsOf]

theorem eventsOf_delete (i : GameIndex) (name : String) : (i.delete name).eventsOf name = none := by
  rw [eventsOf, get?_delete, if_pos rfl]
  rfl

theorem eventsOf_delete_of_ne (i : GameIndex) (h : other ≠ name) :
    (i.delete name).eventsOf other = i.eventsOf other := by
  rw [eventsOf, get?_delete_of_ne i h, eventsOf]

@[simp] theorem eventsOf_point (i : GameIndex) (name : Option String) (other : String) :
    (i.point name).eventsOf other = i.eventsOf other := rfl

end ShareLedger.GameIndex
