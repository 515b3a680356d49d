/-!
# GameName

Names for games that are started without one: an adjective and a noun drawn at random.

A drawing takes random words of 32 bits from the front of a list. A word `w` is turned into the
quotient and the remainder of `20 * w` by `2 ^ 32`; the quotient is the place drawn, unless the
remainder lies in the last part of its range, which would make some places likelier than others:
then the next word is tried.
-/

namespace ShareLedger.GameName

/-- The adjectives, twenty of them. -/
def adjectives : List String := [
  "rusty", "narrow", "golden", "foggy", "express", "northern", "grand", "steam", "silent",
  "iron", "midland", "coastal", "royal", "crooked", "electric", "hidden", "eastern", "private",
  "bankrupt", "frosty"]

/-- The nouns, twenty of them. -/
def nouns : List String := [
  "trains", "junction", "viaduct", "tender", "signal", "terminus", "gauge", "tunnel",
  "ferry", "harbour", "engine", "siding", "coupling", "railway", "boiler", "turntable",
  "mail", "station", "charter", "dividend"]

/-- The greatest remainder that is accepted: with it, every place has equally many words. -/
def lastAccepted : Nat := 2684354559

/-- Draws a place below twenty; nothing when the words run out. -/
def drawPlace : List UInt32 → Option (Nat × List UInt32)
  | [] => none
  | w :: ws =>
    if w.toNat * 20 % 4294967296 ≤ lastAccepted then some (w.toNat * 20 / 4294967296, ws)
    else drawPlace ws

/-- Draws a name; the answer has the words that were not used. -/
def draw (ws : List UInt32) : Option (String × List UInt32) :=
  match drawPlace ws with
  | none => none
  | some (a, ws) =>
    match drawPlace ws with
    | none => none
    | some (n, ws) => some (adjectives.getD a "new" ++ "-" ++ nouns.getD n "game", ws)

theorem length_lt_of_drawPlace {ws rest : List UInt32} {place : Nat}
    (h : drawPlace ws = some (place, rest)) : rest.length < ws.length := by
  induction ws with
  | nil => simp [drawPlace] at h
  | cons w ws ih =>
    rw [drawPlace] at h
    split at h
    · simp only [Option.some.injEq, Prod.mk.injEq] at h
      simp [← h.2]
    · exact Nat.lt_trans (ih h) (by simp)

theorem length_lt_of_draw {ws rest : List UInt32} {name : String}
    (h : draw ws = some (name, rest)) : rest.length < ws.length := by
  simp only [draw] at h
  split at h
  · contradiction
  · next a mid ha =>
    split at h
    · contradiction
    · next n last hn =>
      simp only [Option.some.injEq, Prod.mk.injEq] at h
      rw [← h.2]
      exact Nat.lt_trans (length_lt_of_drawPlace hn) (length_lt_of_drawPlace ha)

/-- Draws names until one is not taken; nothing when the words run out. -/
def drawUnused (taken : String → Bool) (ws : List UInt32) : Option String :=
  match _h : draw ws with
  | none => none
  | some (name, rest) => if taken name then drawUnused taken rest else some name
termination_by ws.length
decreasing_by exact length_lt_of_draw _h

end ShareLedger.GameName
