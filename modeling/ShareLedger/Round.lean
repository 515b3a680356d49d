import ShareLedger.Text.Case
/-!
# Round

Stock rounds and operating rounds.

1. A stock round opens the next season and sets the count of operating rounds back to none; an
   operating round adds one to that count.
2. The counters go up by one and stay where they are once they reach `Round.cap`.
-/

namespace ShareLedger

/-- The two kinds of round. -/
inductive RoundKind where
  | stock
  | operating
deriving DecidableEq, Repr

/-- A round: its kind, the season it belongs to, and the operating rounds of the season so far. -/
structure Round where
  kind : RoundKind
  season : Nat
  operating : Nat
deriving DecidableEq, Repr

/-- The kind that a word names by its first letter, S or O, large or small. -/
def RoundKind.read? (word : String) : Option RoundKind :=
  match word.toList with
  | [] => none
  | c :: _ =>
    match Text.capitalAscii c with
    | 'S' => some .stock
    | 'O' => some .operating
    | _ => none

namespace Round

/-- The greatest count: the greatest number of 32 bits. -/
def cap : Nat := 4294967295

/-- One more, unless the greatest count is reached. -/
def countUp (n : Nat) : Nat := if n < cap then n + 1 else n

/-- The round that follows when a round of the given kind begins. -/
def next (current : Option Round) (kind : RoundKind) : Round :=
  let season := (current.map (·.season)).getD 0
  let operating := (current.map (·.operating)).getD 0
  match kind with
  | .stock => ⟨.stock, countUp season, 0⟩
  | .operating => ⟨.operating, season, countUp operating⟩

/-- The short name, `SR 2` or `OR 2.1`. -/
def text (r : Round) : String :=
  match r.kind with
  | .stock => "SR " ++ Nat.repr r.season
  | .operating => "OR " ++ Nat.repr r.season ++ "." ++ Nat.repr r.operating

/-- The sentence that opens the round. -/
def announcement (r : Round) : String :=
  match r.kind with
  | .stock => "Stock round " ++ Nat.repr r.season ++ " begins."
  | .operating =>
    "Operating round " ++ Nat.repr r.season ++ "." ++ Nat.repr r.operating ++ " begins."

end Round
end ShareLedger
