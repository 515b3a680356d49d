import ShareLedger.Proofs.Parties
import ShareLedger.Proofs.Rounds
/-!
# Proofs.Incomes

What a new round does to a ledger.

1. Credits to parties of the game make no new party and move nobody between players and companies
   (`Ledger.roster_creditAll`).  The incomes that are due are such credits, so it does not matter
   that the payments are made while the payees are read off the books.
2. An operating round pays every positive income of a party once, into the account from which the
   party spends, and changes nothing else (`PaysIncomes`).  A stock round changes nothing but the
   round (`Ledger.nextRound_pays`).
-/

namespace ShareLedger

/-- What paying the incomes makes of a ledger. -/
structure PaysIncomes (l l' : Ledger) : Prop where
  /-- Every party in play gets its income once, if that is above zero. -/
  balance : ∀ party, l'.balance party =
    if party ∈ l.roster.parties ∧ 0 < l.incomeOf party then
      .clamp ((l.balance party).toInt + (l.incomeOf party).toInt)
    else l.balance party
  /-- The treasury of a floated company holds its balance, and its cash lies idle. -/
  floated : ∀ party, l.isFloated party = true →
    l'.treasury? party = some (l'.balance party) ∧ l'.cash.get? party = l.cash.get? party
  /-- Nobody else has a treasury, and cash is entered for those that are paid. -/
  unfloated : ∀ party, l.isFloated party = false → l'.treasury? party = none ∧
    l'.cash.get? party =
      if l.cash.contains party = true ∨ party ∈ l.roster.parties ∧ 0 < l.incomeOf party then
        some (l'.balance party)
      else none
  roster : l'.roster = l.roster
  rest : l' = { l with cash := l'.cash, treasuries := l'.treasuries, round := l'.round }

namespace Ledger

variable {l : Ledger}

/-- Credits to parties make no new party and move nobody between players and companies. -/
theorem roster_creditAll {cs : List (String × Amount)}
    (h : ∀ party ∈ cs.map (·.1), party ∈ l.roster.parties) :
    (l.creditAll cs).roster = l.roster := by
  refine roster_eq (fun name => mem_companies_creditAll l cs) fun name => ?_
  rw [mem_players, mem_players, mem_companies_creditAll, creditAll_shares]
  refine and_congr_left fun hnot => ?_
  have hfloated : l.isFloated name = false := by
    rw [mem_companies, not_or] at hnot
    exact Bool.eq_false_iff.2 hnot.1
  rw [contains_cash_creditAll hfloated]
  constructor
  · rintro ((hcash | hpaid) | hlist)
    · exact .inl hcash
    · have hplayer := (List.mem_append.1 (h name hpaid)).resolve_right hnot
      exact (mem_players.1 hplayer).1
    · exact .inr hlist
  · exact Or.imp_left .inl

/-- Paying the incomes that are due, the round being moved on with it. -/
theorem paysIncomes_creditAll (l : Ledger) (round : Option Round) :
    PaysIncomes l { l.creditAll l.incomesDue with round } where
  balance := l.balance_payIncome
  floated party hfloated := by
    have htreasury := treasury?_eq (l.creditAll l.incomesDue) party
    rw [isFloated_creditAll, if_pos hfloated] at htreasury
    exact ⟨htreasury, get?_cash_creditAll hfloated _⟩
  unfloated party hfloated := by
    have hstill : (l.creditAll l.incomesDue).isFloated party = false := by
      rw [isFloated_creditAll, hfloated]
    have htreasury := treasury?_eq (l.creditAll l.incomesDue) party
    have hcash := get?_cash_eq hstill
    rw [hstill] at htreasury
    simp only [contains_cash_creditAll hfloated, mem_names_incomesDue] at hcash
    exact ⟨htreasury, hcash⟩
  roster := roster_creditAll fun party hdue => (mem_names_incomesDue.1 hdue).1
  rest := congrArg (fun paid : Ledger => { paid with round }) (creditAll_eq l l.incomesDue)

/-! ## The law -/

/-- **What a new round does.**  An operating round pays every positive income of a party once, into
the account from which the party spends; no other balance, no share, value or income and no part in
the game changes.  A stock round changes nothing but the round. -/
theorem nextRound_pays (l : Ledger) :
    PaysIncomes l (l.nextRound .operating).ledger ∧
      (l.nextRound .operating).ledger.round = some (Round.next l.round .operating) ∧
      (l.nextRound .stock).ledger = { l with round := some (Round.next l.round .stock) } ∧
      ∀ log, l.apply log (Action.read "next OR") = .ok (l.nextRound .operating) ∧
        l.apply log (Action.read "next SR") = .ok (l.nextRound .stock) := by
  have hledger : (l.nextRound .operating).ledger =
      { l.creditAll l.incomesDue with round := some (Round.next l.round .operating) } :=
    l.after_nextRound .operating
  have hcommand (log : List String) {line : String} {kind : RoundKind}
      (hverb : (Action.read line).verb = some .nextRound)
      (hkind : (Action.read line).roundKind? = some kind) :
      l.apply log (Action.read line) = .ok (l.nextRound kind) :=
    (apply_eq_nextRound hverb).2 ⟨kind, hkind, rfl⟩
  refine ⟨?_, ?_, rfl, fun log => ⟨hcommand log ?_ ?_, hcommand log ?_ ?_⟩⟩
  · rw [hledger]
    exact l.paysIncomes_creditAll _
  · rw [hledger]
  all_goals decide +kernel

-- Whoever has an income and no cash yet is paid in cash, and is a player before and after.
example :
    let l := (empty "$").afterAll [.buy "MIKKO" "CR" 1 0 none, .setIncome "MIKKO" (some 5)]
    let paid := (l.nextRound .operating).ledger
    l.cash.get? "MIKKO" = none ∧ paid.cash.get? "MIKKO" = some 5 ∧
      l.roster = ⟨["MIKKO"], ["CR"]⟩ ∧ paid.roster = l.roster := by
  decide +kernel

end Ledger
end ShareLedger
