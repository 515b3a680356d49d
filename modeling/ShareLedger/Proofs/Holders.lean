import ShareLedger.Proofs.Roster
import ShareLedger.Proofs.Shares
/-!
# Proofs.Holders

Who holds shares of a company.

1. The holders of a company are the owners whose holding is not zero, each of them once, with what
   they hold (`Ledger.mem_holders`, `Ledger.nodup_holders`).
2. Together they hold the shares that are in play (`Ledger.sum_holders`).
-/

namespace ShareLedger.Ledger

variable {l : Ledger} {company owner : String} {n : Amount}

/-- The holders of a company hold some of it, and nobody else does. -/
theorem mem_holders :
    (owner, n) ∈ l.holders company ↔ l.holding owner company = n ∧ n ≠ 0 := by
  have hfiled : (owner, n) ∈ l.holders company ↔
      ∃ owned, l.shares.get? owner = some owned ∧ owned.get? company = some n ∧ n ≠ 0 := by
    simp only [holders, List.mem_filterMap, Prod.exists]
    constructor
    · rintro ⟨owner', owned, hmem, howned⟩
      cases hn : owned.get? company with
      | none => simp [hn] at howned
      | some m =>
          by_cases hzero : m = 0
          · simp [hn, hzero] at howned
          · simp only [hn, hzero, if_false, Option.some.injEq, Prod.mk.injEq] at howned
            obtain ⟨rfl, rfl⟩ := howned
            exact ⟨owned, Book.mem_entries.1 hmem, hn, hzero⟩
    · rintro ⟨owned, howned, hn, hzero⟩
      exact ⟨owner, owned, Book.mem_entries.2 howned, by simp [hn, hzero]⟩
  rw [hfiled, holding, portfolio]
  cases howned : l.shares.get? owner with
  | none => simp +contextual [eq_comm]
  | some owned =>
      cases hn : owned.get? company with
      | none => simp +contextual [hn, eq_comm]
      | some m => simp [hn]

/-- The holders stand in the order of the share lists. -/
theorem sublist_holders (l : Ledger) (company : String) :
    ((l.holders company).map (·.1)).Sublist l.shares.names := by
  unfold holders Book.names
  induction l.shares.entries with
  | nil => simp
  | cons e es ih =>
      obtain ⟨owner, owned⟩ := e
      cases hn : owned.get? company with
      | none => simpa [hn] using ih.cons owner
      | some n =>
          by_cases hzero : n = 0
          · simpa [hn, hzero] using ih.cons owner
          · simpa [hn, hzero] using ih

/-- Nobody holds shares of a company twice. -/
theorem nodup_holders (l : Ledger) (company : String) :
    ((l.holders company).map (·.1)).Nodup :=
  (l.sublist_holders company).nodup l.shares.nodup_names

/-- The holders of a company hold all shares of it that are in play. -/
theorem sum_holders (l : Ledger) (company : String) :
    ((l.holders company).map (·.2.toInt)).sum = l.sharesInPlay company := by
  unfold holders sharesInPlay Book.sum Book.values
  induction l.shares.entries with
  | nil => simp
  | cons e es ih =>
      obtain ⟨owner, owned⟩ := e
      cases hn : owned.get? company with
      | none => simp [hn, ih]
      | some n =>
          by_cases hzero : n = 0
          · simp [hn, hzero, ih]
          · simp [hn, hzero, ih]

end ShareLedger.Ledger
