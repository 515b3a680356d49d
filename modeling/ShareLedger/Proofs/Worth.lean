import Mathlib.Data.List.Forall2
import ShareLedger.Proofs.Exactness
import ShareLedger.Proofs.Numerals
import ShareLedger.Proofs.Roster
import ShareLedger.Report
/-!
# Proofs.Worth

The table of values adds up, also where amounts pass a bound.

1. Zeros between the amounts of a total do not count (`Amount.total_filter`), and of names in order
   those that a book has are the names of the book (`Book.filter_contains`).  So a book has the same
   total over its own names as over any names in order among which they are (`Book.total_names`).
2. Whoever's shares somebody holds is a company, and a player is not floated.  Hence the worth of a
   player is its cash and the worth of its shares of all companies of the roster
   (`Ledger.worth_eq`).
3. A text shows one amount only (`Ledger.money_inj`), so a row of the table can be read in one way
   (`Report.ValueRow.cells_inj`).
-/

namespace ShareLedger

/-! ## Totals -/

namespace Amount

theorem zero_mul (a : Amount) : 0 * a = 0 := by
  apply ext
  rw [toInt_mul, toInt_zero, Int.zero_mul]
  rfl

/-- Zeros do not count in a total. -/
theorem total_filter {worth : String → Amount} {p : String → Bool}
    (h : ∀ name, p name = false → worth name = 0) (names : List String) :
    total ((names.filter p).map worth) = total (names.map worth) := by
  have aux (start : Amount) :
      ((names.filter p).map worth).foldl (· + ·) start =
        (names.map worth).foldl (· + ·) start := by
    induction names generalizing start with
    | nil => rfl
    | cons name names ih =>
        cases hp : p name with
        | true =>
            rw [List.filter_cons_of_pos hp]
            exact ih (start + worth name)
        | false =>
            rw [List.filter_cons_of_neg (by simp [hp]), List.map_cons, List.foldl_cons, h name hp,
              add_zero]
            exact ih start
  exact aux 0

end Amount

namespace Book

variable {α : Type}

theorem pairwise_names (book : Book α) : book.names.Pairwise (· < ·) :=
  List.pairwise_map.2 book.increasing

/-- Of names in order, those that a book has are the names of the book, if all of these are among
them. -/
theorem filter_contains {book : Book α} {names : List String} (hnames : names.Pairwise (· < ·))
    (hsub : ∀ name ∈ book.names, name ∈ names) : names.filter book.contains = book.names := by
  have hfilter := hnames.filter book.contains
  have hnodup : (names.filter book.contains).Nodup := by
    refine hfilter.imp ?_
    rintro a b hlt rfl
    exact String.lt_irrefl a hlt
  have hperm : (names.filter book.contains).Perm book.names := by
    rw [List.perm_ext_iff_of_nodup hnodup book.nodup_names]
    intro name
    rw [List.mem_filter, ← mem_names]
    exact ⟨And.right, fun h => ⟨hsub name h, h⟩⟩
  refine List.Perm.eq_of_pairwise (fun a b _ _ hab hba => ?_) hfilter book.pairwise_names hperm
  exact absurd (String.lt_trans hab hba) (String.lt_irrefl a)

/-- **The total of a book over names in order** is the total over its entries, if all of its names
are among them. -/
theorem total_names (book : Book Amount) {names : List String} (hnames : names.Pairwise (· < ·))
    (hsub : ∀ name ∈ book.names, name ∈ names) (price : String → Amount) :
    Amount.total (names.map fun name => (book.get? name).getD 0 * price name) =
      Amount.total (book.entries.map fun e => e.2 * price e.1) := by
  have hzero (name : String) (h : book.contains name = false) :
      (book.get? name).getD 0 * price name = 0 := by
    rw [contains, Option.isSome_eq_false_iff, Option.isNone_iff_eq_none] at h
    rw [h, Option.getD_none, Amount.zero_mul]
  rw [← Amount.total_filter hzero, filter_contains hnames hsub, Book.names, List.map_map]
  congr 1
  refine List.map_congr_left fun e he => ?_
  rw [Function.comp_apply, mem_entries.1 he, Option.getD_some]

end Book

namespace Ledger

/-! ## Worth over the roster -/

/-- Whoever's shares somebody holds is a company. -/
theorem mem_companies_of_mem_portfolio {l : Ledger} {party company : String}
    (h : company ∈ (l.portfolio party).names) : company ∈ l.roster.companies :=
  mem_companies.2 (.inr (hasShareEntry_iff.2 ⟨party, Book.mem_names.1 h⟩))

/-- The money of a player is its cash. -/
theorem balance_of_mem_players {l : Ledger} {player : String} (h : player ∈ l.roster.players) :
    l.balance player = l.cashOf player := by
  have hnone : l.treasury? player = none := by
    rw [← Option.not_isSome_iff_eq_none]
    exact fun hfloated => (mem_players.1 h).2 (mem_companies.2 (.inl hfloated))
  rw [balance, hnone, Option.getD_none]

/-- The worth of a player is its cash and the worth of its shares of all companies. -/
theorem worth_eq {l : Ledger} {player : String} (h : player ∈ l.roster.players) :
    l.worth player =
      l.cashOf player + Amount.total (l.roster.companies.map (Report.shareWorth l player)) := by
  have hshares := Book.total_names (l.portfolio player) (Book.pairwise_names _)
    (fun _ => mem_companies_of_mem_portfolio) l.valueOf
  rw [worth, balance_of_mem_players h, ← hshares]
  rfl

/-- A text shows one amount only. -/
theorem money_inj {l : Ledger} {a b : Amount} : l.money a = l.money b ↔ a = b := by
  rw [money, money, String.append_right_inj, Amount.text_inj]

end Ledger

namespace Report

/-! ## Rows of the table -/

/-- What a row of the table of values shows. -/
structure ValueRow where
  player : String
  cash : Amount
  /-- The worth of the player's shares of each company. -/
  shares : List Amount
  total : Amount

namespace ValueRow

/-- The cells of a row. -/
def cells (l : Ledger) (r : ValueRow) : List String :=
  r.player :: l.money r.cash :: r.shares.map l.money ++ [l.money r.total]

/-- Cells can be read in one way only. -/
theorem cells_inj {l : Ledger} {r r' : ValueRow} : r.cells l = r'.cells l ↔ r = r' := by
  refine ⟨fun h => ?_, fun h => h ▸ rfl⟩
  have hmoney : Function.Injective l.money := fun _ _ => Ledger.money_inj.1
  simp only [cells, List.cons_append, List.cons.injEq] at h
  obtain ⟨hplayer, hcash, hrest⟩ := h
  obtain ⟨hshares, htotal⟩ := List.append_inj' hrest rfl
  have hshares := (List.map_inj_right fun _ _ h => hmoney h).1 hshares
  have htotal := hmoney (List.singleton_inj.1 htotal)
  cases r; cases r'
  simp only at hplayer hcash hshares htotal
  rw [hplayer, hmoney hcash, hshares, htotal]

end ValueRow

/-- The row of a player. -/
def valueRow (l : Ledger) (player : String) : ValueRow where
  player := player
  cash := l.cashOf player
  shares := l.roster.companies.map (shareWorth l player)
  total := l.worth player

/-- The table has the row of every player. -/
theorem rows_values (l : Ledger) :
    (values l).rows = l.roster.players.map fun player => (valueRow l player).cells l := by
  simp only [values, ValueRow.cells, valueRow, List.map_map]
  rfl

/-- **The table of values adds up.** It has one row for each player, with as many cells as the
header.  A row can be read as amounts in one way, and then its total is its cash and the total of
the columns of the companies, which is the worth of the player. -/
theorem values_add_up (l : Ledger) :
    (values l).header = "Player" :: "Cash" :: l.roster.companies ++ ["Total"] ∧
      List.Forall₂
        (fun player row =>
          row.length = (values l).header.length ∧
            ∃ r : ValueRow, (∀ r' : ValueRow, r'.cells l = row ↔ r' = r) ∧ r.player = player ∧
              r.cash = l.cashOf player ∧ r.shares = l.roster.companies.map (shareWorth l player) ∧
              r.total = l.worth player ∧ r.total = r.cash + Amount.total r.shares)
        l.roster.players (values l).rows := by
  refine ⟨rfl, ?_⟩
  rw [rows_values, List.forall₂_map_right_iff, List.forall₂_same]
  intro player hplayer
  constructor
  · simp [ValueRow.cells, valueRow, values]
  · exact ⟨valueRow l player, fun _ => ValueRow.cells_inj, rfl, rfl, rfl, rfl,
      Ledger.worth_eq hplayer⟩

end Report
end ShareLedger
