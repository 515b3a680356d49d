import ShareLedger.Proofs.Closing
import ShareLedger.Proofs.Commuting
import ShareLedger.Proofs.Shares
import ShareLedger.Proofs.Text.ByteOrder
/-!
# Proofs.Parties

Who is a party of the game, and how that develops.

1. Players and companies are two lists in the order of the names' bytes that share no name.  The
   parties are the names in the four kinds of keys of a ledger, and the companies are those among
   them that are floated or stand in a share list (`Ledger.mem_parties`, `Ledger.mem_companies`).
2. Each stage of an operation is looked at by itself: trades enter companies in share lists, credits
   enter cash, and only closing takes anything out.  So the companies after an operation are known
   exactly (`Ledger.mem_companies_run`).
3. How the parties may develop is said once (`Roster.Develops`) and holds of operations, commands
   and runs (`Ledger.roster_partition`).
-/

namespace ShareLedger

theorem Action.needSubject_eq_ok {a : Action} {s : String} :
    a.needSubject = .ok s ↔ a.subject = some s := by
  unfold needSubject
  cases a.subject <;> simp

namespace Operation

/-- The company that an operation takes out of the game. -/
def closes : Operation → Option String
  | close company => some company
  | _ => none

/-- The company that an operation floats or trades. -/
def enrols : Operation → Option String
  | changeShares _ company _ | buy _ company _ _ _ | sell _ company _ _ | float company _ =>
    some company
  | _ => none

/-- What an operation enrols stands in its trades or is floated. -/
theorem enrols_eq_iff {op : Operation} {name : String} :
    op.enrols = some name ↔ (∃ t ∈ op.trades, t.company = name) ∨ ∃ n, op = float name n := by
  cases op with
  | buy buyer company n price seller => cases seller <;> simp [enrols, trades]
  | _ => simp [enrols, trades]

end Operation

/-- How parties develop: only one that is closed may leave or stop being a company, and only one
that is enrolled may become a company. -/
structure Roster.Develops (r r' : Roster) (closed enrolled : String → Prop) : Prop where
  party : ∀ name ∈ r.parties, ¬ closed name → name ∈ r'.parties
  company : ∀ name ∈ r.companies, ¬ closed name → name ∈ r'.companies
  enters : ∀ name ∈ r'.companies, name ∉ r.companies → enrolled name

namespace Roster.Develops

variable {r r' r'' : Roster} {closed closed' enrolled enrolled' : String → Prop}

/-- Nothing may happen. -/
theorem refl (r : Roster) (closed enrolled : String → Prop) : r.Develops r closed enrolled where
  party _ hname _ := hname
  company _ hname _ := hname
  enters _ hname hnot := absurd hname hnot

/-- More may be closed and enrolled than is said. -/
theorem imp (h : r.Develops r' closed enrolled) (hclosed : ∀ name, closed name → closed' name)
    (henrolled : ∀ name, enrolled name → enrolled' name) : r.Develops r' closed' enrolled' where
  party name hname hnot := h.party name hname (mt (hclosed name) hnot)
  company name hname hnot := h.company name hname (mt (hclosed name) hnot)
  enters name hname hnot := henrolled name (h.enters name hname hnot)

theorem trans (h : r.Develops r' closed enrolled) (h' : r'.Develops r'' closed enrolled) :
    r.Develops r'' closed enrolled where
  party name hname hnot := h'.party name (h.party name hname hnot) hnot
  company name hname hnot := h'.company name (h.company name hname hnot) hnot
  enters name hname hnot := by
    by_cases hmid : name ∈ r'.companies
    · exact h.enters name hmid hnot
    · exact h'.enters name hname hmid

end Roster.Develops

namespace Ledger

variable {l : Ledger} {op : Operation} {p : Posting} {name : String}

/-! ## The parties of one ledger -/

/-- Parties have cash or a share list or are companies. -/
theorem mem_parties : name ∈ l.roster.parties ↔
    l.cash.contains name = true ∨ l.shares.contains name = true ∨ name ∈ l.roster.companies := by
  rw [Roster.parties, List.mem_append, mem_players, ← or_assoc]
  by_cases h : name ∈ l.roster.companies <;> simp [h]

theorem hasShareEntry_iff_get? : l.hasShareEntry name = true ↔
    ∃ owner owned, l.shares.get? owner = some owned ∧ owned.contains name = true := by
  simp only [hasShareEntry, List.any_eq_true, Book.mem_values]
  constructor
  · rintro ⟨owned, ⟨owner, howner⟩, hname⟩
    exact ⟨owner, owned, howner, hname⟩
  · rintro ⟨owner, owned, howner, hname⟩
    exact ⟨owned, ⟨owner, howner⟩, hname⟩

theorem pairwise_bytes_players (l : Ledger) :
    l.roster.players.Pairwise fun a b => Text.bytes a < Text.bytes b :=
  (Book.pairwise_bytes_sortNames _).filter _

theorem pairwise_bytes_companies (l : Ledger) :
    l.roster.companies.Pairwise fun a b => Text.bytes a < Text.bytes b :=
  Book.pairwise_bytes_sortNames _

/-- A roster is determined by who is in it as what. -/
theorem roster_eq {l l' : Ledger}
    (hcompanies : ∀ name, name ∈ l.roster.companies ↔ name ∈ l'.roster.companies)
    (hplayers : ∀ name, name ∈ l.roster.players ↔ name ∈ l'.roster.players) :
    l.roster = l'.roster := by
  have hsorted {names names' : List String}
      (h : names.Pairwise fun a b => Text.bytes a < Text.bytes b)
      (h' : names'.Pairwise fun a b => Text.bytes a < Text.bytes b)
      (hmem : ∀ name, name ∈ names ↔ name ∈ names') : names = names' := by
    have hne {a b : String} (hlt : Text.bytes a < Text.bytes b) : a ≠ b := by
      rintro rfl
      exact List.lt_irrefl _ hlt
    refine List.Perm.eq_of_pairwise (fun a b _ _ hab hba => ?_) h h' ?_
    · exact absurd hba (List.lt_asymm hab)
    · exact (List.perm_ext_iff_of_nodup (h.imp hne) (h'.imp hne)).2 hmem
  have hp := hsorted l.pairwise_bytes_players l'.pairwise_bytes_players hplayers
  have hc := hsorted l.pairwise_bytes_companies l'.pairwise_bytes_companies hcompanies
  exact congrArg₂ Roster.mk hp hc

/-! ## Companies in the stages of an operation -/

/-- A trade enters its company in a share list. -/
theorem hasShareEntry_trade (l : Ledger) (t : Trade) :
    (l.trade t).hasShareEntry name = true ↔ t.company = name ∨ l.hasShareEntry name = true := by
  simp only [hasShareEntry_iff, portfolio, trade, setHolding, Book.get?_insert]
  constructor
  · rintro ⟨owner, howner⟩
    by_cases h : owner = t.owner
    · simp only [h, if_true, Option.getD_some, Book.contains_insert, Bool.or_eq_true,
        decide_eq_true_eq] at howner
      exact howner.imp Eq.symm fun hentry => ⟨t.owner, hentry⟩
    · rw [if_neg h] at howner
      exact .inr ⟨owner, howner⟩
  · rintro (rfl | ⟨owner, howner⟩)
    · exact ⟨t.owner, by simp [Book.contains_insert]⟩
    · refine ⟨owner, ?_⟩
      by_cases h : owner = t.owner
      · rw [h] at howner
        simp [h, Book.contains_insert, howner]
      · rwa [if_neg h]

theorem mem_companies_tradeAll (l : Ledger) (ts : List Trade) :
    name ∈ (l.tradeAll ts).roster.companies ↔
      name ∈ l.roster.companies ∨ ∃ t ∈ ts, t.company = name := by
  induction ts generalizing l with
  | nil => simp
  | cons t ts ih =>
      have hfloated : (l.trade t).isFloated name = l.isFloated name := rfl
      rw [tradeAll_cons, ih, mem_companies, mem_companies, hfloated, hasShareEntry_trade]
      simp only [List.exists_mem_cons_iff]
      grind

/-- Credits make nobody a company. -/
theorem mem_companies_creditAll (l : Ledger) (cs : List (String × Amount)) :
    name ∈ (l.creditAll cs).roster.companies ↔ name ∈ l.roster.companies := by
  rw [mem_companies, mem_companies, isFloated_creditAll, hasShareEntry, creditAll_shares]
  rfl

/-- Settling floats a company or takes one out of the game, and touches no other one. -/
theorem mem_companies_settle (op : Operation) (l : Ledger) :
    name ∈ (op.settle l).roster.companies ↔ op.closes ≠ some name ∧
      (name ∈ l.roster.companies ∨ ∃ n, op = .float name n) := by
  cases op with
  | close company =>
      have hfloated : ((Operation.close company).settle l).isFloated name =
          (!decide (name = company) && l.isFloated name) :=
        Book.contains_erase l.treasuries company name
      have hentry : ((Operation.close company).settle l).hasShareEntry name = true ↔
          name ≠ company ∧ l.hasShareEntry name = true := by
        simp only [hasShareEntry_iff_get?, Operation.settle, Book.get?_map,
          Option.map_eq_some_iff]
        constructor
        · rintro ⟨owner, _, ⟨owned, howner, rfl⟩, hname⟩
          simp only [Book.contains_erase, Bool.and_eq_true, Bool.not_eq_true',
            decide_eq_false_iff_not] at hname
          exact ⟨hname.1, owner, owned, howner, hname.2⟩
        · rintro ⟨hne, owner, owned, howner, hname⟩
          exact ⟨owner, _, ⟨owned, howner, rfl⟩, by simp [Book.contains_erase, hne, hname]⟩
      rw [mem_companies, mem_companies, hfloated, hentry]
      simp only [Operation.closes, ne_eq, Option.some.injEq, eq_comm (a := company)]
      grind
  | float company n =>
      have hfloated : ((Operation.float company n).settle l).isFloated name =
          (decide (name = company) || l.isFloated name) :=
        Book.contains_insert l.treasuries company name n
      have hentry : ((Operation.float company n).settle l).hasShareEntry name =
          l.hasShareEntry name := rfl
      rw [mem_companies, mem_companies, hfloated, hentry]
      simp only [Operation.closes, Operation.float.injEq]
      grind
  | setValue _ value | setIncome _ value => 
      cases value <;> simp [Operation.closes] <;> rfl
  | _ => simp [Operation.closes]; rfl

/-- **The companies after an operation** are those before it and the one that it enrols, except the
one that it closes. -/
theorem mem_companies_run (h : l.run op = .ok p) :
    name ∈ p.ledger.roster.companies ↔
      op.closes ≠ some name ∧ (name ∈ l.roster.companies ∨ op.enrols = some name) := by
  rw [run_stages h, mem_companies_settle, mem_companies_creditAll, mem_companies_tradeAll,
    Operation.enrols_eq_iff, or_assoc]

/-! ## Parties in an operation -/

/-- Only closing takes away an entry of cash. -/
theorem contains_cash_run (h : l.run op = .ok p) (hclose : op.closes ≠ some name)
    (hcash : l.cash.contains name = true) : p.ledger.cash.contains name = true := by
  have htraded : (l.tradeAll op.trades).cash.contains name = true := by
    rw [tradeAll_eq]
    exact hcash
  have hcredited : ((l.tradeAll op.trades).creditAll (l.credits op)).cash.contains name = true := by
    cases hfloated : (l.tradeAll op.trades).isFloated name with
    | true => rwa [Book.contains, get?_cash_creditAll hfloated]
    | false => exact (contains_cash_creditAll hfloated _).2 (.inl htraded)
  rw [run_stages h]
  cases op with
  | close company =>
      have hne : name ≠ company := by
        rintro rfl
        exact hclose rfl
      simpa [Operation.settle, Book.contains_erase, hne] using hcredited
  | setValue _ value | setIncome _ value => cases value <;> exact hcredited
  | _ => exact hcredited

/-- Only closing takes a party out of the game. -/
theorem mem_parties_run (h : l.run op = .ok p) (hclose : op.closes ≠ some name)
    (hname : name ∈ l.roster.parties) : name ∈ p.ledger.roster.parties := by
  rw [mem_parties] at hname ⊢
  obtain hcash | hlist | hcompany := hname
  · exact .inl (contains_cash_run h hclose hcash)
  · have hkept := contains_shares_run h name
    rw [hlist, Bool.true_or] at hkept
    exact .inr (.inl hkept)
  · exact .inr (.inr ((mem_companies_run h).2 ⟨hclose, .inl hcompany⟩))

/-- How the parties develop in an operation. -/
theorem develops_run (h : l.run op = .ok p) :
    l.roster.Develops p.ledger.roster (op.closes = some ·) (op.enrols = some ·) where
  party _ hname hclose := mem_parties_run h hclose hname
  company _ hname hclose := (mem_companies_run h).2 ⟨hclose, .inl hname⟩
  enters _ hname hnot := ((mem_companies_run h).1 hname).2.resolve_left hnot

/-! ## Parties in commands and runs -/

/-- A command closes the company that it names. -/
theorem closes_operation {log : List String} {a : Action} (hop : a.operation log = .ok op)
    (h : op.closes = some name) : a.verb = some .close ∧ a.object = some name := by
  cases op with
  | close company =>
      obtain rfl := Option.some.inj h
      exact ⟨Action.verb_eq_of_operation hop, (tradedCompany_operation hop rfl).2⟩
  | _ => cases h

/-- A command enrols the company that it floats or the one whose shares it buys or sells. -/
theorem enrols_operation {log : List String} {a : Action} (hop : a.operation log = .ok op)
    (h : op.enrols = some name) : a.verb = some .float ∧ a.subject = some name ∨
      (a.verb = some .buy ∨ a.verb = some .sell) ∧ a.object = some name := by
  have hverb := Action.verb_eq_of_operation hop
  cases op with
  | float company n =>
      obtain rfl := Option.some.inj h
      rw [Action.operation, show a.verb = some .float from hverb] at hop
      obtain ⟨_, -, hop⟩ := bind_eq_ok.1 hop
      obtain ⟨_, hsubject, hop⟩ := bind_eq_ok.1 hop
      cases hop
      exact .inl ⟨hverb, Action.needSubject_eq_ok.1 hsubject⟩
  | buy | sell => exact .inr ⟨by simp [hverb, Operation.verb], (tradedCompany_operation hop h).2⟩
  | changeShares owner company delta =>
      -- No action changes shares by itself.
      rw [Action.operation, show a.verb = none from hverb] at hop
      cases hop
  | _ => cases h

/-- How the parties develop in a command. -/
theorem develops_apply {log : List String} {a : Action} (h : l.apply log a = .ok p) :
    l.roster.Develops p.ledger.roster
      (fun name => a.verb = some .close ∧ a.object = some name)
      (fun name => a.verb = some .float ∧ a.subject = some name ∨
        (a.verb = some .buy ∨ a.verb = some .sell) ∧ a.object = some name) := by
  obtain ⟨op, hop, hrun⟩ := exists_operation_of_apply h
  exact (develops_run hrun).imp (fun _ => closes_operation hop) (fun _ => enrols_operation hop)

/-- How the parties develop in an operation that may be refused. -/
theorem develops_after (l : Ledger) (op : Operation) :
    l.roster.Develops (l.after op).roster (op.closes = some ·) (op.enrols = some ·) := by
  unfold after
  cases hrun : l.run op with
  | ok p => exact develops_run hrun
  | error e => exact .refl _ _ _

/-- How the parties develop in a run. -/
theorem develops_afterAll (l : Ledger) (ops : List Operation) :
    l.roster.Develops (l.afterAll ops).roster (fun name => ∃ op ∈ ops, op.closes = some name)
      (fun name => ∃ op ∈ ops, op.enrols = some name) := by
  induction ops generalizing l with
  | nil => exact .refl _ _ _
  | cons op ops ih =>
      refine .trans ((l.develops_after op).imp ?_ ?_) ((ih (l.after op)).imp ?_ ?_)
      · exact fun _ hclosed => ⟨op, List.mem_cons_self, hclosed⟩
      · exact fun _ henrolled => ⟨op, List.mem_cons_self, henrolled⟩
      · exact fun _ => List.exists_mem_cons_of_exists
      · exact fun _ => List.exists_mem_cons_of_exists

/-! ## The law -/

/-- **Players and companies.**  In every ledger the two lists stand in the order of the names' bytes
and have no name twice and no name in common.  Together they are the names in the keys of the
ledger, and the companies are those that are floated or stand in a share list.  In every command
and every run only a party that is closed may leave or stop being a company, and only a name that
is floated or traded as a company becomes one. -/
theorem roster_partition (l : Ledger) :
    ((l.roster.players.Pairwise fun a b => Text.bytes a < Text.bytes b) ∧
      (l.roster.companies.Pairwise fun a b => Text.bytes a < Text.bytes b)) ∧
    (l.roster.players.Nodup ∧ l.roster.companies.Nodup ∧
      ∀ name ∈ l.roster.players, name ∉ l.roster.companies) ∧
    (∀ name, name ∈ l.roster.players ∨ name ∈ l.roster.companies ↔
      l.cash.contains name = true ∨ l.treasuries.contains name = true ∨
        l.shares.contains name = true ∨
        ∃ owner owned, l.shares.get? owner = some owned ∧ owned.contains name = true) ∧
    (∀ name, name ∈ l.roster.companies ↔ l.isFloated name = true ∨
      ∃ owner owned, l.shares.get? owner = some owned ∧ owned.contains name = true) ∧
    (∀ log a p, l.apply log a = .ok p → l.roster.Develops p.ledger.roster
      (fun name => a.verb = some .close ∧ a.object = some name)
      (fun name => a.verb = some .float ∧ a.subject = some name ∨
        (a.verb = some .buy ∨ a.verb = some .sell) ∧ a.object = some name)) ∧
    ∀ ops, l.roster.Develops (l.afterAll ops).roster
      (fun name => ∃ op ∈ ops, op.closes = some name)
      (fun name => ∃ op ∈ ops, op.enrols = some name) := by
  obtain ⟨hplayers, hcompanies, -⟩ := List.nodup_append.1 l.nodup_parties
  have hcompany (name : String) : name ∈ l.roster.companies ↔ l.isFloated name = true ∨
      ∃ owner owned, l.shares.get? owner = some owned ∧ owned.contains name = true := by
    rw [mem_companies, hasShareEntry_iff_get?]
  have hparty (name : String) : name ∈ l.roster.players ∨ name ∈ l.roster.companies ↔
      l.cash.contains name = true ∨ l.treasuries.contains name = true ∨
        l.shares.contains name = true ∨
        ∃ owner owned, l.shares.get? owner = some owned ∧ owned.contains name = true := by
    have hfloated : l.isFloated name = l.treasuries.contains name := rfl
    rw [← List.mem_append, ← Roster.parties, mem_parties, hcompany, hfloated]
    exact or_congr_right or_left_comm
  exact ⟨⟨l.pairwise_bytes_players, l.pairwise_bytes_companies⟩,
    ⟨hplayers, hcompanies, fun name hname => (mem_players.1 hname).2⟩, hparty, hcompany,
    fun log a p => develops_apply, l.develops_afterAll⟩

/-- Who sells shares of a player, be it without having any, makes it a company and stays a party. -/
theorem roster_partition_sold :
    let l := (empty "$").afterAll [.changeCash "CR" 5, .changeCash "MIKKO" 10]
    let a := Action.read "mikko sell 2 cr"
    l.roster = ⟨["CR", "MIKKO"], []⟩ ∧ ∃ p, l.apply [] a = .ok p ∧ p.ledger.holding "MIKKO" "CR" = 0 ∧
      "MIKKO" ∈ p.ledger.roster.parties ∧ "CR" ∈ p.ledger.roster.companies ∧
      (a.verb = some .buy ∨ a.verb = some .sell) ∧ a.object = some "CR" := by
  intro l a
  obtain ⟨p, happly, hcompany, hholding⟩ : ∃ p, l.apply [] a = .ok p ∧
      "CR" ∈ p.ledger.roster.companies ∧ p.ledger.holding "MIKKO" "CR" = 0 := by
    have hop : a.operation [] = .ok (.sell "MIKKO" "CR" 2 0) := by decide +kernel
    refine ⟨l.sellShares "MIKKO" "CR" 2 0, ?_, by decide +kernel, by decide +kernel⟩
    rw [apply_eq, hop]
    rfl
  have hverb : a.verb ≠ some .float ∧ a.verb ≠ some .close := by decide +kernel
  obtain ⟨-, -, -, -, hcommand, -⟩ := roster_partition l
  have hdevelops := hcommand [] a p happly
  refine ⟨by decide +kernel, p, happly, hholding, ?_, hcompany, ?_⟩
  · exact hdevelops.party "MIKKO" (by decide +kernel) fun hclosed => hverb.2 hclosed.1
  · obtain ⟨hfloat, -⟩ | htraded := hdevelops.enters "CR" hcompany (by decide +kernel)
    · exact absurd hfloat hverb.1
    · exact htraded

end Ledger
end ShareLedger
