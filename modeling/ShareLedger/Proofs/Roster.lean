import ShareLedger.Ledger
/-!
# Proofs.Roster

Who is in the roster of a ledger.

1. The names of a book are those that it answers for, each of them once (`Book.mem_names`,
   `Book.nodup_names`); sorting names drops none and adds none (`Book.mem_sortNames`).
2. A company is a name that is floated or stands in somebody's share list; a player is any other
   name that has cash or a share list of its own (`Ledger.mem_companies`, `Ledger.mem_players`).
3. No name is in the roster twice (`Ledger.nodup_parties`).
-/

namespace ShareLedger

namespace Book

variable {α : Type}

/-! ## Names and values -/

theorem isSome_lookup {name : String} {entries : List (String × α)} :
    (lookup name entries).isSome = true ↔ name ∈ entries.map (·.1) := by
  induction entries with
  | nil => simp [lookup]
  | cons head rest ih =>
      by_cases h : name = head.1
      · simp [lookup, h]
      · simp [lookup, h, ih]

/-- The names of a book are those under which something is filed. -/
theorem mem_names {book : Book α} {name : String} : name ∈ book.names ↔ book.contains name = true :=
  isSome_lookup.symm

theorem nodup_names (book : Book α) : book.names.Nodup := by
  refine List.Pairwise.imp ?_ (List.pairwise_map.2 book.increasing)
  rintro a b hlt rfl
  exact String.lt_irrefl a hlt

/-- The entries of a book are what it answers with. -/
theorem mem_entries {book : Book α} {name : String} {value : α} :
    (name, value) ∈ book.entries ↔ book.get? name = some value := by
  have aux {entries : List (String × α)} (hinc : entries.Pairwise (·.1 < ·.1)) :
      (name, value) ∈ entries ↔ lookup name entries = some value := by
    induction entries with
    | nil => simp [lookup]
    | cons head rest ih =>
        obtain ⟨hhead, hrest⟩ := List.pairwise_cons.1 hinc
        rw [List.mem_cons, ih hrest]
        by_cases h : name = head.1
        · have hnone : lookup name rest = none := lookup_eq_none_of_lt fun e he => h ▸ hhead e he
          simp [lookup, h, Prod.ext_iff, h ▸ hnone, eq_comm]
        · simp [lookup, h, Prod.ext_iff]
  exact aux book.increasing

/-- The values of a book are those that are filed under some name. -/
theorem mem_values {book : Book α} {value : α} :
    value ∈ book.values ↔ ∃ name, book.get? name = some value := by
  simp only [values, List.mem_map, Prod.exists, exists_eq_right, mem_entries]

theorem contains_insert (book : Book α) (name other : String) (value : α) :
    (book.insert name value).contains other = (decide (other = name) || book.contains other) := by
  by_cases h : other = name <;> simp [contains, get?_insert, h]

theorem contains_erase (book : Book α) (name other : String) :
    (book.erase name).contains other = (!decide (other = name) && book.contains other) := by
  by_cases h : other = name <;> simp [contains, get?_erase, h]

@[simp] theorem contains_map {β : Type} (book : Book α) (f : α → β) (name : String) :
    (book.map f).contains name = book.contains name := by
  simp [contains]

theorem contains_ofList {entries : List (String × α)} {name : String} :
    (ofList entries).contains name = true ↔ name ∈ entries.map (·.1) := by
  have aux (book : Book α) :
      (entries.foldl (fun book e => book.insert e.1 e.2) book).contains name = true ↔
        name ∈ entries.map (·.1) ∨ book.contains name = true := by
    induction entries generalizing book with
    | nil => simp
    | cons e entries ih => simp [ih, contains_insert, or_left_comm, or_assoc]
  have hempty : (∅ : Book α).contains name = false := rfl
  rw [ofList, aux ∅, hempty]
  simp

/-- Sorting names drops none and adds none. -/
theorem mem_sortNames {names : List String} {name : String} :
    name ∈ sortNames names ↔ name ∈ names := by
  rw [sortNames, mem_names, contains_ofList]
  simp

end Book

namespace Ledger

/-! ## Companies and players -/

/-- A name stands in a share list exactly when it stands in some owner's one. -/
theorem hasShareEntry_iff {l : Ledger} {company : String} :
    l.hasShareEntry company = true ↔ ∃ owner, (l.portfolio owner).contains company = true := by
  simp only [hasShareEntry, List.any_eq_true, Book.mem_values]
  constructor
  · rintro ⟨owned, ⟨owner, howner⟩, hcompany⟩
    exact ⟨owner, by simpa [portfolio, howner] using hcompany⟩
  · rintro ⟨owner, hcompany⟩
    cases howner : l.shares.get? owner with
    | none => simp [portfolio, howner, Book.contains] at hcompany
    | some owned => exact ⟨owned, ⟨owner, howner⟩, by simpa [portfolio, howner] using hcompany⟩

/-- Companies are floated or stand in a share list. -/
theorem mem_companies {l : Ledger} {name : String} :
    name ∈ l.roster.companies ↔ l.isFloated name = true ∨ l.hasShareEntry name = true := by
  simp only [roster, companyNames, Book.mem_sortNames, List.mem_append, List.mem_flatMap,
    Book.mem_names, hasShareEntry, List.any_eq_true]
  rfl

/-- Players have cash or a share list and are no companies. -/
theorem mem_players {l : Ledger} {name : String} :
    name ∈ l.roster.players ↔
      (l.cash.contains name = true ∨ l.shares.contains name = true) ∧
        name ∉ l.roster.companies := by
  simp only [roster, List.mem_filter, Book.mem_sortNames, List.mem_append, Book.mem_names,
    Bool.not_eq_true', List.contains_eq_mem, decide_eq_false_iff_not]

/-- Nobody is in the roster twice. -/
theorem nodup_parties (l : Ledger) : l.roster.parties.Nodup := by
  refine List.nodup_append.2 ⟨?_, Book.nodup_names _, ?_⟩
  · exact List.Pairwise.filter _ (Book.nodup_names _)
  · rintro player hplayer company hcompany rfl
    exact (mem_players.1 hplayer).2 hcompany

end Ledger
end ShareLedger
