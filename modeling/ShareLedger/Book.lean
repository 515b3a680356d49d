/-!
# Book

A finite map from names to values that lists its entries in the order of the names.

1. Names are ordered as strings are: by code point, which is also the order of their UTF-8 bytes.
2. The entries are strictly increasing in the name, so a book has one form only: two books with the
   same look-ups are equal (`Book.ext_get?`).
3. Every operation is described by what `get?` says afterwards (`get?_insert`, `get?_erase`,
   `get?_map`).
-/

namespace ShareLedger

/-- Names with a value each, strictly increasing in the name. -/
structure Book (α : Type) where
  /-- The entries in the order of their names. -/
  entries : List (String × α)
  increasing : entries.Pairwise (·.1 < ·.1)
deriving DecidableEq

namespace Book

variable {α β : Type}

/-! ## Entry lists -/

/-- The first value filed under a name. -/
def lookup (name : String) : List (String × α) → Option α
  | [] => none
  | (other, value) :: rest => if name = other then some value else lookup name rest

/-- Files a value under a name, in place of the value filed there. -/
def insertEntry (name : String) (value : α) : List (String × α) → List (String × α)
  | [] => [(name, value)]
  | (other, old) :: rest =>
    if name = other then (name, value) :: rest
    else if name < other then (name, value) :: (other, old) :: rest
    else (other, old) :: insertEntry name value rest

/-- Drops the entry of a name. -/
def eraseEntry (name : String) : List (String × α) → List (String × α)
  | [] => []
  | (other, value) :: rest =>
    if name = other then rest else (other, value) :: eraseEntry name rest

theorem mem_insertEntry {name : String} {value : α} {entries : List (String × α)}
    {e : String × α} (h : e ∈ insertEntry name value entries) :
    e = (name, value) ∨ e ∈ entries := by
  induction entries with
  | nil => simpa [insertEntry] using h
  | cons head rest ih =>
    simp only [insertEntry] at h
    split at h
    · rcases List.mem_cons.1 h with h | h
      · exact .inl h
      · exact .inr (List.mem_cons_of_mem _ h)
    · split at h
      · exact (List.mem_cons.1 h).imp_right id
      · rcases List.mem_cons.1 h with h | h
        · exact .inr (h ▸ List.mem_cons_self)
        · exact (ih h).imp_right (List.mem_cons_of_mem _)

theorem mem_of_mem_eraseEntry {name : String} {entries : List (String × α)} {e : String × α}
    (h : e ∈ eraseEntry name entries) : e ∈ entries := by
  induction entries with
  | nil => exact h
  | cons head rest ih =>
    simp only [eraseEntry] at h
    split at h
    · exact List.mem_cons_of_mem _ h
    · rcases List.mem_cons.1 h with h | h
      · exact h ▸ List.mem_cons_self
      · exact List.mem_cons_of_mem _ (ih h)

theorem lt_of_not_lt_of_ne {a b : String} (hlt : ¬ a < b) (hne : a ≠ b) : b < a := by
  rcases Std.le_total (a := a) (b := b) with h | h
  · exact absurd (Std.lt_of_le_of_ne h hne) hlt
  · exact Std.lt_of_le_of_ne h (Ne.symm hne)

theorem increasing_insertEntry {name : String} {value : α} {entries : List (String × α)}
    (h : entries.Pairwise (·.1 < ·.1)) : (insertEntry name value entries).Pairwise (·.1 < ·.1) := by
  induction entries with
  | nil => simp [insertEntry]
  | cons head rest ih =>
    obtain ⟨hhead, hrest⟩ := List.pairwise_cons.1 h
    simp only [insertEntry]
    split
    · next heq => exact List.pairwise_cons.2 ⟨fun e he => heq ▸ hhead e he, hrest⟩
    · next hne =>
      split
      · next hlt =>
        refine List.pairwise_cons.2 ⟨fun e he => ?_, h⟩
        rcases List.mem_cons.1 he with rfl | he
        · exact hlt
        · exact String.lt_trans hlt (hhead e he)
      · next hnlt =>
        refine List.pairwise_cons.2 ⟨fun e he => ?_, ih hrest⟩
        rcases mem_insertEntry he with rfl | he
        · exact lt_of_not_lt_of_ne hnlt hne
        · exact hhead e he

theorem increasing_eraseEntry {name : String} {entries : List (String × α)}
    (h : entries.Pairwise (·.1 < ·.1)) : (eraseEntry name entries).Pairwise (·.1 < ·.1) := by
  induction entries with
  | nil => exact h
  | cons head rest ih =>
    obtain ⟨hhead, hrest⟩ := List.pairwise_cons.1 h
    simp only [eraseEntry]
    split
    · exact hrest
    · exact List.pairwise_cons.2 ⟨fun e he => hhead e (mem_of_mem_eraseEntry he), ih hrest⟩

/-! ## Operations -/

/-- The book without entries. -/
def empty : Book α := ⟨[], List.Pairwise.nil⟩

instance : EmptyCollection (Book α) := ⟨empty⟩
instance : Inhabited (Book α) := ⟨empty⟩

/-- The value filed under a name. -/
def get? (book : Book α) (name : String) : Option α := lookup name book.entries

/-- Whether anything is filed under a name. -/
def contains (book : Book α) (name : String) : Bool := (book.get? name).isSome

/-- Files a value under a name, in place of the value filed there. -/
def insert (book : Book α) (name : String) (value : α) : Book α :=
  ⟨insertEntry name value book.entries, increasing_insertEntry book.increasing⟩

/-- Drops the entry of a name. -/
def erase (book : Book α) (name : String) : Book α :=
  ⟨eraseEntry name book.entries, increasing_eraseEntry book.increasing⟩

/-- Changes every value and keeps the names. -/
def map (book : Book α) (f : α → β) : Book β where
  entries := book.entries.map fun e => (e.1, f e.2)
  increasing := List.pairwise_map.2 book.increasing

/-- A book of the given entries; of two values under one name the later one stays. -/
def ofList (entries : List (String × α)) : Book α :=
  entries.foldl (fun book e => book.insert e.1 e.2) ∅

/-- The names in order. -/
def names (book : Book α) : List String := book.entries.map (·.1)

/-- The values in the order of their names. -/
def values (book : Book α) : List α := book.entries.map (·.2)

/-- The number of names. -/
def size (book : Book α) : Nat := book.entries.length

/-- Names in order, each of them once. -/
def sortNames (names : List String) : List String :=
  (ofList (names.map fun name => (name, ()))).names

/-! ## What the operations do to look-ups -/

theorem lookup_insertEntry (name other : String) (value : α) (entries : List (String × α)) :
    lookup other (insertEntry name value entries) =
      if other = name then some value else lookup other entries := by
  induction entries with
  | nil => simp [insertEntry, lookup]
  | cons head rest ih =>
    simp only [insertEntry]
    split
    · next h => by_cases ho : other = name <;> simp [lookup, ← h, ho]
    · next h =>
      split
      · simp [lookup]
      · by_cases ho : other = head.1
        · have hne : other ≠ name := fun e => h (e ▸ ho)
          simp [lookup, ho, ho ▸ hne]
        · simp [lookup, ho, ih]

theorem lookup_eq_none_of_lt {name : String} {entries : List (String × α)}
    (h : ∀ e ∈ entries, name < e.1) : lookup name entries = none := by
  induction entries with
  | nil => rfl
  | cons head rest ih =>
    have hne : name ≠ head.1 := fun e => by
      have hlt := h head List.mem_cons_self
      rw [e] at hlt
      exact String.lt_irrefl _ hlt
    simp [lookup, hne, ih fun e he => h e (List.mem_cons_of_mem _ he)]

theorem lookup_eraseEntry (name other : String) {entries : List (String × α)}
    (hinc : entries.Pairwise (·.1 < ·.1)) :
    lookup other (eraseEntry name entries) =
      if other = name then none else lookup other entries := by
  induction entries with
  | nil => simp [eraseEntry, lookup]
  | cons head rest ih =>
    obtain ⟨hhead, hrest⟩ := List.pairwise_cons.1 hinc
    simp only [eraseEntry]
    split
    · next h =>
      by_cases ho : other = name
      · simp [ho, lookup_eq_none_of_lt fun e he => (h ▸ hhead e he : name < e.1)]
      · simp [lookup, ← h, ho]
    · next h =>
      by_cases ho : other = head.1
      · have hne : other ≠ name := fun e => h (e ▸ ho)
        simp [lookup, ho, ho ▸ hne]
      · simp [lookup, ho, ih hrest]

@[simp] theorem get?_empty (name : String) : (∅ : Book α).get? name = none := rfl

theorem get?_insert (book : Book α) (name other : String) (value : α) :
    (book.insert name value).get? other = if other = name then some value else book.get? other :=
  lookup_insertEntry name other value book.entries

theorem get?_erase (book : Book α) (name other : String) :
    (book.erase name).get? other = if other = name then none else book.get? other :=
  lookup_eraseEntry name other book.increasing

@[simp] theorem get?_map (book : Book α) (f : α → β) (name : String) :
    (book.map f).get? name = (book.get? name).map f := by
  have aux (entries : List (String × α)) :
      lookup name (entries.map fun e => (e.1, f e.2)) = (lookup name entries).map f := by
    induction entries with
    | nil => rfl
    | cons head rest ih => by_cases h : name = head.1 <;> simp [lookup, h, ih]
  exact aux book.entries

theorem entries_eq_of_lookup_eq {as bs : List (String × α)} (ha : as.Pairwise (·.1 < ·.1))
    (hb : bs.Pairwise (·.1 < ·.1)) (h : ∀ name, lookup name as = lookup name bs) : as = bs := by
  induction as generalizing bs with
  | nil =>
    cases bs with
    | nil => rfl
    | cons b bs => simpa [lookup] using h b.1
  | cons a as ih =>
    cases bs with
    | nil => simpa [lookup] using h a.1
    | cons b bs =>
      obtain ⟨haHead, haRest⟩ := List.pairwise_cons.1 ha
      obtain ⟨hbHead, hbRest⟩ := List.pairwise_cons.1 hb
      have hname : a.1 = b.1 := by
        apply Classical.byContradiction
        intro hne
        by_cases hlt : a.1 < b.1
        · have hbs : lookup a.1 (b :: bs) = none := lookup_eq_none_of_lt fun e he => by
            rcases List.mem_cons.1 he with rfl | he
            · exact hlt
            · exact String.lt_trans hlt (hbHead e he)
          have := h a.1
          rw [hbs] at this
          simp [lookup] at this
        · have hgt := lt_of_not_lt_of_ne hlt hne
          have has : lookup b.1 (a :: as) = none := lookup_eq_none_of_lt fun e he => by
            rcases List.mem_cons.1 he with rfl | he
            · exact hgt
            · exact String.lt_trans hgt (haHead e he)
          have := h b.1
          rw [has] at this
          simp [lookup] at this
      have hvalue : a.2 = b.2 := by simpa [lookup, hname] using h a.1
      have hrest : as = bs := ih haRest hbRest fun name => by
        by_cases hn : name = a.1
        · rw [lookup_eq_none_of_lt (fun e he => hn ▸ haHead e he),
            lookup_eq_none_of_lt (fun e he => hn ▸ hname ▸ hbHead e he)]
        · simpa [lookup, hn, hname ▸ hn] using h name
      rw [hrest, Prod.ext hname hvalue]

/-- A book is determined by its look-ups. -/
theorem ext_get? {a b : Book α} (h : ∀ name, a.get? name = b.get? name) : a = b := by
  cases a; cases b
  congr
  exact entries_eq_of_lookup_eq ‹_› ‹_› h

end Book
end ShareLedger
