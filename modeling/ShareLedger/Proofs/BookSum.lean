import Mathlib.Algebra.Ring.Int.Defs
import ShareLedger.Book
/-!
# Proofs.BookSum

Sums over the values of a book.  Filing a value changes a sum by the new value less the one that it
replaces; dropping a name takes that name's value off.  A name under which nothing is filed counts
as nothing.
-/

namespace ShareLedger.Book

variable {α β : Type}

/-- The sum of what `f` makes of the values. -/
def sum (f : α → Int) (book : Book α) : Int := (book.values.map f).sum

/-- What `f` makes of the value under a name; nothing when there is none. -/
def part (f : α → Int) (book : Book α) (name : String) : Int := ((book.get? name).map f).getD 0

/-! ## Entry lists -/

theorem sum_insertEntry (f : α → Int) (name : String) (value : α) {entries : List (String × α)}
    (hinc : entries.Pairwise (·.1 < ·.1)) :
    (((insertEntry name value entries).map (·.2)).map f).sum =
      ((entries.map (·.2)).map f).sum - ((lookup name entries).map f).getD 0 + f value := by
  induction entries with
  | nil => simp [insertEntry, lookup]
  | cons head rest ih =>
      obtain ⟨hhead, hrest⟩ := List.pairwise_cons.1 hinc
      have ih := ih hrest
      by_cases hname : name = head.1
      · simp [insertEntry, lookup, hname]
        omega
      · by_cases hlt : name < head.1
        · have hnone : lookup name rest = none :=
            lookup_eq_none_of_lt fun e he => String.lt_trans hlt (hhead e he)
          simp [insertEntry, lookup, hname, hlt, hnone]
          omega
        · simp [insertEntry, lookup, hname, hlt] at ih ⊢
          omega

theorem sum_eraseEntry (f : α → Int) (name : String) (entries : List (String × α)) :
    (((eraseEntry name entries).map (·.2)).map f).sum =
      ((entries.map (·.2)).map f).sum - ((lookup name entries).map f).getD 0 := by
  induction entries with
  | nil => simp [eraseEntry, lookup]
  | cons head rest ih =>
      by_cases hname : name = head.1
      · simp [eraseEntry, lookup, hname]
      · simp [eraseEntry, lookup, hname] at ih ⊢
        omega

/-! ## Books -/

/-- Filing a value adds it and takes off the value that it replaces. -/
theorem sum_insert (f : α → Int) (book : Book α) (name : String) (value : α) :
    (book.insert name value).sum f = book.sum f - book.part f name + f value :=
  sum_insertEntry f name value book.increasing

/-- Dropping a name takes its value off. -/
theorem sum_erase (f : α → Int) (book : Book α) (name : String) :
    (book.erase name).sum f = book.sum f - book.part f name :=
  sum_eraseEntry f name book.entries

theorem sum_map (f : β → Int) (g : α → β) (book : Book α) :
    (book.map g).sum f = book.sum fun value => f (g value) := by
  simp [sum, values, map, Function.comp_def]

/-- A sum of nothing but zeros is zero. -/
theorem sum_eq_zero {f : α → Int} (book : Book α) (h : ∀ value, f value = 0) : book.sum f = 0 := by
  unfold sum
  induction book.values with
  | nil => rfl
  | cons value rest ih => rw [List.map_cons, List.sum_cons, ih, h value]; rfl

end ShareLedger.Book
