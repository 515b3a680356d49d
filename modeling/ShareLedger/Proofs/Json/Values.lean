import ShareLedger.Proofs.Json.Scalars
/-!
# Proofs.Json.Values

The indented text of a value is read as the value.

1. Only values that are made of the kinds of value are looked at, and not what was kept as it was
   written (`Plain`).
2. A value is written from its first character on, so that the blanks in front of it belong to what
   stands around it; a reader drops them (`skip_newLine`, `skip_chars`).
3. The number of calls that a reader is allowed carries the induction.  With as many calls as a
   value has characters it is read, whatever follows it (`Reads`); the items of an array and the
   members of an object each use one more call than the last one.
-/

namespace ShareLedger.Json

/-- A value without parts that were kept as they were written. -/
inductive Plain : Json → Prop
  | null : Plain .null
  | bool (b : Bool) : Plain (.bool b)
  | integer (n : Int) : Plain (.integer n)
  | text (s : String) : Plain (.text s)
  | array {js : List Json} (h : ∀ j ∈ js, Plain j) : Plain (.array js)
  | object {ms : List (String × Json)} (h : ∀ m ∈ ms, Plain m.2) : Plain (.object ms)

/-! ## Blanks -/

theorem skip_newLine (depth : Nat) (cs : List Char) : skip (newLine depth ++ cs) = skip cs := by
  have hblank : ∀ c ∈ newLine depth, isSpace c = true := by
    intro c hc
    obtain rfl | hc := List.mem_cons.1 hc
    · rfl
    · rw [List.eq_of_mem_replicate hc]
      rfl
  exact List.dropWhile_append_of_pos hblank

theorem skip_of_head {c : Char} (cs : List Char) (h : isSpace c = false) :
    skip (c :: cs) = c :: cs :=
  List.dropWhile_cons_of_neg (by simp [h])

/-- A character that an integer can begin with. -/
def Leads (c : Char) : Prop := c = '-' ∨ c.isDigit = true

theorem integerChars_eq_cons (n : Int) : ∃ c cs, integerChars n = c :: cs ∧ Leads c := by
  unfold integerChars
  split
  · exact ⟨_, _, rfl, .inl rfl⟩
  · obtain ⟨c, cs, hcs⟩ := List.exists_cons_of_ne_nil (Nat.toDigits_ne_nil (n := n.natAbs))
    exact ⟨c, cs, hcs, .inr (isDigit_toDigits c (hcs ▸ List.mem_cons_self))⟩

/-- An integer begins with no other character. -/
theorem Leads.ne {c d : Char} (h : Leads c) (hminus : d ≠ '-') (hdigit : d.isDigit = false) :
    c ≠ d := by
  rintro rfl
  obtain rfl | h := h
  · exact hminus rfl
  · rw [hdigit] at h
    cases h

theorem Leads.not_space {c : Char} (h : Leads c) : isSpace c = false := by
  simp [isSpace, h.ne (d := ' '), h.ne (d := '\n'), h.ne (d := '\t'), h.ne (d := '\r')]

/-- A value begins neither with a blank nor with a closing bracket. -/
theorem Plain.chars_eq_cons {j : Json} (h : Plain j) (depth : Nat) :
    ∃ c cs, chars depth j = c :: cs ∧ isSpace c = false ∧ c ≠ ']' := by
  cases h with
  | null | text s | array h | object h =>
      exact ⟨_, _, by unfold chars; rfl, rfl, by decide⟩
  | bool b => cases b <;> exact ⟨_, _, by rw [chars], rfl, by decide⟩
  | integer n =>
      obtain ⟨c, cs, hcs, hleads⟩ := integerChars_eq_cons n
      exact ⟨c, cs, by rw [chars, hcs], hleads.not_space, hleads.ne (by decide) rfl⟩

/-- There are no blanks in front of a value. -/
theorem Plain.skip_chars {j : Json} (h : Plain j) (depth : Nat) (cs : List Char) :
    skip (chars depth j ++ cs) = chars depth j ++ cs := by
  obtain ⟨c, cs', hchars, hspace, -⟩ := h.chars_eq_cons depth
  rw [hchars]
  exact skip_of_head _ hspace

/-- What follows an item or a member does not continue a number. -/
theorem follows_itemsChars (depth : Nat) (js : List Json) (cs : List Char) :
    Follows (itemsChars depth true js ++ cs) := by
  cases js <;> rw [itemsChars] <;> exact ⟨rfl, by decide⟩

theorem follows_membersChars (depth : Nat) (ms : List (String × Json)) (cs : List Char) :
    Follows (membersChars depth true ms ++ cs) := by
  cases ms <;> rw [membersChars] <;> exact ⟨rfl, by decide⟩

/-! ## Reading one kind of value -/

variable {fuel depth : Nat} {j : Json} {js : List Json} {ms : List (String × Json)} {name : String}
  {cs cs' rest : List Char}

/-- Blanks in front of a value are passed over. -/
theorem value_eq_of_skip (h : skip cs = skip cs') : value fuel cs = value fuel cs' := by
  cases fuel with
  | zero => rw [value, value]
  | succ fuel => rw [value, value, h]

/-- What is no text, no array and no object is a word or a number. -/
theorem value_scalar {c : Char} (hspace : isSpace c = false) (hquote : c ≠ '"')
    (hbracket : c ≠ '[') (hbrace : c ≠ '{') : value (fuel + 1) (c :: cs) = scalar (c :: cs) := by
  rw [value, skip_of_head cs hspace]
  split
  · next r h => exact absurd (List.cons.inj h).1 hquote
  · next r h => exact absurd (List.cons.inj h).1 hbracket
  · next r h => exact absurd (List.cons.inj h).1 hbrace
  · rfl

theorem value_integer (n : Int) (h : Follows rest) :
    value (fuel + 1) (integerChars n ++ rest) = some (integer n, rest) := by
  rw [← number_integerChars n h]
  obtain ⟨c, cs, hcs, hleads⟩ := integerChars_eq_cons n
  rw [hcs, List.cons_append, value_scalar hleads.not_space (hleads.ne (by decide) rfl)
    (hleads.ne (by decide) rfl) (hleads.ne (by decide) rfl)]
  simp [scalar, Text.dropLead, (hleads.ne (d := 'n') (by decide) rfl).symm,
    (hleads.ne (d := 't') (by decide) rfl).symm, (hleads.ne (d := 'f') (by decide) rfl).symm]

theorem value_quote (s : String) (rest : List Char) :
    value (fuel + 1) (quote s.toList ++ rest) = some (text s, rest) := by
  have hquoted := quoted_quote s rest
  rw [quote, List.cons_append, List.cons_append, List.append_assoc, List.singleton_append, value,
    skip_of_head _ rfl]
  simp [hquoted]

theorem value_empty_array (rest : List Char) :
    value (fuel + 1) ('[' :: ']' :: rest) = some (array [], rest) := by
  rw [value, skip_of_head _ rfl]
  simp [skip_of_head rest (show isSpace ']' = false from rfl)]

theorem value_array {c : Char} (hskip : skip cs = c :: cs') (hclose : c ≠ ']')
    (hitems : items fuel (c :: cs') = some (js, rest)) :
    value (fuel + 1) ('[' :: cs) = some (array js, rest) := by
  rw [value, skip_of_head _ rfl]
  simp [hskip, hclose, hitems]

theorem value_empty_object (rest : List Char) :
    value (fuel + 1) ('{' :: '}' :: rest) = some (object [], rest) := by
  rw [value, skip_of_head _ rfl]
  simp [skip_of_head rest (show isSpace '}' = false from rfl)]

theorem named_map_some (ms : List (String × Json)) :
    named (ms.map fun m => (some m.1, m.2)) = some ms := by
  induction ms with
  | nil => rfl
  | cons m ms ih => rw [List.map_cons, named, ih, Option.map_some]

theorem value_object {c : Char} (hskip : skip cs = c :: cs') (hclose : c ≠ '}')
    (hmembers : members fuel (c :: cs') = some (ms.map fun m => (some m.1, m.2), rest)) :
    value (fuel + 1) ('{' :: cs) = some (object ms, rest) := by
  rw [value, skip_of_head _ rfl]
  simp [hskip, hclose, hmembers, named_map_some]

/-! ## Reading all values -/

/-- The items of an array from the first one on, up to the closing bracket. -/
def itemsFrom (depth : Nat) (j : Json) (js : List Json) : List Char :=
  chars (depth + 1) j ++ itemsChars depth true js

/-- The members of an object from the first one on, up to the closing brace. -/
def membersFrom (depth : Nat) (name : String) (j : Json) (ms : List (String × Json)) : List Char :=
  quote name.toList ++ ':' :: ' ' :: (chars (depth + 1) j ++ membersChars depth true ms)

theorem itemsChars_cons (depth : Nat) (further : Bool) (j : Json) (js : List Json) :
    itemsChars depth further (j :: js) =
      (if further then [','] else []) ++ (newLine (depth + 1) ++ itemsFrom depth j js) := by
  rw [itemsChars, itemsFrom]
  simp only [List.append_assoc]

theorem membersChars_cons (depth : Nat) (further : Bool) (name : String) (j : Json)
    (ms : List (String × Json)) :
    membersChars depth further ((name, j) :: ms) =
      (if further then [','] else []) ++ (newLine (depth + 1) ++ membersFrom depth name j ms) := by
  rw [membersChars, membersFrom]
  simp only [List.append_assoc, List.cons_append, List.nil_append]

theorem skip_itemsFrom (hj : Plain j) (depth : Nat) (js : List Json) (cs : List Char) :
    skip (itemsFrom depth j js ++ cs) = itemsFrom depth j js ++ cs := by
  rw [itemsFrom, List.append_assoc]
  exact hj.skip_chars (depth + 1) _

theorem skip_membersFrom (depth : Nat) (name : String) (j : Json) (ms : List (String × Json))
    (cs : List Char) :
    skip (membersFrom depth name j ms ++ cs) = membersFrom depth name j ms ++ cs :=
  skip_of_head _ rfl

/-- As many calls as there are characters are enough. -/
structure Reads (fuel : Nat) : Prop where
  value {depth : Nat} {j : Json} {rest : List Char} (hj : Plain j)
    (hfuel : (chars depth j).length ≤ fuel) (hrest : Follows rest) :
    value fuel (chars depth j ++ rest) = some (j, rest)
  items {depth : Nat} {j : Json} {js : List Json} {cs rest : List Char}
    (hjs : ∀ i ∈ j :: js, Plain i) (hfuel : (itemsFrom depth j js).length < fuel)
    (hcs : skip cs = itemsFrom depth j js ++ ']' :: rest) :
    items fuel cs = some (j :: js, rest)
  members {depth : Nat} {name : String} {j : Json} {ms : List (String × Json)}
    {cs rest : List Char} (hms : ∀ m ∈ (name, j) :: ms, Plain m.2)
    (hfuel : (membersFrom depth name j ms).length < fuel)
    (hcs : skip cs = membersFrom depth name j ms ++ '}' :: rest) :
    members fuel cs = some (((name, j) :: ms).map fun m => (some m.1, m.2), rest)

namespace Reads

/-- An array is read when its items are. -/
theorem array_succ (h : Reads fuel) (hjs : ∀ j ∈ js, Plain j)
    (hfuel : (chars depth (array js)).length ≤ fuel + 1) :
    Json.value (fuel + 1) (chars depth (array js) ++ rest) = some (array js, rest) := by
  cases js with
  | nil => rw [chars, itemsChars]; exact value_empty_array rest
  | cons j js =>
      have hj : Plain j := hjs j List.mem_cons_self
      obtain ⟨c, cs, hchars, -, hclose⟩ := hj.chars_eq_cons (depth + 1)
      have hhead : itemsFrom depth j js ++ ']' :: rest =
          c :: (cs ++ itemsChars depth true js ++ ']' :: rest) := by
        simp [itemsFrom, hchars]
      have hskip := (skip_newLine (depth + 1) _).trans (skip_itemsFrom hj depth js (']' :: rest))
      have hlength : (itemsFrom depth j js).length < fuel := by
        rw [chars, itemsChars_cons] at hfuel
        simp [newLine] at hfuel
        omega
      have hitems := h.items hjs hlength (skip_itemsFrom hj depth js (']' :: rest))
      rw [hhead] at hskip hitems
      rw [chars, itemsChars_cons]
      simpa [hhead] using value_array hskip hclose hitems

/-- The items of an array are read when the first one and the others are. -/
theorem items_succ (h : Reads fuel) (hjs : ∀ i ∈ j :: js, Plain i)
    (hfuel : (itemsFrom depth j js).length < fuel + 1)
    (hcs : skip cs = itemsFrom depth j js ++ ']' :: rest) :
    Json.items (fuel + 1) cs = some (j :: js, rest) := by
  have hj : Plain j := hjs j List.mem_cons_self
  have hvalue : Json.value fuel cs = some (j, itemsChars depth true js ++ ']' :: rest) := by
    have hsame : skip cs = skip (itemsFrom depth j js ++ ']' :: rest) := by
      rw [hcs, skip_itemsFrom hj]
    rw [value_eq_of_skip hsame, itemsFrom, List.append_assoc]
    refine h.value hj ?_ (follows_itemsChars _ _ _)
    rw [itemsFrom, List.length_append] at hfuel
    omega
  rw [Json.items, hvalue]
  cases js with
  | nil =>
      have hskip : skip (newLine depth ++ ']' :: rest) = ']' :: rest := by
        rw [skip_newLine, skip_of_head _ rfl]
      simp [itemsChars, hskip]
  | cons j' js =>
      have hjs' := (List.forall_mem_cons.1 hjs).2
      have hj' : Plain j' := hjs' j' List.mem_cons_self
      have hskip := (skip_newLine (depth + 1) _).trans (skip_itemsFrom hj' depth js (']' :: rest))
      have hlength : (itemsFrom depth j' js).length < fuel := by
        rw [itemsFrom, itemsChars_cons] at hfuel
        simp [newLine] at hfuel
        omega
      have hitems := h.items hjs' hlength hskip
      have hcomma : ∀ cs, skip (',' :: cs) = ',' :: cs := fun cs => skip_of_head cs rfl
      simp [itemsChars_cons, hcomma, hitems]

/-- An object is read when its members are. -/
theorem object_succ (h : Reads fuel) (hms : ∀ m ∈ ms, Plain m.2)
    (hfuel : (chars depth (object ms)).length ≤ fuel + 1) :
    Json.value (fuel + 1) (chars depth (object ms) ++ rest) = some (object ms, rest) := by
  cases ms with
  | nil => rw [chars, membersChars]; exact value_empty_object rest
  | cons m ms =>
      obtain ⟨name, j⟩ := m
      have hskip := (skip_newLine (depth + 1) _).trans
        (skip_membersFrom depth name j ms ('}' :: rest))
      have hlength : (membersFrom depth name j ms).length < fuel := by
        rw [chars, membersChars_cons] at hfuel
        simp [newLine] at hfuel
        omega
      have hmembers := h.members hms hlength (skip_membersFrom depth name j ms ('}' :: rest))
      rw [chars, membersChars_cons]
      simpa using value_object hskip (by decide) hmembers

/-- The members of an object are read when the first one and the others are. -/
theorem members_succ (h : Reads fuel) (hms : ∀ m ∈ (name, j) :: ms, Plain m.2)
    (hfuel : (membersFrom depth name j ms).length < fuel + 1)
    (hcs : skip cs = membersFrom depth name j ms ++ '}' :: rest) :
    Json.members (fuel + 1) cs = some (((name, j) :: ms).map fun m => (some m.1, m.2), rest) := by
  have hj : Plain j := hms (name, j) List.mem_cons_self
  -- What stands behind the colon of the first member.
  let behind := chars (depth + 1) j ++ (membersChars depth true ms ++ '}' :: rest)
  have hopen : skip cs = '"' :: (name.toList.flatMap escape ++ '"' :: ':' :: ' ' :: behind) := by
    rw [hcs]
    simp [membersFrom, quote, behind]
  have hvalue : Json.value fuel (' ' :: behind) =
      some (j, membersChars depth true ms ++ '}' :: rest) := by
    have hspace : skip (' ' :: behind) = skip behind := rfl
    rw [value_eq_of_skip hspace]
    refine h.value hj ?_ (follows_membersChars _ _ _)
    simp [membersFrom, quote] at hfuel
    omega
  have hcolon : ∀ cs, skip (':' :: cs) = ':' :: cs := fun cs => skip_of_head cs rfl
  rw [Json.members, hopen]
  simp only [quoted_quote, hcolon, hvalue, Option.bind_eq_bind, Option.bind_some]
  cases ms with
  | nil =>
      have hskip : skip (newLine depth ++ '}' :: rest) = '}' :: rest := by
        rw [skip_newLine, skip_of_head _ rfl]
      simp [membersChars, hskip]
  | cons m ms =>
      obtain ⟨name', j'⟩ := m
      have hms' := (List.forall_mem_cons.1 hms).2
      have hskip := (skip_newLine (depth + 1) _).trans
        (skip_membersFrom depth name' j' ms ('}' :: rest))
      have hlength : (membersFrom depth name' j' ms).length < fuel := by
        rw [membersFrom, membersChars_cons] at hfuel
        simp [newLine] at hfuel
        omega
      have hmembers := h.members hms' hlength hskip
      have hcomma : ∀ cs, skip (',' :: cs) = ',' :: cs := fun cs => skip_of_head cs rfl
      simp [membersChars_cons, hcomma, hmembers]

/-- A value is read when its parts are. -/
theorem value_succ (h : Reads fuel) (hj : Plain j) (hfuel : (chars depth j).length ≤ fuel + 1)
    (hrest : Follows rest) : Json.value (fuel + 1) (chars depth j ++ rest) = some (j, rest) := by
  cases hj with
  | null => rw [chars]; exact value_scalar rfl (by decide) (by decide) (by decide)
  | bool b =>
      cases b <;> rw [chars] <;> exact value_scalar rfl (by decide) (by decide) (by decide)
  | integer n => rw [chars]; exact value_integer n hrest
  | text s => rw [chars]; exact value_quote s rest
  | array hjs => exact h.array_succ hjs hfuel
  | object hms => exact h.object_succ hms hfuel

end Reads

/-- However many calls are allowed, they are enough for as many characters. -/
theorem reads (fuel : Nat) : Reads fuel := by
  induction fuel with
  | zero =>
      refine ⟨fun hj hfuel _ => ?_, fun _ hfuel _ => absurd hfuel (Nat.not_lt_zero _),
        fun _ hfuel _ => absurd hfuel (Nat.not_lt_zero _)⟩
      obtain ⟨c, cs, hchars, -⟩ := hj.chars_eq_cons _
      rw [hchars] at hfuel
      exact absurd hfuel (Nat.not_succ_le_zero _)
  | succ fuel ih => exact ⟨ih.value_succ, ih.items_succ, ih.members_succ⟩

/-- **The indented text of a value is read as the value.** -/
theorem read?_render (hj : Plain j) : read? j.render = some j := by
  have htext : j.render.toList = chars 0 j := String.toList_ofList
  have hfuel : (chars 0 j).length ≤ 2 * j.render.length + 1 := by
    rw [render, String.length_ofList]
    omega
  have hread : value (2 * j.render.length + 1) (chars 0 j ++ []) = some (j, []) :=
    (reads _).value hj hfuel trivial
  rw [List.append_nil] at hread
  rw [read?, htext, hread]
  rfl

end ShareLedger.Json
