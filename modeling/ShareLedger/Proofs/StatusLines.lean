import Mathlib.Data.List.Chain
import ShareLedger.Proofs.Text.Width
import ShareLedger.Proofs.Text.Words
import ShareLedger.StatusBar
/-!
# Proofs.StatusLines

The items of the status bar are packed into lines as densely as their order allows.

1. A packing cuts the items into lines, none of which is empty: a line with several items fits the
   width, and there is no room in it for the first item of the line behind (`StatusBar.Packing`).
2. The loop carries the text of the line that has begun.  Read over the items of that line, it is
   the packing in which an item opens a line only if the line before has no room for it
   (`StatusBar.packAfter_joinWith`).
3. A line grows wider with every item, so there is no other packing
   (`StatusBar.Packing.eq_groupAfter`).
-/

namespace ShareLedger.StatusBar

variable {width : Nat} {group items : List String}

/-! ## Widths of lines -/

theorem standsAlone_gap : ∀ c ∈ gap.toList, Text.StandsAlone c := by
  have hspaces : ∀ c ∈ gap.toList, c = ' ' := by simp [gap]
  exact fun c hc => hspaces c hc ▸ Text.standsAlone_space

theorem divides_gap : Text.Divides gap := Text.divides_of_standsAlone (by decide) standsAlone_gap

theorem width_gap : Text.width gap = 4 := Text.width_of_standsAlone standsAlone_gap

theorem joinWith_concat (hgroup : group ≠ []) (item : String) :
    Text.joinWith gap (group ++ [item]) = Text.joinWith gap group ++ gap ++ item :=
  Text.joinWith_append gap hgroup (List.cons_ne_nil item [])

theorem width_joinWith_concat (hgroup : group ≠ []) (item : String) :
    Text.width (Text.joinWith gap (group ++ [item])) =
      Text.width (Text.joinWith gap group) + 4 + Text.width item := by
  rw [joinWith_concat hgroup, divides_gap, width_gap]

/-- Items that are added to a line do not make it narrower. -/
theorem width_joinWith_le (hgroup : group ≠ []) (more : List String) :
    Text.width (Text.joinWith gap group) ≤ Text.width (Text.joinWith gap (group ++ more)) := by
  cases more with
  | nil => rw [List.append_nil]
  | cons item more =>
      rw [Text.joinWith_append gap hgroup (List.cons_ne_nil item more), divides_gap]
      omega

theorem joinWith_concat_ne_empty {item : String} (h : item ≠ "") (hgroup : group ≠ []) :
    Text.joinWith gap (group ++ [item]) ≠ "" := by
  rw [joinWith_concat hgroup]
  exact fun hempty => h (String.append_eq_empty_iff.1 hempty).2

/-! ## Packings -/

/-- A line has no room for the first item of the line behind it. -/
def Full (width : Nat) (group next : List String) : Prop :=
  ∀ item ∈ next.head?, width < Text.width (Text.joinWith gap group ++ gap ++ item)

/-- Items cut into lines of a width in order, none of them empty and each as full as it can be. -/
structure Packing (width : Nat) (items : List String) (groups : List (List String)) : Prop where
  flatten_eq : groups.flatten = items
  ne_nil : ∀ group ∈ groups, group ≠ []
  fits : ∀ group ∈ groups, 1 < group.length → Text.width (Text.joinWith gap group) ≤ width
  full : groups.IsChain (Full width)

/-- Packs items behind those of a line that has begun. -/
def groupAfter (width : Nat) (group : List String) : List String → List (List String)
  | [] => [group]
  | item :: rest =>
    if width < Text.width (Text.joinWith gap (group ++ [item])) then
      group :: groupAfter width [item] rest
    else groupAfter width (group ++ [item]) rest

/-- The line that has begun is the first one. -/
theorem exists_groupAfter_eq (width : Nat) (group items : List String) :
    ∃ more others, groupAfter width group items = (group ++ more) :: others := by
  induction items generalizing group with
  | nil => exact ⟨[], [], by rw [List.append_nil, groupAfter]⟩
  | cons item items ih =>
      rw [groupAfter]
      split
      · exact ⟨[], groupAfter width [item] items, by rw [List.append_nil]⟩
      · obtain ⟨more, others, heq⟩ := ih (group ++ [item])
        exact ⟨item :: more, others, by rw [heq, List.append_assoc, List.singleton_append]⟩

/-- The loop over the items carries the text of the line that has begun. -/
theorem packAfter_joinWith (hgroup : group ≠ []) (hbegun : Text.joinWith gap group ≠ "")
    (h : ∀ item ∈ items, item ≠ "") :
    packAfter width (Text.joinWith gap group) items =
      (groupAfter width group items).map (Text.joinWith gap) := by
  induction items generalizing group with
  | nil => rw [packAfter, if_neg hbegun, groupAfter, List.map_singleton]
  | cons item items ih =>
      have hitem := h item List.mem_cons_self
      have ih {group : List String} (hgroup : group ≠ []) (hbegun : Text.joinWith gap group ≠ "") :=
        ih hgroup hbegun fun other hother => h other (List.mem_cons_of_mem _ hother)
      rw [packAfter, if_neg hbegun, groupAfter, width_joinWith_concat hgroup,
        ← joinWith_concat hgroup]
      split
      · have hopened := ih (List.cons_ne_nil item []) hitem
        rw [List.map_cons, ← hopened]
        rfl
      · exact ih (by simp) (joinWith_concat_ne_empty hitem hgroup)

/-- An item opens a line only if the line before has no room for it, so the lines are a packing. -/
theorem packing_groupAfter (hgroup : group ≠ [])
    (hfits : 1 < group.length → Text.width (Text.joinWith gap group) ≤ width) :
    Packing width (group ++ items) (groupAfter width group items) := by
  induction items generalizing group with
  | nil =>
      exact ⟨by simp [groupAfter], by simpa [groupAfter] using hgroup,
        by simpa [groupAfter] using hfits, .singleton _⟩
  | cons item items ih =>
      rw [groupAfter]
      split
      case isTrue hwide =>
        have hopened := ih (List.cons_ne_nil item []) (by simp)
        obtain ⟨more, others, heq⟩ := exists_groupAfter_eq width [item] items
        have hfull : Full width group ([item] ++ more) := by
          intro first hfirst
          obtain rfl : item = first := Option.some.inj hfirst
          rwa [← joinWith_concat hgroup]
        refine ⟨?_, List.forall_mem_cons.2 ⟨hgroup, hopened.ne_nil⟩,
          List.forall_mem_cons.2 ⟨hfits, hopened.fits⟩, ?_⟩
        · rw [List.flatten_cons, hopened.flatten_eq, List.singleton_append]
        · have hchain := hopened.full
          rw [heq] at hchain ⊢
          exact .cons_cons hfull hchain
      case isFalse hnarrow =>
        have hne : group ++ [item] ≠ [] := by simp
        have hjoined := ih hne fun _ => Nat.le_of_not_lt hnarrow
        rwa [List.append_assoc, List.singleton_append] at hjoined

/-- The first line of a packing begins with the first item. -/
theorem Packing.exists_eq {first : String} {rest : List String} {groups : List (List String)}
    (h : Packing width (first :: rest) groups) :
    ∃ more others, groups = ([first] ++ more) :: others := by
  have hflatten := h.flatten_eq
  cases groups with
  | nil => cases hflatten
  | cons group others =>
      obtain ⟨item, more, rfl⟩ := List.exists_cons_of_ne_nil (h.ne_nil group List.mem_cons_self)
      obtain ⟨rfl, -⟩ := List.cons.inj hflatten
      exact ⟨more, others, rfl⟩

theorem Packing.eq_nil {groups : List (List String)} (h : Packing width [] groups) :
    groups = [] := by
  cases groups with
  | nil => rfl
  | cons group others =>
      have hempty := (List.append_eq_nil_iff.1 h.flatten_eq).1
      exact absurd hempty (h.ne_nil group List.mem_cons_self)

/-- The lines behind the first one are a packing of their items. -/
theorem Packing.tail {others : List (List String)} (h : Packing width items (group :: others)) :
    Packing width others.flatten others :=
  ⟨rfl, (List.forall_mem_cons.1 h.ne_nil).2, (List.forall_mem_cons.1 h.fits).2, h.full.of_cons⟩

/-- **No other packing begins with the same line.** -/
theorem Packing.eq_groupAfter {more : List String} {others : List (List String)}
    (hgroup : group ≠ []) (h : Packing width (group ++ items) ((group ++ more) :: others)) :
    (group ++ more) :: others = groupAfter width group items := by
  have hflatten : more ++ others.flatten = items := by
    have hwhole := h.flatten_eq
    rw [List.flatten_cons, List.append_assoc] at hwhole
    exact List.append_cancel_left hwhole
  induction items generalizing group more others with
  | nil =>
      obtain ⟨rfl, hothers⟩ := List.append_eq_nil_iff.1 hflatten
      have hbehind := h.tail
      rw [hothers] at hbehind
      rw [hbehind.eq_nil, List.append_nil, groupAfter]
  | cons item items ih =>
      rw [groupAfter]
      cases more with
      | nil =>
          -- The item opens the line behind, so the line that has begun has no room for it.
          rw [List.nil_append] at hflatten
          have hbehind := h.tail
          rw [hflatten] at hbehind
          obtain ⟨more, others, rfl⟩ := hbehind.exists_eq
          rw [List.append_nil] at h ⊢
          have hwide : width < Text.width (Text.joinWith gap (group ++ [item])) := by
            rw [joinWith_concat hgroup]
            exact h.full.rel item rfl
          have hrest : more ++ others.flatten = items := (List.cons.inj hflatten).2
          rw [if_pos hwide, ih (List.cons_ne_nil item []) hbehind hrest]
      | cons first more =>
          -- The item stands in the line that has begun, which is not wider without those behind it.
          obtain ⟨rfl, hrest⟩ := List.cons.inj hflatten
          have hne : group ++ [first] ≠ [] := by simp
          have hjoin : group ++ first :: more = group ++ [first] ++ more := by simp
          have hnarrow : Text.width (Text.joinWith gap (group ++ [first])) ≤ width := by
            have hle := width_joinWith_le hne more
            have hlength := List.length_pos_iff.2 hgroup
            have hfits := h.fits _ List.mem_cons_self (by simp; omega)
            rw [hjoin] at hfits
            exact Nat.le_trans hle hfits
          rw [hjoin] at h ⊢
          rw [List.append_cons] at h
          rw [if_neg (Nat.not_lt.2 hnarrow), ih hne h hrest]

/-! ## The lines of the status bar -/

/-- The status bar of a ledger has no empty item. -/
theorem ne_empty_of_mem_items_ofLedger (l : Ledger) : ∀ item ∈ (ofLedger l).items, item ≠ "" := by
  have hround (r : Round) : r.text ≠ "" := by
    unfold Round.text
    split <;> simp [String.append_eq_empty_iff]
  have hbank : (ofLedger l).bank ≠ "" := by
    dsimp only [ofLedger]
    split <;> simp [String.append_eq_empty_iff]
  have hplayers : ∀ item ∈ (ofLedger l).players, item ≠ "" :=
    List.forall_mem_map.2 fun player _ => by simp [String.append_eq_empty_iff]
  have hcompanies : ∀ item ∈ (ofLedger l).companies, item ≠ "" := by
    intro item hitem
    obtain ⟨company, -, hcompany⟩ := List.mem_filterMap.1 hitem
    obtain ⟨n, -, rfl⟩ := Option.map_eq_some_iff.1 hcompany
    simp [String.append_eq_empty_iff]
  have hrounds : ∀ item ∈ (ofLedger l).round.toList, item ≠ "" := by
    intro item hitem
    obtain ⟨r, -, rfl⟩ := Option.map_eq_some_iff.1 (Option.mem_toList.1 hitem)
    exact hround r
  rw [items]
  simp only [List.forall_mem_append, List.forall_mem_cons]
  exact ⟨⟨hrounds, hbank, hplayers⟩, hcompanies⟩

/-- **The lines of the status bar are the packing of its items.**  There is one packing at every
width, however narrow, and the lines show it: no item is lost, repeated, split or moved, a line with
several items fits, and no line has room for the first item of the next one.  The status bar of a
ledger has no empty item (`ne_empty_of_mem_items_ofLedger`). -/
theorem lines_packed (bar : StatusBar) (width : Nat) (h : ∀ item ∈ bar.items, item ≠ "") :
    ∃ groups, Packing width bar.items groups ∧
      bar.lines width = groups.map (Text.joinWith gap) ∧
      ∀ others, Packing width bar.items others → others = groups := by
  have hne : bar.items ≠ [] := by simp [items]
  obtain ⟨first, rest, hitems⟩ := List.exists_cons_of_ne_nil hne
  rw [lines]
  rw [hitems] at h ⊢
  obtain ⟨hfirst, hrest⟩ := List.forall_mem_cons.1 h
  have hbegun : [first] ≠ [] := List.cons_ne_nil first []
  refine ⟨groupAfter width [first] rest, packing_groupAfter hbegun (by simp), ?_, ?_⟩
  · rw [packAfter, if_pos rfl]
    exact packAfter_joinWith hbegun hfirst hrest
  · intro others hothers
    obtain ⟨more, behind, rfl⟩ := hothers.exists_eq
    exact hothers.eq_groupAfter hbegun

/-- A status bar with an item that is wider than a line and two items that fill one. -/
theorem lines_packed_narrow :
    let bar : StatusBar := ⟨some "SR 1", "BANK £90", ["漢字 £10 (£10)"], ["GT £1", "M £2"]⟩
    (∀ item ∈ bar.items, item ≠ "") ∧
      bar.lines 13 = ["SR 1", "BANK £90", "漢字 £10 (£10)", "GT £1    M £2"] ∧
      ∃ groups, Packing 13 bar.items groups ∧
        bar.lines 13 = groups.map (Text.joinWith gap) ∧
        ∀ others, Packing 13 bar.items others → others = groups := by
  intro bar
  have hitems : ∀ item ∈ bar.items, item ≠ "" := by decide
  exact ⟨hitems, by decide +kernel, lines_packed bar 13 hitems⟩

end ShareLedger.StatusBar
