import AssignmentGrid.Proofs.FilteredRows
import AssignmentGrid.Proofs.HeldMoves
import AssignmentGrid.Proofs.Reachable
import AssignmentGrid.Proofs.References

/-!
# Vertical moves

An arrow that goes up or down moves the selection along the held rows of all people. The rows that
are shown are some of them in the same order, so the arrow arrives where it would arrive among the
shown rows, unless a row that is not shown lies in between. Specification `SPEC_FULL.md:324–326`.
-/

namespace AssignmentGrid

/-! ### Neighbours -/

/-- Where a vertical arrow leads from the first row with a key, among rows in their order. -/
inductive Leads (rows : List RowKey) (key : RowKey) : Direction → RowKey → Prop
  | top {after : List RowKey} (h : rows = key :: after) : Leads rows key .up key
  | up {before after : List RowKey} {previous : RowKey}
      (h : rows = before ++ previous :: key :: after) (hfirst : key ∉ before ++ [previous]) :
      Leads rows key .up previous
  | down {before after : List RowKey} {next : RowKey} (h : rows = before ++ key :: next :: after)
      (hfirst : key ∉ before) : Leads rows key .down next
  | bottom {before : List RowKey} (h : rows = before ++ [key]) (hfirst : key ∉ before) :
      Leads rows key .down key

section

variable {size place : Nat}

/-- An arrow up leads one place back, but not beyond the first. -/
theorem clampedMove_up (hsize : size < 2 ^ 63) (h : place < size) :
    clampedMove size place Direction.up.delta = .ok (place - 1) := by
  have hdelta : Direction.up.delta.toInt = -1 := by decide
  rw [clampedMove_of_fits (by omega) (by omega), hdelta, heldPlace]
  congr 1
  omega

/-- An arrow down leads one place on, but not beyond the last. -/
theorem clampedMove_down (hsize : size < 2 ^ 63) (h : place < size) :
    clampedMove size place Direction.down.delta = .ok (min (place + 1) (size - 1)) := by
  have hdelta : Direction.down.delta.toInt = 1 := by decide
  rw [clampedMove_of_fits (by omega) (by omega), hdelta, heldPlace]
  congr 1
  omega

end

/-- The place of a row is where it occurs first. -/
theorem idxOf?_append_cons {before after : List RowKey} {key : RowKey} (hfirst : key ∉ before) :
    (before ++ key :: after).idxOf? key = some before.length := by
  rw [List.idxOf?_eq_some_iff]
  refine ⟨by simp, by simp, fun j hj hkey ↦ hfirst ?_⟩
  rw [List.getElem_append_left hj] at hkey
  exact hkey ▸ List.getElem_mem hj

/-- A vertical arrow finds the neighbour among the held rows. -/
theorem Roster.exists_leads {r : Roster} {key : RowKey} (hkey : key ∈ r.order)
    (hsize : r.order.length < 2 ^ 63) {d : Direction} (hd : d.isHorizontal = false) :
    ∃ row, r.neighbor key d.delta = .ok (some row) ∧ Leads r.order key d row := by
  obtain ⟨before, after, horder, hfirst⟩ := List.eq_append_cons_of_mem hkey
  have hlength : r.order.length = before.length + (after.length + 1) := by
    rw [horder, List.length_append, List.length_cons]
  have hneighbor : r.neighbor key d.delta =
      (clampedMove r.order.length before.length d.delta).map fun q ↦ r.order[q]? := by
    unfold neighbor
    rw [horder, idxOf?_append_cons hfirst]
  cases d with
  | left => cases hd
  | right => cases hd
  | up =>
    rw [clampedMove_up hsize (by omega)] at hneighbor
    -- At the top the place stays, because natural numbers are subtracted.
    rcases before.eq_nil_or_concat with rfl | ⟨init, previous, rfl⟩
    · exact ⟨key, hneighbor.trans (by simp [Except.map, horder]), .top horder⟩
    · rw [List.concat_eq_append] at horder hfirst hneighbor
      rw [List.append_assoc] at horder
      exact ⟨previous, hneighbor.trans (by simp [Except.map, horder]), .up horder hfirst⟩
  | down =>
    rw [clampedMove_down hsize (by omega), hlength] at hneighbor
    cases after with
    | nil => exact ⟨key, hneighbor.trans (by simp [Except.map, horder]), .bottom horder hfirst⟩
    | cons next after =>
      have hnext : min (before.length + 1) (before.length + ((next :: after).length + 1) - 1) =
          before.length + 1 := by
        rw [List.length_cons]
        omega
      rw [hnext] at hneighbor
      exact ⟨next, hneighbor.trans (by simp [Except.map, horder]), .down horder hfirst⟩

/-! ### Neighbours among some of the rows -/

section

variable {rows part : List RowKey} {key row : RowKey}

/-- Some of the rows begin with the first one if it is one of them. -/
theorem eq_cons_of_sublist_cons (hpart : part.Sublist (key :: rows)) (hnodup : (key :: rows).Nodup)
    (hkey : key ∈ part) : ∃ rest, part = key :: rest ∧ rest.Sublist rows := by
  rcases List.sublist_cons_iff.mp hpart with hskipped | htaken
  · exact absurd (hskipped.subset hkey) (List.nodup_cons.mp hnodup).1
  · exact htaken

/-- Some of the rows split at one of them as all rows do. -/
theorem eq_append_cons_of_sublist {before after : List RowKey}
    (hpart : part.Sublist (before ++ key :: after)) (hnodup : (before ++ key :: after).Nodup)
    (hkey : key ∈ part) :
    ∃ first rest, part = first ++ key :: rest ∧ first.Sublist before ∧ rest.Sublist after := by
  obtain ⟨first, others, rfl, hfirst, hothers⟩ := List.sublist_append_iff.mp hpart
  obtain ⟨-, hright, hdisjoint⟩ := List.nodup_append.mp hnodup
  have hlate : key ∈ others := by
    rcases List.mem_append.mp hkey with hearly | hlate
    · exact absurd rfl (hdisjoint key (hfirst.subset hearly) key List.mem_cons_self)
    · exact hlate
  obtain ⟨rest, rfl, hrest⟩ := eq_cons_of_sublist_cons hothers hright hlate
  exact ⟨first, rest, rfl, hfirst, hrest⟩

/-- Two neighbours are neighbours among some of the rows, if both are among them. -/
theorem eq_append_cons_cons_of_sublist {before after : List RowKey}
    (hpart : part.Sublist (before ++ key :: row :: after))
    (hnodup : (before ++ key :: row :: after).Nodup) (hkey : key ∈ part) (hrow : row ∈ part) :
    ∃ first rest, part = first ++ key :: row :: rest ∧ first.Sublist before := by
  obtain ⟨first, others, rfl, hfirst, hothers⟩ := eq_append_cons_of_sublist hpart hnodup hkey
  obtain ⟨-, hright, hdisjoint⟩ := List.nodup_append.mp hnodup
  obtain ⟨hne, hnext⟩ := List.nodup_cons.mp hright
  have hlate : row ∈ others := by
    rcases List.mem_append.mp hrow with hearly | hlate
    · exact absurd rfl (hdisjoint row (hfirst.subset hearly) row (by simp))
    · rcases List.mem_cons.mp hlate with rfl | hlate
      · exact absurd List.mem_cons_self hne
      · exact hlate
  obtain ⟨rest, rfl, -⟩ := eq_cons_of_sublist_cons hothers hnext hlate
  exact ⟨first, rest, rfl, hfirst⟩

theorem Leads.mem {d : Direction} (h : Leads rows key d row) : row ∈ rows := by
  cases h with
  | top h => simp [h]
  | up h _ => simp [h]
  | down h _ => simp [h]
  | bottom h _ => simp [h]

/-- Among some of the rows an arrow leads to the same row as among all of them exactly if this is
one of them. -/
theorem Leads.sublist_iff {d : Direction} (h : Leads rows key d row) (hnodup : rows.Nodup)
    (hpart : part.Sublist rows) (hkey : key ∈ part) : Leads part key d row ↔ row ∈ part := by
  constructor
  · exact Leads.mem
  · intro hrow
    cases h with
    | top h =>
      subst h
      obtain ⟨rest, hrest, -⟩ := eq_cons_of_sublist_cons hpart hnodup hkey
      exact .top hrest
    | up h hfirst =>
      subst h
      obtain ⟨first, rest, hrest, hearly⟩ :=
        eq_append_cons_cons_of_sublist hpart hnodup hrow hkey
      exact .up hrest fun hmem ↦ hfirst ((hearly.append_right _).subset hmem)
    | down h hfirst =>
      subst h
      obtain ⟨first, rest, hrest, hearly⟩ :=
        eq_append_cons_cons_of_sublist hpart hnodup hkey hrow
      exact .down hrest fun hmem ↦ hfirst (hearly.subset hmem)
    | bottom h hfirst =>
      subst h
      obtain ⟨first, rest, rfl, hearly, hrest⟩ := eq_append_cons_of_sublist hpart hnodup hkey
      obtain rfl := List.sublist_nil.mp hrest
      exact .bottom rfl fun hmem ↦ hfirst (hearly.subset hmem)

/-- No row comes before itself. -/
theorem notMem_of_eq_append_cons {before after : List RowKey} (hnodup : rows.Nodup)
    (h : rows = before ++ key :: after) : key ∉ before := by
  intro hmem
  rw [h] at hnodup
  exact (List.nodup_append.mp hnodup).2.2 key hmem key List.mem_cons_self rfl

section

variable (hnodup : rows.Nodup)
  (hclosed : ∀ key ∈ part, ∀ d row, Leads rows key d row → row ∈ part)

include hnodup hclosed

/-- Where arrows never lead away from some of the rows, all that come after one of them are among
them. -/
theorem mem_below_of_leads_closed {before after : List RowKey}
    (hrows : rows = before ++ key :: after) (hkey : key ∈ part) : ∀ row ∈ after, row ∈ part := by
  induction after generalizing before key with
  | nil => exact fun row hrow ↦ absurd hrow List.not_mem_nil
  | cons next after ih =>
    have hsplit : rows = (before ++ [key]) ++ next :: after := by simp [hrows]
    have hfirst : key ∉ before := notMem_of_eq_append_cons hnodup hrows
    have hnext : next ∈ part := hclosed key hkey .down next (.down hrows hfirst)
    intro row hrow
    rcases List.mem_cons.mp hrow with rfl | hrow
    · exact hnext
    · exact ih hsplit hnext row hrow

/-- Where arrows never lead away from some of the rows, all that come before one of them are among
them. -/
theorem mem_above_of_leads_closed {before after : List RowKey}
    (hrows : rows = before ++ key :: after) (hkey : key ∈ part) : ∀ row ∈ before, row ∈ part := by
  induction before using List.reverseRecOn generalizing after key with
  | nil => exact fun row hrow ↦ absurd hrow List.not_mem_nil
  | append_singleton before previous ih =>
    have hsplit : rows = before ++ previous :: key :: after := by simp [hrows]
    have hfirst : key ∉ before ++ [previous] := notMem_of_eq_append_cons hnodup hrows
    have hprevious : previous ∈ part := hclosed key hkey .up previous (.up hsplit hfirst)
    intro row hrow
    rcases List.mem_append.mp hrow with hrow | hrow
    · exact ih hsplit hprevious row hrow
    · exact List.mem_singleton.mp hrow ▸ hprevious

/-- Where arrows never lead away from some of the rows, these are all rows as soon as there is
one. -/
theorem subset_of_leads_closed {before after : List RowKey} (hrows : rows = before ++ key :: after)
    (hkey : key ∈ part) : rows ⊆ part := by
  intro row hrow
  rw [hrows, List.mem_append, List.mem_cons] at hrow
  rcases hrow with hrow | rfl | hrow
  · exact mem_above_of_leads_closed hnodup hclosed hrows hkey row hrow
  · exact hkey
  · exact mem_below_of_leads_closed hnodup hclosed hrows hkey row hrow

end

/-- Arrows never lead away from some of the rows exactly if these are all rows, or none. -/
theorem leads_closed_iff (hnodup : rows.Nodup) (hpart : part.Sublist rows) :
    (∀ key ∈ part, ∀ d row, Leads rows key d row → row ∈ part) ↔ part = [] ∨ part = rows := by
  constructor
  · intro hclosed
    by_cases hnone : part = []
    · exact .inl hnone
    · obtain ⟨key, hkey⟩ := List.exists_mem_of_ne_nil part hnone
      obtain ⟨before, after, hrows⟩ := List.append_of_mem (hpart.subset hkey)
      have hall := subset_of_leads_closed hnodup hclosed hrows hkey
      exact .inr (hpart.eq_of_length_le (List.subperm_of_subset hnodup hall).length_le)
  · rintro (rfl | rfl)
    · exact fun key hkey ↦ absurd hkey List.not_mem_nil
    · exact fun key _ d row ↦ Leads.mem

end

/-! ### Shown rows -/

/-- The rows of a person as shown. -/
def VisiblePerson.rows (v : VisiblePerson) : List RowKey :=
  v.assignments.map fun id ↦ ⟨v.person, id⟩

/-- The rows that are shown under the status filter, in the order in which they are shown. -/
def Grid.visibleRows (g : Grid) : List RowKey := g.visible.flatMap VisiblePerson.rows

namespace Roster.IsOrderly

variable {r : Roster}

/-- Everybody has rows of their own only. -/
theorem person_of_mem (h : r.IsOrderly) {q : PersonRow} (hq : q ∈ r.people) :
    ∀ a ∈ q.rows, a.person = q.id := by
  rw [← rowsFor_of_some (person?_of_mem hq)]
  exact h.person q.id

/-- No row is held twice. -/
theorem nodup_order (h : r.IsOrderly) : r.order.Nodup := by
  unfold order assignments
  rw [List.map_flatMap, List.nodup_flatMap]
  constructor
  · intro q hq
    have hids : (q.rows.map Assignment.id).Nodup := by
      rw [← rowsFor_of_some (person?_of_mem hq)]
      exact h.nodup q.id
    refine List.Nodup.of_map RowKey.assignment ?_
    rwa [List.map_map]
  · have hpairs : r.people.Pairwise fun q q' ↦ q.id ≠ q'.id := List.pairwise_map.mp r.nodup_ids
    apply hpairs.imp_of_mem
    intro q q' hq hq' hne
    rw [Function.onFun_apply, List.disjoint_left]
    intro key hkey hkey'
    obtain ⟨a, ha, rfl⟩ := List.mem_map.mp hkey
    obtain ⟨a', ha', hrow⟩ := List.mem_map.mp hkey'
    have hperson : a'.person = a.person := congrArg RowKey.person hrow
    rw [h.person_of_mem hq a ha, h.person_of_mem hq' a' ha'] at hperson
    exact hne hperson.symm

end Roster.IsOrderly

/-- The rows of a person are shown under their own keys. -/
theorem VisiblePerson.rows_mk {p : PersonId} {rows : List Assignment}
    (h : ∀ a ∈ rows, a.person = p) :
    VisiblePerson.rows ⟨p, rows.map Assignment.id⟩ = rows.map Assignment.row := by
  unfold VisiblePerson.rows
  rw [List.map_map]
  apply List.map_congr_left
  intro a ha
  rw [← h a ha]
  rfl

namespace StatusFilter

variable {f : StatusFilter} {projects : Projects}

/-- A person is listed with some of the rows, in their order. -/
theorem rows_listing_sublist {q : PersonRow} (hq : ∀ a ∈ q.rows, a.person = q.id) :
    (f.listing projects q).rows.Sublist (q.rows.map Assignment.row) := by
  have hkept : (q.loadedRows.filter (f.admits projects)).Sublist q.rows :=
    List.filter_sublist.trans q.loadedRows_sublist
  unfold listing
  rw [VisiblePerson.rows_mk fun a ha ↦ hq a (hkept.subset ha)]
  exact hkept.map _

/-- What is shown are some of the held rows in their order. -/
theorem rows_apply_sublist {r : Roster} {shown : List VisiblePerson}
    (h : f.apply projects r = .ok shown) (hr : r.IsOrderly) :
    (shown.flatMap VisiblePerson.rows).Sublist r.order := by
  have hpeople (people : List PersonRow) (hown : ∀ q ∈ people, ∀ a ∈ q.rows, a.person = q.id) :
      (((people.filter (f.lists projects)).map (f.listing projects)).flatMap
        VisiblePerson.rows).Sublist ((people.flatMap PersonRow.rows).map Assignment.row) := by
    induction people with
    | nil => exact .slnil
    | cons q rest ih =>
      have hothers := ih fun q hq ↦ hown q (List.mem_cons_of_mem _ hq)
      rw [List.filter_cons, List.flatMap_cons, List.map_append]
      split
      · rw [List.map_cons, List.flatMap_cons]
        exact (rows_listing_sublist (hown q List.mem_cons_self)).append hothers
      · exact (List.nil_sublist _).append hothers
  rw [apply_eq] at h
  obtain rfl := f.outcome_eq_ok projects h
  exact hpeople r.people fun q hq ↦ hr.person_of_mem hq

end StatusFilter

/-- Everybody's rows are the held rows. -/
theorem Roster.IsOrderly.rows_everyone {r : Roster} (h : r.IsOrderly) :
    r.everyone.flatMap VisiblePerson.rows = r.order := by
  unfold everyone order assignments
  rw [List.flatMap_map, List.map_flatMap]
  apply List.flatMap_congr
  intro q hq
  exact VisiblePerson.rows_mk (h.person_of_mem hq)

/-- The shown rows are some of the held rows in their order. -/
theorem Grid.visibleRows_sublist {g : Grid} (h : g.roster.IsOrderly) :
    g.visibleRows.Sublist g.roster.order := by
  unfold visibleRows visible
  split
  · next shown happly => exact StatusFilter.rows_apply_sublist happly h
  · rw [h.rows_everyone]

/-! ### The arrow -/

/-- Without an open edit a vertical arrow moves the selection to a neighbour of the focused row. -/
theorem Grid.handle_arrow {σ : Type} {g : Grid} (b : Backend σ) (s : σ) {d : Direction}
    (hd : d.isHorizontal = false) (hedit : g.edit? = none) :
    g.handle b (.key (.arrow d false)) s =
      ⟨.ok (), Halt.stateAfter g (g.moveRows d.delta), s⟩ := by
  have harrow : g.arrow d false = Halt.stateAfter g (g.moveRows d.delta) := by
    unfold arrow
    rw [hd]
  unfold handle handleKey
  rw [hedit, ← harrow]
  rfl

/-- A vertical arrow without an open edit selects the same week of the neighbour of the focused row
among all held rows, or of the row itself at either end. Among the shown rows this is the neighbour
too exactly if it is shown at all. So the arrows keep to the shown rows exactly if all held rows are
shown, or none. -/
theorem vertical_arrow {σ : Type} (b : Backend σ) (g : Grid) (s : σ) {d : Direction}
    (hd : d.isHorizontal = false) (hedit : g.edit? = none) {c : Cell}
    (hfocus : g.selection.focus? = some c) (hsize : g.roster.order.length < 2 ^ 63) :
    let reply := g.handle b (.key (.arrow d false)) s
    (c.row ∉ g.roster.order → reply = ⟨.ok (), g, s⟩) ∧
      (c.row ∈ g.roster.order → ∃ row, Leads g.roster.order c.row d row ∧
        reply = ⟨.ok (), { g with selection := g.selection.pick { c with row } }, s⟩ ∧
        (g.roster.IsOrderly → c.row ∈ g.visibleRows →
          (Leads g.visibleRows c.row d row ↔ row ∈ g.visibleRows))) ∧
      (g.roster.IsOrderly → g.visibleRows.Sublist g.roster.order ∧
        ((∀ key ∈ g.visibleRows, ∀ d row, Leads g.roster.order key d row → row ∈ g.visibleRows) ↔
          g.visibleRows = [] ∨ g.visibleRows = g.roster.order)) := by
  intro reply
  have hreply : reply = ⟨.ok (), Halt.stateAfter g (g.moveRows d.delta), s⟩ :=
    g.handle_arrow b s hd hedit
  refine ⟨fun hunknown ↦ ?_, fun hheld ↦ ?_, fun horderly ↦ ?_⟩
  · have hnone : g.roster.neighbor c.row d.delta = .ok none := by
      unfold Roster.neighbor
      rw [List.idxOf?_eq_none_iff.mpr hunknown]
    rw [hreply, Grid.moveRows_of_focus hfocus, hnone]
    rfl
  · obtain ⟨row, hneighbor, hleads⟩ := Roster.exists_leads hheld hsize hd
    refine ⟨row, hleads, ?_, fun horderly hshown ↦ ?_⟩
    · rw [hreply, Grid.moveRows_of_focus hfocus, hneighbor]
      rfl
    · exact hleads.sublist_iff horderly.nodup_order (Grid.visibleRows_sublist horderly) hshown
  · have hsublist := Grid.visibleRows_sublist horderly
    exact ⟨hsublist, leads_closed_iff horderly.nodup_order hsublist⟩

/-- The second of three rows is shown and the third one is not: the arrow goes down from the first
row to the second. -/
theorem vertical_arrow_to_shown_row :
    let week : WeekKey := ⟨"2024-01-01"⟩
    let row (id : AssignmentId) (status : String) : Assignment :=
      { id, person := 7, project := 1, projectStatus? := some status }
    let snapshot : Snapshot :=
      { weeks := [week]
        people := [⟨7, "Ada Park"⟩]
        rows := [row 42 "active", row 43 "active", row 44 "planning"] }
    let g := ((({} : Grid).applySnapshot snapshot).setFilter (.only ["active"])).select
      ⟨⟨7, 42⟩, week⟩ false
    let reply := g.handle Script.backend (.key (.arrow .down false)) {}
    g.roster.order = [⟨7, 42⟩, ⟨7, 43⟩, ⟨7, 44⟩] ∧ g.visibleRows = [⟨7, 42⟩, ⟨7, 43⟩] ∧
      ∃ row, Leads g.visibleRows ⟨7, 42⟩ .down row ∧
        reply.grid.selection.focus? = some ⟨row, week⟩ := by
  intro week row snapshot g reply
  have horder : g.roster.order = [⟨7, 42⟩, ⟨7, 43⟩, ⟨7, 44⟩] := by decide +kernel
  have hshown : g.visibleRows = [⟨7, 42⟩, ⟨7, 43⟩] := by decide +kernel
  have horderly : g.roster.IsOrderly :=
    Roster.isOrderly_ofSnapshot snapshot.people (by decide : [(42 : Int64), 43, 44].Nodup)
  have hsize : g.roster.order.length < 2 ^ 63 := by
    rw [horder]
    decide
  obtain ⟨-, hmoves, -⟩ :=
    vertical_arrow Script.backend g {} (d := .down) rfl rfl (c := ⟨⟨7, 42⟩, week⟩) rfl hsize
  obtain ⟨arrival, -, hreply, hiff⟩ := hmoves (by rw [horder]; decide)
  have hfocus : reply.grid.selection.focus? = some ⟨arrival, week⟩ := by
    dsimp only [reply]
    rw [hreply]
    rfl
  have hsecond : reply.grid.selection.focus? = some ⟨⟨7, 43⟩, week⟩ := by decide +kernel
  obtain rfl : arrival = ⟨7, 43⟩ := congrArg Cell.row (Option.some.inj (hfocus.symm.trans hsecond))
  have hleads := (hiff horderly (by rw [hshown]; decide)).mpr (by rw [hshown]; decide)
  exact ⟨horder, hshown, ⟨7, 43⟩, hleads, hsecond⟩

/-- The row between two shown ones is not shown: the arrow goes down to it. -/
theorem hidden_row_selected :
    let week : WeekKey := ⟨"2024-01-01"⟩
    let row (id : AssignmentId) (status : String) : Assignment :=
      { id, person := 7, project := 1, projectStatus? := some status }
    let script : Script :=
      { standing? := some
          { weeks := [week]
            people := [⟨7, "Ada Park"⟩]
            rows := [row 42 "active", row 43 "planning", row 44 "active"] } }
    let actions : List Action :=
      [.operation (.load {}), .gesture (.setFilter (.only ["active"])),
        .gesture (.select ⟨⟨7, 42⟩, week⟩ false)]
    let g := (Action.run Script.backend actions ({}, script)).1
    let reply := g.handle Script.backend (.key (.arrow .down false)) script
    g.Reachable ∧ g.visibleRows = [⟨7, 42⟩, ⟨7, 44⟩] ∧
      reply.grid.selection.focus? = some ⟨⟨7, 43⟩, week⟩ := by
  intro week row script actions g reply
  refine ⟨.run _ (.new {} Hours.weekCap) actions script, ?_⟩
  decide +kernel

end AssignmentGrid
