import Mathlib.Data.List.Nodup
import AssignmentGrid.Proofs.RosterFiling
import AssignmentGrid.Proofs.RosterRevision

/-!
# Held rows

What is known of every row that a roster holds, through every change of the roster: first for any
property of a row and the person under whom it is held, then for rows that are in order under each
person, last for rows that are filed well, each under the one person whom it names and to whom its
assignment belongs.
-/

namespace AssignmentGrid

/-- A revised row is a row as it was or that row with its revised hours. -/
theorem exists_of_mem_reviseRows {f : AssignmentId → Hours → Hours} {rows : List Assignment}
    {b : Assignment} (hb : b ∈ reviseRows f rows) :
    ∃ a ∈ rows, b = a ∨ b = { a with hours := f a.id a.hours } := by
  induction rows generalizing f with
  | nil => cases hb
  | cons a rest ih =>
    rw [reviseRows, List.mem_cons] at hb
    rcases hb with rfl | hb
    · exact ⟨a, List.mem_cons_self, .inr rfl⟩
    · obtain ⟨c, hc, hbc⟩ := ih hb
      refine ⟨c, List.mem_cons_of_mem a hc, ?_⟩
      by_cases hid : c.id = a.id
      · rw [hid, Function.update_self] at hbc
        rcases hbc with hbc | hbc
        · exact .inl hbc
        · exact .inl (by rw [hbc, ← hid])
      · rwa [Function.update_of_ne hid] at hbc

namespace Roster

variable {r : Roster}

/-! ### Any property -/

/-- Whether a property holds of every person's rows. -/
def AllRows (r : Roster) (P : PersonId → Assignment → Prop) : Prop :=
  ∀ p, ∀ a ∈ r.rowsFor p, P p a

namespace AllRows

variable {P : PersonId → Assignment → Prop}

theorem empty : Roster.empty.AllRows P := fun _ _ ↦ nofun

theorem ofSnapshot (people : List Person) {rows : List Assignment}
    (h : ∀ a ∈ rows, P a.person a) : (Roster.ofSnapshot people rows).AllRows P := by
  intro p a ha
  rw [rowsFor_ofSnapshot, List.mem_filter] at ha
  have hp : a.person = p := by simpa using ha.2
  exact hp ▸ h a ha.1

theorem replaceRows (h : r.AllRows P) {p : PersonId} {rows : List Assignment}
    (hrows : ∀ a ∈ rows, P p a) : (r.replaceRows p rows).AllRows P := by
  intro q a ha
  rw [rowsFor_replaceRows] at ha
  split at ha
  · next hq => exact hq ▸ hrows a ha
  · exact h q a ha

theorem push (h : r.AllRows P) {row : Assignment} (hrow : P row.person row) :
    (r.push row).AllRows P := by
  intro p a ha
  unfold Roster.push at ha
  rw [rowsFor_file] at ha
  split at ha
  · next hp =>
    rcases List.mem_append.mp ha with ha | ha
    · exact h p a ha
    · rw [List.mem_singleton.mp ha, hp]
      exact hrow
  · exact h p a ha

theorem remove (h : r.AllRows P) (id : AssignmentId) : (r.remove id).2.AllRows P := by
  intro p a ha
  rw [rowsFor_remove] at ha
  split at ha
  · exact h p a (List.mem_of_mem_eraseP ha)
  · exact h p a ha

theorem revise (h : r.AllRows P) {f : RowKey → Hours → Hours}
    (hf : ∀ p a, P p a → P p { a with hours := f ⟨p, a.id⟩ a.hours }) :
    (r.revise f).AllRows P := by
  intro p b hb
  rw [rowsFor_revise] at hb
  obtain ⟨a, ha, hba⟩ := exists_of_mem_reviseRows hb
  have hrow := h p a ha
  unfold revisionFor at hba
  split at hba
  · rcases hba with rfl | rfl
    · exact hrow
    · exact hf p a hrow
  · rcases hba with rfl | rfl
    · exact hrow
    · exact hrow

end AllRows

/-! ### Rows in order -/

/-- Every row is held under the person whom it names, and nobody holds an assignment twice. -/
structure IsOrderly (r : Roster) : Prop where
  person : r.AllRows fun p a ↦ a.person = p
  nodup : ∀ p, ((r.rowsFor p).map Assignment.id).Nodup

/-- Whether an assignment is held nowhere. -/
def IsFresh (r : Roster) (id : AssignmentId) : Prop := ∀ a ∈ r.assignments, a.id ≠ id

instance (r : Roster) (id : AssignmentId) : Decidable (r.IsFresh id) :=
  inferInstanceAs (Decidable (∀ a ∈ r.assignments, a.id ≠ id))

theorem IsFresh.ne {id : AssignmentId} (hid : r.IsFresh id) {p : PersonId} {a : Assignment}
    (ha : a ∈ r.rowsFor p) : a.id ≠ id :=
  hid a ((mem_assignments_iff r a).mpr ⟨p, ha⟩)

theorem isOrderly_empty : empty.IsOrderly where
  person := .empty
  nodup _ := .nil

/-- Without a number that comes twice a snapshot is in order. -/
theorem isOrderly_ofSnapshot (people : List Person) {rows : List Assignment}
    (h : (rows.map Assignment.id).Nodup) : (ofSnapshot people rows).IsOrderly where
  person := .ofSnapshot people fun _ _ ↦ rfl
  nodup p := by
    rw [rowsFor_ofSnapshot]
    exact h.sublist (List.filter_sublist.map _)

namespace IsOrderly

theorem replaceRows (h : r.IsOrderly) {p : PersonId} {rows : List Assignment}
    (hperson : ∀ row ∈ rows, row.person = p) (hnodup : (rows.map Assignment.id).Nodup) :
    (r.replaceRows p rows).IsOrderly where
  person := h.person.replaceRows hperson
  nodup q := by
    rw [rowsFor_replaceRows]
    split
    · exact hnodup
    · exact h.nodup q

theorem push (h : r.IsOrderly) {row : Assignment} (hfresh : r.IsFresh row.id) :
    (r.push row).IsOrderly where
  person := h.person.push rfl
  nodup p := by
    rw [Roster.push, rowsFor_file]
    split
    · rw [List.map_append, List.nodup_append]
      refine ⟨h.nodup p, by simp, ?_⟩
      intro id hid id' hid'
      obtain ⟨a, ha, rfl⟩ := List.mem_map.mp hid
      obtain rfl : id' = row.id := by simpa using hid'
      exact hfresh.ne ha
    · exact h.nodup p

theorem remove (h : r.IsOrderly) (id : AssignmentId) : (r.remove id).2.IsOrderly where
  person := h.person.remove id
  nodup p := by
    rw [rowsFor_remove]
    split
    · exact (h.nodup p).sublist (List.eraseP_sublist.map _)
    · exact h.nodup p

/-- New hours leave all rows where they are. -/
theorem revise (h : r.IsOrderly) (f : RowKey → Hours → Hours) : (r.revise f).IsOrderly where
  person := h.person.revise fun _ _ hp ↦ hp
  nodup p := by
    rw [rowsFor_revise, map_reviseRows fun _ _ ↦ rfl]
    exact h.nodup p

/-- A row is found under its key exactly where its assignment belongs to whoever holds it. -/
theorem find?_row_iff (h : r.IsOrderly) {p : PersonId} {a : Assignment} (ha : a ∈ r.rowsFor p) :
    r.find? a.row = some a ↔ r.ownerOf? a.id = some p := by
  obtain rfl : a.person = p := h.person p a ha
  rw [find?_eq_some_iff]
  constructor
  · exact And.left
  · intro howner
    refine ⟨howner, ?_⟩
    cases hfind : (r.rowsFor a.person).find? fun b ↦ b.id == a.id with
    | none => simpa using List.find?_eq_none.mp hfind a ha
    | some b =>
      have hid : b.id = a.id := by simpa using List.find?_some hfind
      have hb := List.mem_of_find?_eq_some hfind
      obtain rfl := List.inj_on_of_nodup_map (h.nodup a.person) hb ha hid
      exact hfind

end IsOrderly

/-! ### Rows that are filed well -/

/-- Every row is held under the person whom it names and to whom its assignment belongs, and no
assignment is held twice. -/
structure IsWellFiled (r : Roster) : Prop where
  person : r.AllRows fun p a ↦ a.person = p
  owner : r.AllRows fun p a ↦ r.ownerOf? a.id = some p
  nodup : ∀ p, ((r.rowsFor p).map Assignment.id).Nodup

/-- Whether rows can take the place of a person's rows: they name the person, none of them comes
twice and none is held under somebody else. -/
structure CanTake (r : Roster) (p : PersonId) (rows : List Assignment) : Prop where
  person : ∀ row ∈ rows, row.person = p
  nodup : (rows.map Assignment.id).Nodup
  apart : ∀ q ∈ r.people, q.id ≠ p → ∀ a ∈ q.rows, a.id ∉ rows.map Assignment.id

instance (r : Roster) (p : PersonId) : DecidablePred (r.CanTake p) := fun rows ↦
  decidable_of_iff ((∀ row ∈ rows, row.person = p) ∧ (rows.map Assignment.id).Nodup ∧
      ∀ q ∈ r.people, q.id ≠ p → ∀ a ∈ q.rows, a.id ∉ rows.map Assignment.id)
    ⟨fun h ↦ ⟨h.1, h.2.1, h.2.2⟩, fun h ↦ ⟨h.person, h.nodup, h.apart⟩⟩

theorem isWellFiled_empty : empty.IsWellFiled where
  person := .empty
  owner := .empty
  nodup := isOrderly_empty.nodup

/-- Without a number that comes twice a snapshot is filed well. -/
theorem isWellFiled_ofSnapshot (people : List Person) {rows : List Assignment}
    (h : (rows.map Assignment.id).Nodup) : (ofSnapshot people rows).IsWellFiled where
  person := (isOrderly_ofSnapshot people h).person
  owner := by
    apply AllRows.ofSnapshot
    intro a ha
    rw [ownerOf?_ofSnapshot, Option.map_eq_some_iff]
    refine ⟨a, ?_, rfl⟩
    cases hfind : rows.reverse.find? fun b ↦ b.id = a.id with
    | none => simpa using List.find?_eq_none.mp hfind a (List.mem_reverse.mpr ha)
    | some b =>
      have hid : b.id = a.id := by simpa using List.find?_some hfind
      have hb : b ∈ rows := List.mem_reverse.mp (List.mem_of_find?_eq_some hfind)
      rw [List.inj_on_of_nodup_map h hb ha hid]
  nodup := (isOrderly_ofSnapshot people h).nodup

namespace IsWellFiled

theorem isOrderly (h : r.IsWellFiled) : r.IsOrderly := ⟨h.person, h.nodup⟩

/-- Every row is found under its key. -/
theorem find?_row (h : r.IsWellFiled) {p : PersonId} {a : Assignment} (ha : a ∈ r.rowsFor p) :
    r.find? a.row = some a :=
  (h.isOrderly.find?_row_iff ha).mpr (h.owner p a ha)

/-- No assignment is shown twice. -/
theorem nodup_assignments (h : r.IsWellFiled) : (r.assignments.map Assignment.id).Nodup := by
  have hrows {q : PersonRow} (hq : q ∈ r.people) : r.rowsFor q.id = q.rows :=
    rowsFor_of_some (person?_of_mem hq)
  unfold assignments
  rw [List.map_flatMap, List.nodup_flatMap]
  constructor
  · intro q hq
    rw [← hrows hq]
    exact h.nodup q.id
  · have hpairs : r.people.Pairwise fun q q' ↦ q.id ≠ q'.id := List.pairwise_map.mp r.nodup_ids
    apply hpairs.imp_of_mem
    intro q q' hq hq' hne
    rw [Function.onFun_apply, List.disjoint_left]
    intro id hid hid'
    rw [← hrows hq] at hid
    rw [← hrows hq'] at hid'
    obtain ⟨a, ha, rfl⟩ := List.mem_map.mp hid
    obtain ⟨a', ha', hid⟩ := List.mem_map.mp hid'
    have howner : r.ownerOf? a'.id = some q'.id := h.owner q'.id a' ha'
    rw [hid, h.owner q.id a ha, Option.some.injEq] at howner
    exact hne howner

/-- A row that is held is found. -/
theorem isSome_find? (h : r.IsWellFiled) {p : PersonId} {a : Assignment} (ha : a ∈ r.rowsFor p) :
    (r.find? ⟨p, a.id⟩).isSome := by
  unfold find?
  rw [if_pos (h.owner p a ha), List.find?_isSome]
  exact ⟨a, ha, by simp⟩

/-- Found are exactly the rows that are held. -/
theorem isSome_find?_iff (h : r.IsWellFiled) (key : RowKey) :
    (r.find? key).isSome ↔ ∃ a ∈ r.rowsFor key.person, a.id = key.assignment := by
  constructor
  · intro hkey
    obtain ⟨a, ha⟩ := Option.isSome_iff_exists.mp hkey
    have hfind := ((find?_eq_some_iff r key a).mp ha).2
    exact ⟨a, List.mem_of_find?_eq_some hfind, by simpa using List.find?_some hfind⟩
  · rintro ⟨a, ha, hid⟩
    obtain ⟨p, id⟩ := key
    subst hid
    exact h.isSome_find? ha

/-- The row at which a vertical move arrives is found. -/
theorem isSome_find?_of_neighbor (h : r.IsWellFiled) {key row : RowKey} {delta : Int64}
    (hrow : r.neighbor key delta = .ok (some row)) : (r.find? row).isSome := by
  obtain ⟨i, hi⟩ : ∃ i : Nat, r.order[i]? = some row := by
    unfold neighbor at hrow
    split at hrow
    · obtain ⟨q, -, hq⟩ := Halt.map_eq_ok_iff.mp hrow
      exact ⟨q, hq⟩
    · cases hrow
  obtain ⟨a, ha, rfl⟩ := List.mem_map.mp (List.mem_of_getElem? hi)
  obtain ⟨p, ha⟩ := (mem_assignments_iff r a).mp ha
  have hp : a.person = p := h.person p a ha
  subst hp
  exact h.isSome_find? ha

/-- Rows that can be taken leave everybody else's assignments with their owners. -/
theorem replaceRows (h : r.IsWellFiled) {p : PersonId} {rows : List Assignment}
    (hrows : r.CanTake p rows) : (r.replaceRows p rows).IsWellFiled where
  person := (h.isOrderly.replaceRows hrows.person hrows.nodup).person
  owner := by
    intro q a ha
    rw [ownerOf?_replaceRows]
    rw [rowsFor_replaceRows] at ha
    by_cases hq : q = p
    · subst hq
      rw [if_pos rfl] at ha
      rw [if_pos (List.mem_map_of_mem ha)]
    · rw [if_neg hq] at ha
      have hapart : a.id ∉ rows.map Assignment.id := by
        cases hperson : r.person? q with
        | none => simp [rowsFor_of_none hperson] at ha
        | some row =>
          rw [rowsFor_of_some hperson] at ha
          have hid := id_of_person? hperson
          exact hrows.apart row (mem_of_person? hperson) (hid ▸ hq) a ha
      have hformer : a.id ∉ (r.rowsFor p).map Assignment.id := by
        intro hmem
        obtain ⟨b, hb, hid⟩ := List.mem_map.mp hmem
        have hown : r.ownerOf? b.id = some p := h.owner p b hb
        rw [hid, h.owner q a ha, Option.some.injEq] at hown
        exact hq hown
      rw [if_neg hapart, if_neg hformer]
      exact h.owner q a ha
  nodup := (h.isOrderly.replaceRows hrows.person hrows.nodup).nodup

/-- A row with a fresh number takes nobody's assignment. -/
theorem push (h : r.IsWellFiled) {row : Assignment} (hfresh : r.IsFresh row.id) :
    (r.push row).IsWellFiled where
  person := (h.isOrderly.push hfresh).person
  owner := by
    have hothers : r.AllRows fun p a ↦ (r.push row).ownerOf? a.id = some p := by
      intro p a ha
      rw [Roster.push, ownerOf?_file, if_neg (hfresh.ne ha)]
      exact h.owner p a ha
    apply hothers.push
    rw [Roster.push, ownerOf?_file, if_pos rfl]
  nodup := (h.isOrderly.push hfresh).nodup

/-- What was found before a row is added is found after it. -/
theorem isSome_find?_push (h : r.IsWellFiled) {row : Assignment} (hfresh : r.IsFresh row.id)
    {key : RowKey} (hkey : (r.find? key).isSome) : ((r.push row).find? key).isSome := by
  rw [(h.push hfresh).isSome_find?_iff]
  obtain ⟨a, ha, hid⟩ := (h.isSome_find?_iff key).mp hkey
  refine ⟨a, ?_, hid⟩
  rw [Roster.push, rowsFor_file]
  split
  · exact List.mem_append_left _ ha
  · exact ha

/-- The removed assignment was held once, so that nobody else's owner is forgotten. -/
theorem remove (h : r.IsWellFiled) (id : AssignmentId) : (r.remove id).2.IsWellFiled where
  person := (h.isOrderly.remove id).person
  owner := by
    intro p a ha
    have hne : a.id ≠ id := by
      rintro rfl
      rw [rowsFor_remove] at ha
      by_cases howner : r.ownerOf? a.id = some p
      · rw [if_pos howner] at ha
        exact ((mem_eraseP_id (h.nodup p) a.id a).mp ha).2 rfl
      · rw [if_neg howner] at ha
        exact howner (h.owner p a ha)
    rw [ownerOf?_remove, if_neg hne]
    rw [rowsFor_remove] at ha
    split at ha
    · exact h.owner p a (List.mem_of_mem_eraseP ha)
    · exact h.owner p a ha
  nodup := (h.isOrderly.remove id).nodup

/-- New hours leave all rows where they are. -/
theorem revise (h : r.IsWellFiled) (f : RowKey → Hours → Hours) : (r.revise f).IsWellFiled where
  person := (h.isOrderly.revise f).person
  owner := h.owner.revise fun _ _ howner ↦ howner
  nodup := (h.isOrderly.revise f).nodup

end IsWellFiled

/-- What was found before new hours is found after them. -/
@[simp] theorem isSome_find?_revise (r : Roster) (f : RowKey → Hours → Hours) (key : RowKey) :
    ((r.revise f).find? key).isSome = (r.find? key).isSome := by
  rw [find?_revise, Option.isSome_map]

end Roster

end AssignmentGrid
