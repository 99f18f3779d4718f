import AssignmentGrid.Proofs.RosterFiling
import AssignmentGrid.Proofs.RosterRevision

/-!
# The indices of a roster

Next to the people a roster keeps two indices, and every change has to keep both in step with the
lists. That the index of places is right comes with the roster. That an assignment belongs to nobody
who holds no row for it has to be carried through every change, since rows may come twice, move from
one person to another or be filed under somebody whom they do not name. Specification
`SPEC_FULL.md:68–69,81–83`.
-/

namespace AssignmentGrid

/-- A change of a roster. -/
inductive RosterChange where
  | ofSnapshot (people : List Person) (rows : List Assignment)
  | replaceRows (p : PersonId) (rows : List Assignment)
  | push (a : Assignment)
  | remove (id : AssignmentId)
  | modifyHours (key : RowKey) (f : Hours → Hours)

/-- The roster after a change. -/
def RosterChange.apply (r : Roster) : RosterChange → Roster
  | ofSnapshot people rows => .ofSnapshot people rows
  | replaceRows p rows => r.replaceRows p rows
  | push a => r.push a
  | remove id => (r.remove id).2
  | modifyHours key f => r.modifyHours key f

/-- Rows fall into those before a row and those behind it, where no row before it has its
number. -/
structure SplitAtRow (rows before : List Assignment) (a : Assignment) (behind : List Assignment) :
    Prop where
  eq : rows = before ++ a :: behind
  first : ∀ b ∈ before, b.id ≠ a.id

/-- A row that is found by number splits the rows. -/
theorem exists_splitAtRow {rows : List Assignment} {id : AssignmentId} {a : Assignment}
    (h : rows.find? (fun a ↦ a.id == id) = some a) :
    a.id = id ∧ ∃ before behind, SplitAtRow rows before a behind := by
  rw [List.find?_eq_some_iff_append] at h
  obtain ⟨hid, before, behind, hrows, hfirst⟩ := h
  have hid : a.id = id := by simpa using hid
  refine ⟨hid, before, behind, hrows, ?_⟩
  intro b hb
  rw [hid]
  simpa using hfirst b hb

namespace SplitAtRow

variable {rows before behind : List Assignment} {a : Assignment}

/-- Only the row at which the rows are split is changed. -/
theorem updateFirst_eq (h : SplitAtRow rows before a behind) (f : Assignment → Assignment) :
    updateFirst (fun b ↦ b.id == a.id) f rows = before ++ f a :: behind := by
  rw [h.eq]
  have hfirst := h.first
  clear h
  induction before with
  | nil => simp [updateFirst]
  | cons b rest ih =>
    have hb : b.id ≠ a.id := hfirst b (by simp)
    rw [List.cons_append, updateFirst, if_neg (by simpa using hb), List.cons_append,
      ih fun c hc ↦ hfirst c (by simp [hc])]

/-- Only the row at which the rows are split is taken out. -/
theorem eraseP_eq (h : SplitAtRow rows before a behind) :
    rows.eraseP (fun b ↦ b.id == a.id) = before ++ behind := by
  rw [h.eq, List.eraseP_append_right _ fun b hb ↦ by simpa using h.first b hb,
    List.eraseP_cons_of_pos (by simp)]

end SplitAtRow

namespace Roster

/-- The roster after changes that begin with nobody. -/
def after (changes : List RosterChange) : Roster := changes.foldl RosterChange.apply empty

/-- Whoever owns an assignment holds a row for it. -/
def OwnersHold (r : Roster) : Prop :=
  ∀ id p, r.ownerOf? id = some p → ∃ a ∈ r.rowsFor p, a.id = id

/-! ### Owners through every change -/

theorem ownersHold_empty : empty.OwnersHold := by
  intro id p howner
  simp [ownerOf?, empty] at howner

/-- The last row of an assignment names its owner and is among the owner's rows. -/
theorem ownersHold_ofSnapshot (people : List Person) (rows : List Assignment) :
    (ofSnapshot people rows).OwnersHold := by
  intro id p howner
  rw [ownerOf?_ofSnapshot, Option.map_eq_some_iff] at howner
  obtain ⟨a, ha, hp⟩ := howner
  refine ⟨a, ?_, by simpa using List.find?_some ha⟩
  rw [rowsFor_ofSnapshot]
  have hmem := List.mem_of_find?_eq_some ha
  simpa [hp] using hmem

variable {r : Roster}

theorem OwnersHold.file (h : r.OwnersHold) (a : Assignment) (loads : Bool) :
    (r.file a loads).OwnersHold := by
  intro id p howner
  rw [ownerOf?_file] at howner
  rw [rowsFor_file]
  by_cases hid : id = a.id
  · rw [if_pos hid, Option.some.injEq] at howner
    rw [if_pos howner.symm]
    exact ⟨a, by simp, hid.symm⟩
  · rw [if_neg hid] at howner
    obtain ⟨b, hb, hbid⟩ := h id p howner
    split
    · exact ⟨b, by simp [hb], hbid⟩
    · exact ⟨b, hb, hbid⟩

/-- The replaced rows are given up by their person, even where another one owned them, so that
the owners left over are untouched people. -/
theorem OwnersHold.replaceRows (h : r.OwnersHold) (p : PersonId) (rows : List Assignment) :
    (r.replaceRows p rows).OwnersHold := by
  intro id o howner
  rw [ownerOf?_replaceRows] at howner
  rw [rowsFor_replaceRows]
  by_cases hnew : id ∈ rows.map Assignment.id
  · rw [if_pos hnew, Option.some.injEq] at howner
    rw [if_pos howner.symm]
    simpa using hnew
  · rw [if_neg hnew] at howner
    by_cases hformer : id ∈ (r.rowsFor p).map Assignment.id
    · rw [if_pos hformer] at howner
      cases howner
    · rw [if_neg hformer] at howner
      obtain ⟨b, hb, hbid⟩ := h id o howner
      have ho : o ≠ p := by
        rintro rfl
        exact hformer (hbid ▸ List.mem_map_of_mem hb)
      rw [if_neg ho]
      exact ⟨b, hb, hbid⟩

theorem OwnersHold.remove (h : r.OwnersHold) (id : AssignmentId) : (r.remove id).2.OwnersHold := by
  intro other p howner
  rw [ownerOf?_remove] at howner
  split at howner
  · cases howner
  · next hother =>
    obtain ⟨b, hb, hbid⟩ := h other p howner
    rw [rowsFor_remove]
    split
    · refine ⟨b, ?_, hbid⟩
      rw [List.mem_eraseP_of_neg (by simpa [hbid] using hother)]
      exact hb
    · exact ⟨b, hb, hbid⟩

/-- New hours leave the numbers of all rows as they are. -/
theorem OwnersHold.revise (h : r.OwnersHold) (f : RowKey → Hours → Hours) :
    (r.revise f).OwnersHold := by
  intro id p howner
  rw [ownerOf?_revise] at howner
  obtain ⟨b, hb, hbid⟩ := h id p howner
  have hmem : id ∈ (r.rowsFor p).map Assignment.id := hbid ▸ List.mem_map_of_mem hb
  rw [← List.mem_map, rowsFor_revise, map_reviseRows fun _ _ ↦ rfl]
  exact hmem

theorem OwnersHold.modifyHours (h : r.OwnersHold) (key : RowKey) (f : Hours → Hours) :
    (r.modifyHours key f).OwnersHold := by
  rw [modifyHours_eq_revise]
  exact h.revise _

/-- Every change keeps owners and rows in step. -/
theorem OwnersHold.apply (h : r.OwnersHold) (change : RosterChange) :
    (change.apply r).OwnersHold := by
  cases change with
  | ofSnapshot people rows => exact ownersHold_ofSnapshot people rows
  | replaceRows p rows => exact h.replaceRows p rows
  | push a => exact h.file a false
  | remove id => exact h.remove id
  | modifyHours key f => exact h.modifyHours key f

/-- Whatever changes were made, whoever owns an assignment holds a row for it. -/
theorem ownersHold_after (changes : List RosterChange) : (after changes).OwnersHold := by
  have hrun {r : Roster} (h : r.OwnersHold) : (changes.foldl RosterChange.apply r).OwnersHold := by
    induction changes generalizing r with
    | nil => exact h
    | cons change rest ih => exact ih (h.apply change)
  exact hrun ownersHold_empty

/-! ### What the indices are good for -/

/-- An owner's first row of an assignment is found. -/
theorem OwnersHold.exists_find? (h : r.OwnersHold) {id : AssignmentId} {p : PersonId}
    (howner : r.ownerOf? id = some p) :
    ∃ a, (r.rowsFor p).find? (fun a ↦ a.id == id) = some a := by
  obtain ⟨a, ha, hid⟩ := h id p howner
  rw [← Option.isSome_iff_exists, List.find?_isSome]
  exact ⟨a, ha, by simpa using hid⟩

/-- Found are exactly the assignments of their owners. -/
theorem OwnersHold.isSome_find? (h : r.OwnersHold) (key : RowKey) :
    (r.find? key).isSome ↔ r.ownerOf? key.assignment = some key.person := by
  unfold find?
  split
  · next howner =>
    obtain ⟨a, ha⟩ := h.exists_find? howner
    simp [ha, howner]
  · next howner => simp [howner]

/-- The rows of everybody after a change of hours in a row that is found. -/
theorem rowsFor_modifyHours {key : RowKey}
    (howner : r.ownerOf? key.assignment = some key.person) (f : Hours → Hours) (o : PersonId) :
    (r.modifyHours key f).rowsFor o =
      if o = key.person then
        updateFirst (fun a ↦ a.id == key.assignment) (fun a ↦ { a with hours := f a.hours })
          (r.rowsFor o)
      else r.rowsFor o := by
  unfold modifyHours
  rw [if_pos howner, rowsFor_modifyPerson]
  · split
    · rw [rowsFor_eq]
      cases r.person? o <;> rfl
    · rfl
  · intro q
    rfl

/-- The indices of a roster are right, so that no look-up by them fails where there is something
to be found. -/
structure IsIndexed (r : Roster) : Prop where
  /-- Nobody stands at two places. -/
  nodup : (r.people.map PersonRow.id).Nodup
  /-- The place known for a number is one of the people's, and the one where that person is. -/
  place : ∀ (p : PersonId) i,
    r.places[p]? = some i ↔ ∃ q : PersonRow, r.people[i]? = some q ∧ q.id = p
  /-- No place lies beyond the people. -/
  place_lt : ∀ (p : PersonId) i, r.places[p]? = some i → i < r.people.length
  /-- Whoever owns an assignment is there and holds a row for it. -/
  owned : ∀ id p, r.ownerOf? id = some p → ∃ q ∈ r.people, q.id = p ∧ r.person? p = some q ∧
    ∃ a ∈ q.rows, a.id = id
  /-- A row is found exactly under its owner. -/
  found : ∀ key, (r.find? key).isSome ↔ r.ownerOf? key.assignment = some key.person
  /-- Hours are changed in the row that is found, and in no other one. -/
  changed : ∀ key a, r.find? key = some a → a.id = key.assignment ∧ ∃ before behind,
    SplitAtRow (r.rowsFor key.person) before a behind ∧ ∀ f,
      (r.modifyHours key f).rowsFor key.person =
        before ++ { a with hours := f a.hours } :: behind ∧
      ∀ o ≠ key.person, (r.modifyHours key f).rowsFor o = r.rowsFor o
  /-- Where no row is found, no hours are changed. -/
  unchanged : ∀ key f, r.find? key = none → r.modifyHours key f = r
  /-- An assignment is found exactly when it belongs to somebody. -/
  assignment : ∀ id, (r.assignment? id).isSome ↔ (r.ownerOf? id).isSome
  /-- A row is taken out exactly when its assignment belonged to somebody. -/
  taken : ∀ id, (r.remove id).1.isSome ↔ (r.ownerOf? id).isSome
  /-- What is taken out is the owner's first row of the assignment, and no other one. -/
  removed : ∀ id p, r.ownerOf? id = some p → ∃ before a behind,
    SplitAtRow (r.rowsFor p) before a behind ∧ a.id = id ∧ (r.remove id).1 = some a ∧
      (r.remove id).2.rowsFor p = before ++ behind ∧
      ∀ o ≠ p, (r.remove id).2.rowsFor o = r.rowsFor o
  /-- Where an assignment belongs to nobody, nothing is taken out. -/
  kept : ∀ id, r.ownerOf? id = none → r.remove id = (none, r)

end Roster

/-- Whatever rows come in whatever order, the indices of a roster stay right. -/
theorem roster_isIndexed (changes : List RosterChange) : (Roster.after changes).IsIndexed := by
  have howners := Roster.ownersHold_after changes
  generalize Roster.after changes = r at howners
  constructor
  case nodup => exact r.nodup_ids
  case place =>
    intro p i
    rw [r.places_iff, Option.map_eq_some_iff]
  case place_lt =>
    intro p i hplace
    obtain ⟨q, hq, -⟩ := Option.map_eq_some_iff.mp ((r.places_iff p i).mp hplace)
    exact (List.getElem?_eq_some_iff.mp hq).1
  case owned =>
    intro id p howner
    obtain ⟨a, ha, hid⟩ := howners id p howner
    cases hq : r.person? p with
    | none => simp [Roster.rowsFor_of_none hq] at ha
    | some q =>
      rw [Roster.rowsFor_of_some hq] at ha
      exact ⟨q, Roster.mem_of_person? hq, Roster.id_of_person? hq, rfl, a, ha, hid⟩
  case found => exact howners.isSome_find?
  case changed =>
    intro key a ha
    obtain ⟨howner, hfirst⟩ := (Roster.find?_eq_some_iff r key a).mp ha
    obtain ⟨hid, before, behind, hsplit⟩ := exists_splitAtRow hfirst
    refine ⟨hid, before, behind, hsplit, ?_⟩
    intro f
    constructor
    · rw [Roster.rowsFor_modifyHours howner, if_pos rfl, ← hid]
      exact hsplit.updateFirst_eq _
    · intro o ho
      rw [Roster.rowsFor_modifyHours howner, if_neg ho]
  case unchanged =>
    intro key f hnone
    have howner : r.ownerOf? key.assignment ≠ some key.person := by
      rw [ne_eq, ← howners.isSome_find?, hnone]
      nofun
    rw [Roster.modifyHours, if_neg howner]
  case assignment =>
    intro id
    unfold Roster.assignment?
    cases howner : r.ownerOf? id with
    | none => simp
    | some p => simpa using (howners.isSome_find? ⟨p, id⟩).mpr howner
  case taken =>
    intro id
    rw [Roster.remove_fst]
    cases howner : r.ownerOf? id with
    | none => simp
    | some p =>
      obtain ⟨a, ha⟩ := howners.exists_find? howner
      simp [ha]
  case removed =>
    intro id p howner
    obtain ⟨a, ha⟩ := howners.exists_find? howner
    obtain ⟨hid, before, behind, hsplit⟩ := exists_splitAtRow ha
    refine ⟨before, a, behind, hsplit, hid, ?_, ?_, ?_⟩
    · rw [Roster.remove_fst, howner]
      exact ha
    · rw [Roster.rowsFor_remove, if_pos howner, ← hid]
      exact hsplit.eraseP_eq
    · intro o ho
      rw [Roster.rowsFor_remove, if_neg (by rw [howner]; simpa using Ne.symm ho)]
  case kept =>
    intro id howner
    rw [Roster.remove, howner]

end AssignmentGrid
