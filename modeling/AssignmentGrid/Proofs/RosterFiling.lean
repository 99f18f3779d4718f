import AssignmentGrid.Proofs.RosterLookup

/-!
# Rows that come and go

The four look-ups of a roster after a row has been filed, after the rows of a person have been
replaced, after a row has been removed, and for a roster that shows a snapshot.
-/

namespace AssignmentGrid.Roster

/-- The rows after one person was changed. -/
theorem rowsFor_modifyPerson (r : Roster) (p o : PersonId) {f : PersonRow → PersonRow}
    (hf : ∀ q, (f q).id = q.id) :
    (r.modifyPerson p f).rowsFor o =
      if o = p then ((r.person? o).map fun q ↦ (f q).rows).getD [] else r.rowsFor o := by
  rw [rowsFor_eq, person?_modifyPerson r p o hf, rowsFor_eq]
  split
  · rw [Option.map_map]
    rfl
  · rfl

/-- Who is loaded after one person was changed. -/
theorem isLoaded_modifyPerson (r : Roster) (p o : PersonId) {f : PersonRow → PersonRow}
    (hf : ∀ q, (f q).id = q.id) :
    (r.modifyPerson p f).isLoaded o =
      if o = p then (r.person? o).any fun q ↦ (f q).isLoaded else r.isLoaded o := by
  unfold isLoaded
  rw [person?_modifyPerson r p o hf]
  split
  · rw [Option.any_map]
  · rfl

/-- The held rows are the rows of all persons. -/
theorem mem_assignments_iff (r : Roster) (a : Assignment) :
    a ∈ r.assignments ↔ ∃ p, a ∈ r.rowsFor p := by
  unfold assignments
  rw [List.mem_flatMap]
  constructor
  · rintro ⟨q, hq, ha⟩
    refine ⟨q.id, ?_⟩
    rwa [rowsFor_of_some (person?_of_mem hq)]
  · rintro ⟨p, ha⟩
    cases hp : r.person? p with
    | none => simp [rowsFor_of_none hp] at ha
    | some q =>
      rw [rowsFor_of_some hp] at ha
      exact ⟨q, mem_of_person? hp, ha⟩

/-! ### Filing -/

/-- Filing a row puts it last under its person. -/
theorem rowsFor_file (r : Roster) (a : Assignment) (loads : Bool) (o : PersonId) :
    (r.file a loads).rowsFor o =
      if o = a.person then r.rowsFor o ++ [a] else r.rowsFor o := by
  unfold file
  rw [rowsFor_eq, person?_claim, ← rowsFor_eq, rowsFor_modifyPerson, rowsFor_ensure,
    person?_ensure]
  · split
    · next ho =>
      rw [ho]
      cases h : r.person? a.person <;> simp [rowsFor, h]
    · rfl
  · intro q
    rfl

/-- Filing a row may load its person and nobody else. -/
theorem isLoaded_file (r : Roster) (a : Assignment) (loads : Bool) (o : PersonId) :
    (r.file a loads).isLoaded o =
      if o = a.person then r.isLoaded o || loads else r.isLoaded o := by
  unfold file
  rw [isLoaded, person?_claim, ← isLoaded, isLoaded_modifyPerson, isLoaded_ensure,
    person?_ensure]
  · split
    · next ho =>
      rw [ho]
      cases h : r.person? a.person <;> simp [isLoaded, h]
    · rfl
  · intro q
    rfl

/-- A filed row belongs to its person. -/
theorem ownerOf?_file (r : Roster) (a : Assignment) (loads : Bool) (id : AssignmentId) :
    (r.file a loads).ownerOf? id = if id = a.id then some a.person else r.ownerOf? id := by
  unfold file
  rw [ownerOf?_claim, ownerOf?_modifyPerson, ownerOf?_ensure]
  simp only [List.mem_singleton]

/-- A filed row shows its person last, unless the person is shown already. -/
theorem ids_file (r : Roster) (a : Assignment) (loads : Bool) :
    (r.file a loads).ids = if a.person ∈ r.ids then r.ids else r.ids ++ [a.person] := by
  unfold file
  rw [ids_claim, ids_modifyPerson, ids_ensure]

/-! ### Replacing -/

/-- The rows of a person are replaced, all others stay. -/
theorem rowsFor_replaceRows (r : Roster) (p o : PersonId) (rows : List Assignment) :
    (r.replaceRows p rows).rowsFor o = if o = p then rows else r.rowsFor o := by
  unfold replaceRows
  dsimp only
  rw [rowsFor_modifyPerson, person?_claim, person?_disclaim, person?_ensure]
  · split
    · rfl
    · rw [rowsFor_eq, person?_claim, person?_disclaim, ← rowsFor_eq, rowsFor_ensure]
  · intro q
    rfl

/-- Whose rows were replaced is loaded. -/
theorem isLoaded_replaceRows (r : Roster) (p o : PersonId) (rows : List Assignment) :
    (r.replaceRows p rows).isLoaded o = if o = p then true else r.isLoaded o := by
  unfold replaceRows
  dsimp only
  rw [isLoaded_modifyPerson, person?_claim, person?_disclaim, person?_ensure]
  · split
    · rfl
    · rw [isLoaded, person?_claim, person?_disclaim, ← isLoaded, isLoaded_ensure]
  · intro q
    rfl

/-- New rows show the person last, unless the person is shown already. -/
theorem ids_replaceRows (r : Roster) (p : PersonId) (rows : List Assignment) :
    (r.replaceRows p rows).ids = if p ∈ r.ids then r.ids else r.ids ++ [p] := by
  unfold replaceRows
  dsimp only
  rw [ids_modifyPerson, ids_claim, ids_disclaim, ids_ensure]

/-- The new rows belong to the person, the replaced ones to nobody. -/
theorem ownerOf?_replaceRows (r : Roster) (p : PersonId) (rows : List Assignment)
    (id : AssignmentId) :
    (r.replaceRows p rows).ownerOf? id =
      if id ∈ rows.map Assignment.id then some p
      else if id ∈ (r.rowsFor p).map Assignment.id then none
      else r.ownerOf? id := by
  unfold replaceRows
  rw [ownerOf?_modifyPerson, ownerOf?_claim, ownerOf?_disclaim, rowsFor_ensure, ownerOf?_ensure]

/-! ### Removing -/

/-- Where no number occurs twice, to take out the first row with a number is to take out all. -/
theorem eraseP_id_eq_filter {rows : List Assignment} (h : (rows.map Assignment.id).Nodup)
    (id : AssignmentId) :
    rows.eraseP (fun a ↦ a.id == id) = rows.filter fun a ↦ a.id ≠ id := by
  induction rows with
  | nil => rfl
  | cons a rest ih =>
    obtain ⟨hnew, hrest⟩ := List.nodup_cons.mp h
    by_cases ha : a.id = id
    · have hkept : rest.filter (fun b ↦ b.id ≠ id) = rest := by
        rw [List.filter_eq_self]
        intro b hb
        have hne : b.id ≠ id := fun hid ↦ hnew (ha.trans hid.symm ▸ List.mem_map_of_mem hb)
        simpa using hne
      rw [List.eraseP_cons_of_pos (by simpa using ha), List.filter_cons_of_neg (by simpa using ha),
        hkept]
    · rw [List.eraseP_cons_of_neg (by simpa using ha), List.filter_cons_of_pos (by simpa using ha),
        ih hrest]

theorem mem_eraseP_id {rows : List Assignment} (h : (rows.map Assignment.id).Nodup)
    (id : AssignmentId) (a : Assignment) :
    a ∈ rows.eraseP (fun a ↦ a.id == id) ↔ a ∈ rows ∧ a.id ≠ id := by
  rw [eraseP_id_eq_filter h, List.mem_filter, decide_eq_true_eq]

/-- What was removed is the first row with the number under its owner. -/
theorem remove_fst (r : Roster) (id : AssignmentId) :
    (r.remove id).1 = (r.ownerOf? id).bind fun p ↦ (r.rowsFor p).find? fun a ↦ a.id == id := by
  unfold remove
  cases r.ownerOf? id <;> rfl

/-- Removing takes the row out under its owner and leaves all others. -/
theorem rowsFor_remove (r : Roster) (id : AssignmentId) (o : PersonId) :
    (r.remove id).2.rowsFor o =
      if r.ownerOf? id = some o then (r.rowsFor o).eraseP fun a ↦ a.id == id
      else r.rowsFor o := by
  unfold remove
  cases howner : r.ownerOf? id with
  | none => simp
  | some p =>
    dsimp only
    rw [rowsFor_modifyPerson, person?_disclaim]
    · by_cases ho : o = p
      · subst ho
        rw [if_pos rfl, if_pos rfl, rowsFor_eq]
        cases r.person? o <;> rfl
      · rw [if_neg ho, if_neg (by simpa using Ne.symm ho)]
        rfl
    · intro q
      rfl

/-- Removing loads and unloads nobody. -/
theorem isLoaded_remove (r : Roster) (id : AssignmentId) (o : PersonId) :
    (r.remove id).2.isLoaded o = r.isLoaded o := by
  unfold remove
  cases r.ownerOf? id with
  | none => rfl
  | some p =>
    dsimp only
    rw [isLoaded_modifyPerson, person?_disclaim]
    · split
      · rfl
      · rfl
    · intro q
      rfl

/-- A removed assignment belongs to nobody. -/
theorem ownerOf?_remove (r : Roster) (id other : AssignmentId) :
    (r.remove id).2.ownerOf? other = if other = id then none else r.ownerOf? other := by
  unfold remove
  cases howner : r.ownerOf? id with
  | none =>
    by_cases h : other = id
    · rw [if_pos h, h]
      exact howner
    · rw [if_neg h]
  | some p =>
    dsimp only
    rw [ownerOf?_modifyPerson, ownerOf?_disclaim]
    simp only [List.mem_singleton]

/-- Removing shows the same people. -/
@[simp] theorem ids_remove (r : Roster) (id : AssignmentId) : (r.remove id).2.ids = r.ids := by
  unfold remove
  cases r.ownerOf? id with
  | none => rfl
  | some p =>
    dsimp only
    rw [ids_modifyPerson, ids_disclaim]

/-! ### Snapshots -/

private theorem rowsFor_foldl_file (r : Roster) (rows : List Assignment) (o : PersonId) :
    (rows.foldl (fun r a ↦ r.file a true) r).rowsFor o =
      r.rowsFor o ++ rows.filter fun a ↦ a.person = o := by
  induction rows generalizing r with
  | nil => simp
  | cons a rest ih =>
    rw [List.foldl_cons, ih, rowsFor_file]
    by_cases ho : a.person = o
    · simp [ho]
    · simp [ho, Ne.symm ho]

private theorem isLoaded_foldl_file (r : Roster) (rows : List Assignment) (o : PersonId) :
    (rows.foldl (fun r a ↦ r.file a true) r).isLoaded o =
      (r.isLoaded o || rows.any fun a ↦ a.person = o) := by
  induction rows generalizing r with
  | nil => simp
  | cons a rest ih =>
    rw [List.foldl_cons, ih, isLoaded_file]
    by_cases ho : a.person = o
    · simp [ho]
    · simp [ho, Ne.symm ho]

private theorem ownerOf?_foldl_file (r : Roster) (rows : List Assignment) (id : AssignmentId) :
    (rows.foldl (fun r a ↦ r.file a true) r).ownerOf? id =
      ((rows.reverse.find? fun a ↦ a.id = id).map Assignment.person).or (r.ownerOf? id) := by
  induction rows generalizing r with
  | nil => simp
  | cons a rest ih =>
    rw [List.foldl_cons, ih, ownerOf?_file, List.reverse_cons, List.find?_append]
    cases rest.reverse.find? fun a ↦ a.id = id with
    | some b => simp
    | none =>
      by_cases hid : a.id = id
      · simp [hid]
      · simp [hid, Ne.symm hid]

private theorem bare_foldl_ensure {r : Roster} (people : List Person)
    (hrows : ∀ o, r.rowsFor o = []) (hloaded : ∀ o, r.isLoaded o = false)
    (howner : ∀ id, r.ownerOf? id = none) :
    let s := people.foldl (fun r p ↦ r.ensure p.id p.name) r
    (∀ o, s.rowsFor o = []) ∧ (∀ o, s.isLoaded o = false) ∧ ∀ id, s.ownerOf? id = none := by
  induction people generalizing r with
  | nil => exact ⟨hrows, hloaded, howner⟩
  | cons p rest ih =>
    apply ih
    · intro o
      rw [rowsFor_ensure, hrows]
    · intro o
      rw [isLoaded_ensure, hloaded]
    · intro id
      rw [ownerOf?_ensure, howner]

private theorem bare_people (people : List Person) :
    let s := people.foldl (fun r p ↦ r.ensure p.id p.name) empty
    (∀ o, s.rowsFor o = []) ∧ (∀ o, s.isLoaded o = false) ∧ ∀ id, s.ownerOf? id = none :=
  bare_foldl_ensure people (fun _ ↦ rfl) (fun _ ↦ rfl) (fun _ ↦ rfl)

/-- Everyone has the own rows of the snapshot in its order. -/
theorem rowsFor_ofSnapshot (people : List Person) (rows : List Assignment) (o : PersonId) :
    (ofSnapshot people rows).rowsFor o = rows.filter fun a ↦ a.person = o := by
  unfold ofSnapshot
  rw [rowsFor_foldl_file, (bare_people people).1, List.nil_append]

/-- Whoever has rows in the snapshot is loaded, and nobody else. -/
theorem isLoaded_ofSnapshot (people : List Person) (rows : List Assignment) (o : PersonId) :
    (ofSnapshot people rows).isLoaded o = rows.any fun a ↦ a.person = o := by
  unfold ofSnapshot
  rw [isLoaded_foldl_file, (bare_people people).2.1, Bool.false_or]

/-- An assignment belongs to the person of its last row in the snapshot. -/
theorem ownerOf?_ofSnapshot (people : List Person) (rows : List Assignment) (id : AssignmentId) :
    (ofSnapshot people rows).ownerOf? id =
      (rows.reverse.find? fun a ↦ a.id = id).map Assignment.person := by
  unfold ofSnapshot
  rw [ownerOf?_foldl_file, (bare_people people).2.2, Option.or_none]

end AssignmentGrid.Roster
