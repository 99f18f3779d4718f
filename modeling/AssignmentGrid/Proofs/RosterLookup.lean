import AssignmentGrid.Roster

/-!
# Look-ups in a changed roster

A roster is seen through four look-ups: the numbers of its people in order, the rows held for a
person, whether those are all loaded, and the person to whom an assignment belongs. For every
change of a roster there is one equation for each of them, so that nothing else has to look into
the change.
-/

namespace AssignmentGrid.Roster

/-- The numbers of the people in the order in which they are shown. -/
def ids (r : Roster) : List PersonId := r.people.map PersonRow.id

/-- Whether all rows of a person are held. -/
def isLoaded (r : Roster) (p : PersonId) : Bool := (r.person? p).any PersonRow.isLoaded

/-! ### Places -/

/-- The place of a person is that of the number among all numbers. -/
theorem getElem?_places (r : Roster) (p : PersonId) (i : Nat) :
    r.places[p]? = some i ↔ r.ids[i]? = some p := by
  rw [r.places_iff, ids, List.getElem?_map]

/-- A place is known exactly for the people's own numbers. -/
theorem isSome_places (r : Roster) (p : PersonId) : r.places[p]?.isSome ↔ p ∈ r.ids := by
  rw [Option.isSome_iff_exists, List.mem_iff_getElem?]
  exact exists_congr fun i ↦ r.getElem?_places p i

/-- Nobody has the number of another one. -/
theorem nodup_ids (r : Roster) : r.ids.Nodup := by
  unfold List.Nodup
  rw [List.pairwise_iff_getElem]
  intro i j hi hj hij hsame
  have hfirst := (r.getElem?_places r.ids[i] i).mpr (List.getElem?_eq_getElem hi)
  have hsecond := (r.getElem?_places r.ids[j] j).mpr (List.getElem?_eq_getElem hj)
  rw [hsame, hsecond, Option.some.injEq] at hfirst
  omega

/-- By the index of places everyone is found who is found by looking at all the people. -/
theorem person?_eq_find? (r : Roster) (p : PersonId) :
    r.person? p = r.people.find? fun q ↦ q.id == p := by
  unfold person?
  cases hplace : r.places[p]? with
  | none =>
    refine Eq.symm (List.find?_eq_none.mpr ?_)
    intro q hq hid
    obtain ⟨i, hi⟩ := List.mem_iff_getElem?.mp hq
    have hsome := (r.places_iff p i).mpr (by rw [hi]; simpa using hid)
    rw [hplace] at hsome
    cases hsome
  | some i =>
    obtain ⟨q, hq, hid⟩ := Option.map_eq_some_iff.mp ((r.places_iff p i).mp hplace)
    obtain ⟨hi, rfl⟩ := List.getElem?_eq_some_iff.mp hq
    refine Eq.trans hq (Eq.symm (List.find?_eq_some_iff_getElem.mpr ?_))
    refine ⟨by simpa using hid, i, hi, rfl, ?_⟩
    intro j hj
    have hne : (r.people[j]).id ≠ p := by
      intro hp
      have hother := (r.places_iff p j).mpr (by rw [List.getElem?_eq_getElem]; simpa using hp)
      rw [hplace, Option.some.injEq] at hother
      omega
    simpa using hne

/-! ### One person -/

/-- Whoever is found is one of the people. -/
theorem mem_of_person? {r : Roster} {p : PersonId} {q : PersonRow} (h : r.person? p = some q) :
    q ∈ r.people := by
  rw [person?_eq_find?] at h
  exact List.mem_of_find?_eq_some h

/-- Whoever is found under a number has it. -/
theorem id_of_person? {r : Roster} {p : PersonId} {q : PersonRow} (h : r.person? p = some q) :
    q.id = p := by
  rw [person?_eq_find?] at h
  simpa using List.find?_some h

/-- Somebody is found under exactly the numbers of the people. -/
theorem isSome_person? (r : Roster) (p : PersonId) : (r.person? p).isSome ↔ p ∈ r.ids := by
  simp [person?_eq_find?, ids]

/-- Nobody is found under any other number. -/
theorem person?_eq_none_iff (r : Roster) (p : PersonId) : r.person? p = none ↔ p ∉ r.ids := by
  rw [← r.isSome_person?, Option.not_isSome_iff_eq_none]

/-- Each of the people is found under the own number. -/
theorem person?_of_mem {r : Roster} {q : PersonRow} (hq : q ∈ r.people) :
    r.person? q.id = some q := by
  obtain ⟨i, hi⟩ := List.mem_iff_getElem?.mp hq
  have hplace : r.places[q.id]? = some i := by
    rw [r.places_iff, hi]
    rfl
  rw [person?, hplace]
  exact hi

theorem rowsFor_eq (r : Roster) (p : PersonId) :
    r.rowsFor p = ((r.person? p).map PersonRow.rows).getD [] := by
  unfold rowsFor
  cases r.person? p <;> rfl

/-- Somebody unknown has no rows. -/
theorem rowsFor_of_none {r : Roster} {p : PersonId} (h : r.person? p = none) :
    r.rowsFor p = [] := by
  simp [rowsFor, h]

/-- The rows of a person are those held for the person's number. -/
theorem rowsFor_of_some {r : Roster} {p : PersonId} {q : PersonRow} (h : r.person? p = some q) :
    r.rowsFor p = q.rows := by
  simp [rowsFor, h]

/-! ### Changing one person -/

/-- Changing the person at a place changes everyone with that person's number. -/
theorem people_modifyPerson (r : Roster) (p : PersonId) (f : PersonRow → PersonRow) :
    (r.modifyPerson p f).people =
      r.people.map fun q ↦ if q.id == p then { f q with id := q.id } else q := by
  apply List.ext_getElem?
  intro j
  have hplace (q : PersonRow) (hq : r.people[j]? = some q) :
      r.places[p]? = some j ↔ q.id = p := by
    rw [r.places_iff, hq, Option.map_some, Option.some.injEq]
  rw [List.getElem?_map]
  unfold modifyPerson modifyPlace
  dsimp only
  cases hq : r.people[j]? with
  | none =>
    split
    · rw [List.getElem?_modify, hq]
      rfl
    · rw [hq]
      rfl
  | some q =>
    split
    · next i hi =>
      rw [hi, Option.some.injEq] at hplace
      simp [List.getElem?_modify, hq, hplace q hq]
    · next hnone =>
      rw [hnone] at hplace
      have hid : q.id ≠ p := fun hid ↦ nomatch (hplace q hq).mpr hid
      simp [hq, hid]

/-- Changing one person changes what is found under that number only. -/
theorem person?_modifyPerson (r : Roster) (p o : PersonId) {f : PersonRow → PersonRow}
    (hf : ∀ q, (f q).id = q.id) :
    (r.modifyPerson p f).person? o = if o = p then (r.person? o).map f else r.person? o := by
  have hkeep (q : PersonRow) : { f q with id := q.id } = f q := by rw [← hf q]
  simp only [person?_eq_find?, people_modifyPerson, hkeep]
  induction r.people with
  | nil => simp
  | cons first rest ih =>
    have hid : (if (first.id == p) = true then f first else first).id = first.id := by
      split
      · exact hf first
      · rfl
    rw [List.map_cons]
    by_cases ho : first.id = o
    · rw [List.find?_cons_of_pos (by rw [hid]; simpa using ho),
        List.find?_cons_of_pos (by simpa using ho)]
      by_cases hp : o = p <;> simp [ho, hp]
    · rw [List.find?_cons_of_neg (by rw [hid]; simpa using ho),
        List.find?_cons_of_neg (by simpa using ho)]
      exact ih

/-- Changing one person leaves the numbers of the people as they are. -/
@[simp] theorem ids_modifyPerson (r : Roster) (p : PersonId) (f : PersonRow → PersonRow) :
    (r.modifyPerson p f).ids = r.ids := by
  apply List.ext_getElem?
  intro i
  unfold ids
  rw [List.getElem?_map, List.getElem?_map]
  exact id_modifyPlace r.people f r.places[p]? i

@[simp] theorem ownerOf?_modifyPerson (r : Roster) (p : PersonId) (f : PersonRow → PersonRow)
    (id : AssignmentId) : (r.modifyPerson p f).ownerOf? id = r.ownerOf? id := rfl

/-- Giving a name keeps number, rows and state. -/
@[simp] theorem rows_nameIfMissing (q : PersonRow) (name : String) :
    (q.nameIfMissing name).rows = q.rows := by
  unfold PersonRow.nameIfMissing
  split <;> rfl

@[simp] theorem id_nameIfMissing (q : PersonRow) (name : String) :
    (q.nameIfMissing name).id = q.id := by
  unfold PersonRow.nameIfMissing
  split <;> rfl

@[simp] theorem isLoaded_nameIfMissing (q : PersonRow) (name : String) :
    (q.nameIfMissing name).isLoaded = q.isLoaded := by
  unfold PersonRow.nameIfMissing
  split <;> rfl

/-! ### Making sure of a person -/

/-- After making sure of a person, that person is found and everyone else is found as before. -/
theorem person?_ensure (r : Roster) (p o : PersonId) (name : String) :
    (r.ensure p name).person? o =
      if o = p then some (((r.person? p).map fun q ↦ q.nameIfMissing name).getD { id := p, name })
      else r.person? o := by
  unfold ensure
  split
  · next i hplace =>
    have hp : p ∈ r.ids := (isSome_places r p).mp (by simp [hplace])
    obtain ⟨q, hq⟩ := Option.isSome_iff_exists.mp ((isSome_person? r p).mpr hp)
    rw [person?_modifyPerson r p o fun q ↦ id_nameIfMissing q name]
    split
    · next ho => simp [ho, hq]
    · rfl
  · next hplace =>
    have hp : r.person? p = none := by simp [person?, hplace]
    simp only [person?_eq_find?, List.find?_append] at hp ⊢
    by_cases ho : o = p
    · simp [ho, hp]
    · simp [ho, Ne.symm ho]

/-- Making sure of a person shows a new one last. -/
theorem ids_ensure (r : Roster) (p : PersonId) (name : String) :
    (r.ensure p name).ids = if p ∈ r.ids then r.ids else r.ids ++ [p] := by
  unfold ensure
  split
  · next i hplace =>
    have hp : p ∈ r.ids := (isSome_places r p).mp (by simp [hplace])
    simp [hp]
  · next hplace =>
    have hp : p ∉ r.ids := fun hp ↦ by simpa [hplace] using (isSome_places r p).mpr hp
    rw [if_neg hp]
    simp [ids]

@[simp] theorem ownerOf?_ensure (r : Roster) (p : PersonId) (name : String) (id : AssignmentId) :
    (r.ensure p name).ownerOf? id = r.ownerOf? id := by
  unfold ensure
  split <;> rfl

/-- Making sure of a person changes no rows. -/
@[simp] theorem rowsFor_ensure (r : Roster) (p o : PersonId) (name : String) :
    (r.ensure p name).rowsFor o = r.rowsFor o := by
  rw [rowsFor_eq, rowsFor_eq, person?_ensure]
  split
  · next ho =>
    subst ho
    cases r.person? o <;> simp
  · rfl

/-- Making sure of a person loads nothing. -/
@[simp] theorem isLoaded_ensure (r : Roster) (p o : PersonId) (name : String) :
    (r.ensure p name).isLoaded o = r.isLoaded o := by
  unfold isLoaded
  rw [person?_ensure]
  split
  · next ho =>
    subst ho
    cases r.person? o <;> simp
  · rfl

/-! ### Owners -/

@[simp] theorem person?_claim (r : Roster) (p o : PersonId) (ids : List AssignmentId) :
    (r.claim p ids).person? o = r.person? o := rfl

@[simp] theorem person?_disclaim (r : Roster) (o : PersonId) (ids : List AssignmentId) :
    (r.disclaim ids).person? o = r.person? o := rfl

@[simp] theorem ids_claim (r : Roster) (p : PersonId) (ids : List AssignmentId) :
    (r.claim p ids).ids = r.ids := rfl

@[simp] theorem ids_disclaim (r : Roster) (ids : List AssignmentId) :
    (r.disclaim ids).ids = r.ids := rfl

/-- Exactly the claimed assignments change their owner. -/
theorem ownerOf?_claim (r : Roster) (p : PersonId) (ids : List AssignmentId) (id : AssignmentId) :
    (r.claim p ids).ownerOf? id = if id ∈ ids then some p else r.ownerOf? id := by
  have all (owner : Std.ExtTreeMap AssignmentId PersonId) :
      (ids.foldl (fun owner id ↦ owner.insert id p) owner)[id]? =
        if id ∈ ids then some p else owner[id]? := by
    induction ids generalizing owner with
    | nil => simp
    | cons first rest ih =>
      rw [List.foldl_cons, ih, Std.ExtTreeMap.getElem?_insert]
      by_cases hr : id ∈ rest
      · simp [hr]
      · by_cases hf : first = id
        · simp [hf]
        · simp [hr, hf, Ne.symm hf]
  exact all r.owner

/-- Exactly the disclaimed assignments lose their owner. -/
theorem ownerOf?_disclaim (r : Roster) (ids : List AssignmentId) (id : AssignmentId) :
    (r.disclaim ids).ownerOf? id = if id ∈ ids then none else r.ownerOf? id := by
  have all (owner : Std.ExtTreeMap AssignmentId PersonId) :
      (ids.foldl (fun owner id ↦ owner.erase id) owner)[id]? =
        if id ∈ ids then none else owner[id]? := by
    induction ids generalizing owner with
    | nil => simp
    | cons first rest ih =>
      rw [List.foldl_cons, ih, Std.ExtTreeMap.getElem?_erase]
      by_cases hr : id ∈ rest
      · simp [hr]
      · by_cases hf : first = id
        · simp [hf]
        · simp [hr, hf, Ne.symm hf]
  exact all r.owner

end AssignmentGrid.Roster
