import AssignmentGrid.Snapshot

/-!
# The roster

The people of the grid in the order in which they are shown, each with the rows that are held for
them. One index tells at which place a person stands, another one to which person an assignment
belongs. A row is found only under the person to whom its assignment belongs. Specification
`PersonRow`, `SPEC_FULL.md:68–69,81–83`.
-/

namespace AssignmentGrid

/-- Change the first element with a property. -/
def updateFirst {α : Type} (p : α → Bool) (f : α → α) : List α → List α
  | [] => []
  | a :: rest => if p a then f a :: rest else a :: updateFirst p f rest

/-- A person of the grid. While the rows are not loaded, those held are not all there are.
Specification `PersonRow`, `SPEC_FULL.md:81–83`. -/
structure PersonRow where
  id : PersonId
  name : String
  rows : List Assignment := []
  isLoaded : Bool := false

/-- Give a person a name, unless there is one already or the new one is empty. -/
def PersonRow.nameIfMissing (q : PersonRow) (name : String) : PersonRow :=
  if q.name.isEmpty && !name.isEmpty then { q with name } else q

/-- Change the first row with a number. -/
def PersonRow.modifyRow (q : PersonRow) (id : AssignmentId) (f : Assignment → Assignment) :
    PersonRow :=
  { q with rows := updateFirst (fun a => a.id == id) f q.rows }

/-- The people of the grid with the rows held for them. -/
@[ext]
structure Roster where
  people : List PersonRow
  /-- The place of a person among the people. -/
  places : Std.ExtTreeMap PersonId Nat
  /-- The person to whom an assignment belongs. -/
  owner : Std.ExtTreeMap AssignmentId PersonId
  /-- A place is known for a number exactly when the person with that number stands there. -/
  places_iff : ∀ p i, places[p]? = some i ↔ people[i]?.map PersonRow.id = some p

namespace Roster

/-- Nobody. -/
def empty : Roster := ⟨[], ∅, ∅, by simp⟩

/-- A person by number. -/
def person? (r : Roster) (p : PersonId) : Option PersonRow :=
  r.places[p]?.bind fun i => r.people[i]?

/-- The rows held for a person. -/
def rowsFor (r : Roster) (p : PersonId) : List Assignment :=
  match r.person? p with
  | some q => q.rows
  | none => []

/-- The person to whom an assignment belongs. -/
def ownerOf? (r : Roster) (id : AssignmentId) : Option PersonId := r.owner[id]?

/-- A row, if the assignment belongs to its person. Operation `find`, specification
`SPEC_FULL.md:68–69,138–139`. -/
def find? (r : Roster) (key : RowKey) : Option Assignment :=
  if r.ownerOf? key.assignment = some key.person then
    (r.rowsFor key.person).find? fun a => a.id == key.assignment
  else none

/-- An assignment under whatever person it belongs to. -/
def assignment? (r : Roster) (id : AssignmentId) : Option Assignment :=
  (r.ownerOf? id).bind fun p => r.find? ⟨p, id⟩

/-- The held rows in the order in which they are shown. -/
def assignments (r : Roster) : List Assignment := r.people.flatMap PersonRow.rows

/-- The keys of the held rows in the order in which they are shown. -/
def order (r : Roster) : List RowKey := r.assignments.map Assignment.row

/-- The people with another one at a place, who keeps the number of the former one. -/
def modifyPlace (people : List PersonRow) (f : PersonRow → PersonRow) : Option Nat → List PersonRow
  | some i => people.modify i fun q => { f q with id := q.id }
  | none => people

theorem id_modifyPlace (people : List PersonRow) (f : PersonRow → PersonRow) (place? : Option Nat)
    (i : Nat) :
    (modifyPlace people f place?)[i]?.map PersonRow.id = people[i]?.map PersonRow.id := by
  cases place? with
  | none => rfl
  | some j =>
    rw [modifyPlace, List.getElem?_modify]
    cases people[i]? with
    | none => rfl
    | some q =>
      split
      · rfl
      · rfl

/-- Change one person, who keeps the number. -/
def modifyPerson (r : Roster) (p : PersonId) (f : PersonRow → PersonRow) : Roster :=
  { r with
    people := modifyPlace r.people f r.places[p]?
    places_iff := by
      intro o i
      rw [id_modifyPlace]
      exact r.places_iff o i }

/-- A new person stands behind all others. -/
theorem places_iff_insert {r : Roster} {p : PersonId} (h : r.places[p]? = none) (name : String)
    (o : PersonId) (i : Nat) :
    (r.places.insert p r.people.length)[o]? = some i ↔
      (r.people ++ [{ id := p, name }])[i]?.map PersonRow.id = some o := by
  rw [Std.ExtTreeMap.getElem?_insert, List.getElem?_append]
  by_cases hi : i < r.people.length
  · rw [if_pos hi, ← r.places_iff]
    by_cases ho : p = o
    · subst ho
      simp [h, Nat.ne_of_gt hi]
    · simp [ho]
  · have hnone : r.places[o]? ≠ some i := by
      rw [ne_eq, r.places_iff, List.getElem?_eq_none (Nat.le_of_not_lt hi)]
      nofun
    rw [if_neg hi]
    by_cases hlast : i = r.people.length
    · subst hlast
      by_cases ho : p = o <;> simp [ho, hnone]
    · have hbeyond : i - r.people.length ≠ 0 := by omega
      by_cases ho : p = o <;> simp [ho, hnone, hbeyond, Ne.symm hlast]

/-- Make sure that a person is there. A new person is shown last and has no rows; a known one may
gain a name. -/
def ensure (r : Roster) (p : PersonId) (name : String) : Roster :=
  match h : r.places[p]? with
  | some _ => r.modifyPerson p fun q => q.nameIfMissing name
  | none => { r with
      people := r.people ++ [{ id := p, name }]
      places := r.places.insert p r.people.length
      places_iff := places_iff_insert h name }

/-- Say that assignments belong to a person. -/
def claim (r : Roster) (p : PersonId) (ids : List AssignmentId) : Roster :=
  { r with owner := ids.foldl (fun owner id => owner.insert id p) r.owner }

/-- Say that assignments belong to nobody. -/
def disclaim (r : Roster) (ids : List AssignmentId) : Roster :=
  { r with owner := ids.foldl (fun owner id => owner.erase id) r.owner }

/-- File a row last under its person; with `loads` the person's rows are all loaded by then. -/
def file (r : Roster) (a : Assignment) (loads : Bool) : Roster :=
  ((r.ensure a.person (a.personName?.getD "")).modifyPerson a.person fun q =>
    { q with rows := q.rows ++ [a], isLoaded := q.isLoaded || loads }).claim a.person [a.id]

/-- The people of a snapshot in its order, and behind them those who only occur in its rows. Whoever
has rows in the snapshot is loaded. Operation `from_snapshot`, specification `SPEC_FULL.md:168–169`,
which asks for hours in the rows. -/
def ofSnapshot (people : List Person) (rows : List Assignment) : Roster :=
  rows.foldl (fun r a => r.file a true) (people.foldl (fun r p => r.ensure p.id p.name) empty)

/-- Put a new row last under its person. Operation `push_assignment`, specification
`SPEC_FULL.md:179–180`. -/
def push (r : Roster) (a : Assignment) : Roster := r.file a false

/-- Put rows in place of all rows of a person, who is loaded from then on. Operation
`replace_person_rows`, specification `SPEC_FULL.md:169–170`. -/
def replaceRows (r : Roster) (p : PersonId) (rows : List Assignment) : Roster :=
  let known := r.ensure p ((rows.findSome? Assignment.personName?).getD "")
  let former := (known.rowsFor p).map Assignment.id
  ((known.disclaim former).claim p (rows.map Assignment.id)).modifyPerson p fun q =>
    { q with rows, isLoaded := true }

/-- Take an assignment out, and the row that made it up. Operation `remove_assignment`,
specification `SPEC_FULL.md:180–181`. -/
def remove (r : Roster) (id : AssignmentId) : Option Assignment × Roster :=
  match r.ownerOf? id with
  | none => (none, r)
  | some p =>
    let left := (r.disclaim [id]).modifyPerson p fun q =>
      { q with rows := q.rows.eraseP fun a => a.id == id }
    ((r.rowsFor p).find? fun a => a.id == id, left)

/-- Change the hours of a row; an unknown row stays unknown. Operation `find_mut`, specification
`SPEC_FULL.md:128–130`. -/
def modifyHours (r : Roster) (key : RowKey) (f : Hours → Hours) : Roster :=
  if r.ownerOf? key.assignment = some key.person then
    r.modifyPerson key.person fun q => q.modifyRow key.assignment fun a =>
      { a with hours := f a.hours }
  else r

/-- The row `delta` rows below another one among the held rows, held back at both ends. Operation
`neighbor`, specification `SPEC_FULL.md:324–325`, which leaves out collapsed people. -/
def neighbor (r : Roster) (key : RowKey) (delta : Int64) : Except Halt (Option RowKey) :=
  match r.order.idxOf? key with
  | some p => (clampedMove r.order.length p delta).map fun q => r.order[q]?
  | none => .ok none

end Roster

end AssignmentGrid
