import Mathlib.Logic.Function.Basic
import AssignmentGrid.Proofs.RosterLookup
import AssignmentGrid.Totals

/-!
# Revised hours

A write changes hours and nothing else. Whatever a sequence of writes does to a roster is one
revision: a function that gives each row that is found its new hours. Revisions compose row by
row, and what is read off a revised roster depends on the revision at the found rows only.
-/

namespace AssignmentGrid

/-- Rows with new hours for the first row of each number. -/
def reviseRows (f : AssignmentId → Hours → Hours) : List Assignment → List Assignment
  | [] => []
  | a :: rest =>
    { a with hours := f a.id a.hours } :: reviseRows (Function.update f a.id fun h ↦ h) rest

/-! ### Rows -/

theorem reviseRows_id (rows : List Assignment) : reviseRows (fun _ h ↦ h) rows = rows := by
  induction rows with
  | nil => rfl
  | cons a rest ih =>
    rw [reviseRows, Function.update_eq_self a.id (fun (_ : AssignmentId) (h : Hours) ↦ h), ih]

/-- Rows revised twice are revised once by both revisions. -/
theorem reviseRows_reviseRows (f g : AssignmentId → Hours → Hours) (rows : List Assignment) :
    reviseRows g (reviseRows f rows) = reviseRows (fun id h ↦ g id (f id h)) rows := by
  induction rows generalizing f g with
  | nil => rfl
  | cons a rest ih =>
    simp only [reviseRows, ih]
    congr 2
    ext id : 1
    by_cases h : id = a.id
    · subst h
      simp
    · simp [Function.update_of_ne h]

/-- What does not depend on hours is the same for revised rows. -/
theorem map_reviseRows {γ : Type} {φ : Assignment → γ}
    (h : ∀ a hours, φ { a with hours } = φ a) (f : AssignmentId → Hours → Hours)
    (rows : List Assignment) : (reviseRows f rows).map φ = rows.map φ := by
  induction rows generalizing f with
  | nil => rfl
  | cons a rest ih => rw [reviseRows, List.map_cons, List.map_cons, h, ih]

/-- Changing the first row with a number revises the hours of that number. -/
theorem updateFirst_eq_reviseRows (id : AssignmentId) (g : Hours → Hours)
    (rows : List Assignment) :
    updateFirst (fun a ↦ a.id == id) (fun a ↦ { a with hours := g a.hours }) rows =
      reviseRows (Function.update (fun _ h ↦ h) id g) rows := by
  induction rows with
  | nil => rfl
  | cons a rest ih =>
    rw [updateFirst, reviseRows]
    by_cases h : a.id = id
    · subst h
      rw [if_pos (by simp), Function.update_self, Function.update_idem,
        Function.update_eq_self a.id (fun (_ : AssignmentId) (h : Hours) ↦ h), reviseRows_id]
    · rw [if_neg (by simpa using h), ih, Function.update_of_ne h, Function.update_comm (Ne.symm h),
        Function.update_eq_self a.id (fun (_ : AssignmentId) (h : Hours) ↦ h)]

/-- The first row of a number has its revised hours. -/
theorem find?_reviseRows (f : AssignmentId → Hours → Hours) (rows : List Assignment)
    (id : AssignmentId) :
    (reviseRows f rows).find? (fun a ↦ a.id == id) =
      (rows.find? fun a ↦ a.id == id).map fun a ↦ { a with hours := f id a.hours } := by
  induction rows generalizing f with
  | nil => rfl
  | cons a rest ih =>
    rw [reviseRows]
    by_cases h : a.id = id
    · subst h
      rw [List.find?_cons_of_pos (by simp), List.find?_cons_of_pos (by simp)]
      rfl
    · rw [List.find?_cons_of_neg (by simpa using h), List.find?_cons_of_neg (by simpa using h),
        ih, Function.update_of_ne (Ne.symm h)]

/-- What is read off revised rows depends on the revision of the first row of each number. -/
theorem map_reviseRows_congr {γ : Type} {φ : Assignment → γ} {f g : AssignmentId → Hours → Hours}
    {rows : List Assignment}
    (h : ∀ id a, rows.find? (fun a ↦ a.id == id) = some a →
      φ { a with hours := f id a.hours } = φ { a with hours := g id a.hours }) :
    (reviseRows f rows).map φ = (reviseRows g rows).map φ := by
  induction rows generalizing f g with
  | nil => rfl
  | cons a rest ih =>
    rw [reviseRows, reviseRows, List.map_cons, List.map_cons]
    congr 1
    · exact h a.id a (List.find?_cons_of_pos (by simp))
    · apply ih
      intro id b hb
      by_cases hid : id = a.id
      · subst hid
        rw [Function.update_self, Function.update_self]
      · rw [Function.update_of_ne hid, Function.update_of_ne hid]
        apply h
        rw [List.find?_cons_of_neg (by simpa using Ne.symm hid)]
        exact hb

/-- Where no number occurs twice, a revision reaches every row. -/
theorem reviseRows_eq_map {f : AssignmentId → Hours → Hours} {rows : List Assignment}
    (h : (rows.map Assignment.id).Nodup) :
    reviseRows f rows = rows.map fun a ↦ { a with hours := f a.id a.hours } := by
  induction rows generalizing f with
  | nil => rfl
  | cons a rest ih =>
    rw [List.map_cons, List.nodup_cons] at h
    rw [reviseRows, ih h.2, List.map_cons]
    congr 1
    apply List.map_congr_left
    intro b hb
    have hne : b.id ≠ a.id := by
      intro he
      exact h.1 (he ▸ List.mem_map_of_mem hb)
    rw [Function.update_of_ne hne]

/-- The sum of a week is read off the amounts of the rows. -/
theorem weekSum_eq (rows : List Assignment) (week : WeekKey) :
    weekSum rows week =
      (rows.map fun a ↦ a.hours.amount week).foldl (fun sum x ↦ sum + x) (-0.0) := by
  rw [List.foldl_map]
  rfl

namespace Roster

/-- The revision of the rows of one person: only assignments that belong to the person are
reached. -/
def revisionFor (r : Roster) (f : RowKey → Hours → Hours) (p : PersonId) :
    AssignmentId → Hours → Hours :=
  fun id ↦ if r.ownerOf? id = some p then f ⟨p, id⟩ else fun h ↦ h

/-- The roster with new hours for every row that is found. -/
def revise (r : Roster) (f : RowKey → Hours → Hours) : Roster :=
  { r with
    people := r.people.map fun q ↦ { q with rows := reviseRows (r.revisionFor f q.id) q.rows }
    places_iff := by
      intro p i
      rw [List.getElem?_map, Option.map_map]
      exact r.places_iff p i }

/-! ### Rosters -/

@[simp] theorem ownerOf?_revise (r : Roster) (f : RowKey → Hours → Hours) (id : AssignmentId) :
    (r.revise f).ownerOf? id = r.ownerOf? id := rfl

@[simp] theorem ids_revise (r : Roster) (f : RowKey → Hours → Hours) :
    (r.revise f).ids = r.ids := by
  simp only [ids, revise, List.map_map]
  rfl

theorem person?_revise (r : Roster) (f : RowKey → Hours → Hours) (p : PersonId) :
    (r.revise f).person? p =
      (r.person? p).map fun q ↦ { q with rows := reviseRows (r.revisionFor f p) q.rows } := by
  have hrev : (r.revise f).people = r.people.map fun q ↦
      { q with rows := reviseRows (r.revisionFor f q.id) q.rows } := rfl
  rw [person?_eq_find?, person?_eq_find?, hrev]
  induction r.people with
  | nil => rfl
  | cons q rest ih =>
    rw [List.map_cons]
    by_cases h : q.id = p
    · subst h
      rw [List.find?_cons_of_pos (by simp), List.find?_cons_of_pos (by simp)]
      rfl
    · rw [List.find?_cons_of_neg (by simpa using h), List.find?_cons_of_neg (by simpa using h), ih]

/-- The rows of a person are revised where they belong to the person. -/
theorem rowsFor_revise (r : Roster) (f : RowKey → Hours → Hours) (p : PersonId) :
    (r.revise f).rowsFor p = reviseRows (r.revisionFor f p) (r.rowsFor p) := by
  rw [rowsFor_eq, rowsFor_eq, person?_revise]
  cases r.person? p <;> rfl

/-- A revision loads and unloads nobody. -/
@[simp] theorem isLoaded_revise (r : Roster) (f : RowKey → Hours → Hours) (p : PersonId) :
    (r.revise f).isLoaded p = r.isLoaded p := by
  unfold isLoaded
  rw [person?_revise]
  cases r.person? p <;> rfl

/-- A row that is found has its revised hours. -/
theorem find?_revise (r : Roster) (f : RowKey → Hours → Hours) (key : RowKey) :
    (r.revise f).find? key = (r.find? key).map fun a ↦ { a with hours := f key a.hours } := by
  unfold find?
  rw [ownerOf?_revise]
  split
  · next howner =>
    rw [rowsFor_revise, find?_reviseRows]
    simp only [revisionFor, if_pos howner]
  · rfl

/-- Found are exactly the first rows of a person that belong to the person. -/
theorem find?_eq_some_iff (r : Roster) (key : RowKey) (a : Assignment) :
    r.find? key = some a ↔
      r.ownerOf? key.assignment = some key.person ∧
        (r.rowsFor key.person).find? (fun a ↦ a.id == key.assignment) = some a := by
  unfold find?
  split
  · next h => simp [h]
  · next h => simp [h]

/-- An assignment is found under one person only. -/
theorem row_eq_of_find? {r : Roster} {key other : RowKey} {a b : Assignment}
    (ha : r.find? key = some a) (hb : r.find? other = some b)
    (h : key.assignment = other.assignment) : key = other := by
  have howner := ((find?_eq_some_iff r key a).mp ha).1
  have hother := ((find?_eq_some_iff r other b).mp hb).1
  rw [h, hother, Option.some.injEq] at howner
  obtain ⟨p, id⟩ := key
  obtain ⟨q, other⟩ := other
  simp_all

/-- What is read off the revised rows of a person depends on the revision of the found rows. -/
theorem map_rowsFor_revise_congr {γ : Type} {φ : Assignment → γ} {r : Roster}
    {f g : RowKey → Hours → Hours} {p : PersonId}
    (h : ∀ id a, r.find? ⟨p, id⟩ = some a →
      φ { a with hours := f ⟨p, id⟩ a.hours } = φ { a with hours := g ⟨p, id⟩ a.hours }) :
    ((r.revise f).rowsFor p).map φ = ((r.revise g).rowsFor p).map φ := by
  rw [rowsFor_revise, rowsFor_revise]
  apply map_reviseRows_congr
  intro id a ha
  unfold revisionFor
  by_cases howner : r.ownerOf? id = some p
  · rw [if_pos howner, if_pos howner]
    exact h id a ((find?_eq_some_iff r ⟨p, id⟩ a).mpr ⟨howner, ha⟩)
  · rw [if_neg howner, if_neg howner]

/-- Revisions that agree on the found rows of a person give the person the same rows. -/
theorem rowsFor_revise_congr {r : Roster} {f g : RowKey → Hours → Hours} {p : PersonId}
    (h : ∀ id a, r.find? ⟨p, id⟩ = some a → f ⟨p, id⟩ a.hours = g ⟨p, id⟩ a.hours) :
    (r.revise f).rowsFor p = (r.revise g).rowsFor p := by
  have hmap : ((r.revise f).rowsFor p).map id = ((r.revise g).rowsFor p).map id := by
    apply map_rowsFor_revise_congr
    intro id a ha
    rw [h id a ha]
  rwa [List.map_id, List.map_id] at hmap

/-- Revisions that agree on the found rows give the same roster. -/
theorem revise_congr {r : Roster} {f g : RowKey → Hours → Hours}
    (h : ∀ key a, r.find? key = some a → f key a.hours = g key a.hours) :
    r.revise f = r.revise g := by
  refine Roster.ext ?_ rfl rfl
  apply List.map_congr_left
  intro q hq
  have hrows := rowsFor_revise_congr (p := q.id) fun id a ha ↦ h ⟨q.id, id⟩ a ha
  rw [rowsFor_revise, rowsFor_revise, rowsFor_of_some (person?_of_mem hq)] at hrows
  rw [hrows]

/-- A revision that keeps the hours keeps the roster. -/
@[simp] theorem revise_id (r : Roster) : r.revise (fun _ h ↦ h) = r := by
  have hkeep (p : PersonId) : r.revisionFor (fun _ h ↦ h) p = fun _ h ↦ h := by
    ext id : 1
    unfold revisionFor
    split
    · rfl
    · rfl
  unfold revise
  simp only [hkeep, reviseRows_id, List.map_id']

/-- A roster revised twice is revised once by both revisions. -/
theorem revise_revise (r : Roster) (f g : RowKey → Hours → Hours) :
    (r.revise f).revise g = r.revise fun key h ↦ g key (f key h) := by
  have hboth (p : PersonId) :
      (fun id h ↦ r.revisionFor g p id (r.revisionFor f p id h)) =
        r.revisionFor (fun key h ↦ g key (f key h)) p := by
    ext id : 1
    unfold revisionFor
    split
    · rfl
    · rfl
  unfold revise
  simp only [List.map_map, Function.comp_def]
  congr 1
  apply List.map_congr_left
  intro q _
  have hrows := reviseRows_reviseRows (r.revisionFor f q.id) (r.revisionFor g q.id) q.rows
  rw [hboth] at hrows
  exact congrArg (fun rows ↦ { q with rows }) hrows

/-- A revision of one row revises its number under its owner. -/
private theorem revisionFor_update_self {r : Roster} {key : RowKey}
    (howner : r.ownerOf? key.assignment = some key.person) (g : Hours → Hours) :
    r.revisionFor (Function.update (fun _ h ↦ h) key g) key.person =
      Function.update (fun _ h ↦ h) key.assignment g := by
  ext id : 1
  unfold revisionFor
  by_cases hid : id = key.assignment
  · rw [hid, if_pos howner, Function.update_self, Function.update_self]
  · have hne : (⟨key.person, id⟩ : RowKey) ≠ key := by
      intro he
      exact hid (congrArg RowKey.assignment he)
    rw [Function.update_of_ne hid, Function.update_of_ne hne]
    split
    · rfl
    · rfl

/-- A revision of one row reaches nobody to whom the row does not belong. -/
private theorem revisionFor_update_of_ne {r : Roster} {key : RowKey} {p : PersonId}
    (h : ∀ id, r.ownerOf? id = some p → (⟨p, id⟩ : RowKey) ≠ key) (g : Hours → Hours) :
    r.revisionFor (Function.update (fun _ h ↦ h) key g) p = fun _ h ↦ h := by
  ext id : 1
  unfold revisionFor
  split
  · next howner => rw [Function.update_of_ne (h id howner)]
  · rfl

/-- Changing the hours of one row is a revision of that row. -/
theorem modifyHours_eq_revise (r : Roster) (key : RowKey) (g : Hours → Hours) :
    r.modifyHours key g = r.revise (Function.update (fun _ h ↦ h) key g) := by
  unfold modifyHours
  split
  · next howner =>
    refine Roster.ext ?_ rfl rfl
    rw [people_modifyPerson]
    apply List.map_congr_left
    intro q _
    by_cases hq : q.id = key.person
    · rw [if_pos (by simpa using hq), hq, revisionFor_update_self howner,
        ← updateFirst_eq_reviseRows, ← hq]
      rfl
    · have hrev := revisionFor_update_of_ne (r := r) (p := q.id)
        (fun id _ he ↦ hq (congrArg RowKey.person he)) g
      rw [if_neg (by simpa using hq), hrev, reviseRows_id]
  · next howner =>
    have hrev (p : PersonId) :
        r.revisionFor (Function.update (fun _ h ↦ h) key g) p = fun _ h ↦ h := by
      apply revisionFor_update_of_ne
      rintro id hid rfl
      exact howner hid
    unfold revise
    simp only [hrev, reviseRows_id, List.map_id']

/-- The sum of a week stays when the hours of that week stay in all found rows. -/
theorem weekSum_revise_of_amount {r : Roster} {f : RowKey → Hours → Hours} {p : PersonId}
    {week : WeekKey}
    (h : ∀ id a, r.find? ⟨p, id⟩ = some a → (f ⟨p, id⟩ a.hours)[week]? = a.hours[week]?) :
    weekSum ((r.revise f).rowsFor p) week = weekSum (r.rowsFor p) week := by
  have hsame : ((r.revise f).rowsFor p).map (fun a ↦ a.hours.amount week) =
      ((r.revise fun _ h ↦ h).rowsFor p).map fun a ↦ a.hours.amount week := by
    apply map_rowsFor_revise_congr
    intro id a ha
    simp only [Hours.amount, h id a ha]
  rw [revise_id] at hsame
  rw [weekSum_eq, weekSum_eq, hsame]

end Roster

end AssignmentGrid
