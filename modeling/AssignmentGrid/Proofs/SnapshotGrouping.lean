import Mathlib.Data.List.Induction
import Mathlib.Data.List.Perm.Basic
import AssignmentGrid.Proofs.RosterFiling

/-!
# Grouping a snapshot

A snapshot lists its people and its rows apart from each other, people more than once and rows of
people whom it does not list. The roster that shows it names everyone once, in the order in which
they first occur, and gives them their own rows. No row is lost, and none comes twice. Specification
`SPEC_FULL.md:81–83,166–169`.
-/

namespace AssignmentGrid

/-! ### Groups -/

section

variable {α : Type} [DecidableEq α]

/-- Elements that are grouped by their keys are the same elements in another order. -/
theorem perm_flatMap_filter {β : Type} (key : β → α) {keys : List α} (hkeys : keys.Nodup)
    (xs : List β) :
    (keys.flatMap fun k ↦ xs.filter fun x ↦ key x = k).Perm (xs.filter fun x ↦ key x ∈ keys) := by
  induction keys with
  | nil => simp
  | cons k rest ih =>
    obtain ⟨hk, hrest⟩ := List.nodup_cons.mp hkeys
    have hgroup : (xs.filter fun x ↦ key x ∈ k :: rest).filter (fun x ↦ key x = k) =
        xs.filter fun x ↦ key x = k := by
      rw [List.filter_filter]
      apply List.filter_congr
      intro x _
      by_cases hx : key x = k <;> simp [hx]
    have hothers : (xs.filter fun x ↦ key x ∈ k :: rest).filter (fun x ↦ !decide (key x = k)) =
        xs.filter fun x ↦ key x ∈ rest := by
      rw [List.filter_filter]
      apply List.filter_congr
      intro x _
      by_cases hx : key x = k <;> simp [hx, hk]
    have hsplit := List.filter_append_perm (fun x ↦ decide (key x = k))
      (xs.filter fun x ↦ key x ∈ k :: rest)
    rw [hgroup, hothers] at hsplit
    rw [List.flatMap_cons]
    exact ((ih hrest).append_left _).trans hsplit

end

/-! ### Names -/

/-- The first name that is not empty; without any the empty one. -/
def firstName (names : List String) : String := (names.find? fun name ↦ !name.isEmpty).getD ""

theorem firstName_append_singleton (names : List String) (name : String) :
    firstName (names ++ [name]) =
      if (firstName names).isEmpty then name else firstName names := by
  unfold firstName
  rw [List.find?_append]
  cases hfound : names.find? fun name ↦ !name.isEmpty with
  | none =>
    cases hempty : name.isEmpty with
    | true => simp [String.isEmpty_iff.mp hempty]
    | false => simp [hempty]
  | some found =>
    have hnonempty : found.isEmpty = false := by simpa using List.find?_some hfound
    simp [hnonempty]

namespace Roster

/-- The name of a person; somebody unknown has the empty one. -/
def nameFor (r : Roster) (p : PersonId) : String := ((r.person? p).map PersonRow.name).getD ""

/-- Making sure of a person gives the person a name if there was none. -/
theorem nameFor_ensure (r : Roster) (p : PersonId) (name : String) (o : PersonId) :
    (r.ensure p name).nameFor o =
      if o = p then if (r.nameFor o).isEmpty then name else r.nameFor o else r.nameFor o := by
  unfold nameFor
  rw [person?_ensure]
  split
  · next ho =>
    subst ho
    cases r.person? o with
    | none => rfl
    | some q =>
      change (q.nameIfMissing name).name = if q.name.isEmpty then name else q.name
      unfold PersonRow.nameIfMissing
      cases hq : q.name.isEmpty with
      | false => rfl
      | true =>
        cases hname : name.isEmpty with
        | false => rfl
        | true =>
          rw [String.isEmpty_iff.mp hname]
          exact String.isEmpty_iff.mp hq
  · rfl

/-- Filing a row gives its person a name if there was none. -/
theorem nameFor_file (r : Roster) (a : Assignment) (loads : Bool) (o : PersonId) :
    (r.file a loads).nameFor o = (r.ensure a.person (a.personName?.getD "")).nameFor o := by
  unfold file nameFor
  rw [person?_claim, person?_modifyPerson]
  · split
    · rw [Option.map_map]
      rfl
    · rfl
  · intro q
    rfl

/-! ### Whoever occurs -/

/-- The roster after steps that each make sure of a person. -/
theorem ids_foldl {α : Type} {f : Roster → α → Roster} (key : α → PersonId)
    (hf : ∀ r a, (f r a).ids = if key a ∈ r.ids then r.ids else r.ids ++ [key a]) {r : Roster}
    {seen : List PersonId} (hr : r.ids = firstOccurrences seen) (xs : List α) :
    (xs.foldl f r).ids = firstOccurrences (seen ++ xs.map key) := by
  induction xs using List.reverseRecOn with
  | nil => rw [List.foldl_nil, List.map_nil, List.append_nil, hr]
  | append_singleton xs a ih =>
    rw [List.foldl_append, List.foldl_cons, List.foldl_nil, hf, ih, List.map_append,
      ← List.append_assoc, List.map_singleton, firstOccurrences_append_singleton]
    simp only [mem_firstOccurrences]

/-- The name of a person after steps that each bring a name for somebody. -/
theorem nameFor_foldl {α : Type} {f : Roster → α → Roster} (key : α → PersonId)
    (name : α → String) {o : PersonId}
    (hf : ∀ r a, (f r a).nameFor o = (r.ensure (key a) (name a)).nameFor o) {r : Roster}
    {given : List String} (hr : r.nameFor o = firstName given) (xs : List α) :
    (xs.foldl f r).nameFor o =
      firstName (given ++ (xs.filter fun a ↦ key a = o).map name) := by
  induction xs using List.reverseRecOn with
  | nil => rw [List.foldl_nil, List.filter_nil, List.map_nil, List.append_nil, hr]
  | append_singleton xs a ih =>
    rw [List.foldl_append, List.foldl_cons, List.foldl_nil, hf, nameFor_ensure, ih,
      List.filter_append, List.map_append, ← List.append_assoc]
    by_cases ho : o = key a
    · rw [if_pos ho, List.filter_cons_of_pos (by simp [ho]), List.filter_nil, List.map_singleton,
        firstName_append_singleton]
    · rw [if_neg ho, List.filter_cons_of_neg (by simp [Ne.symm ho]), List.filter_nil,
        List.map_nil, List.append_nil]

/-- In a snapshot the people stand in the order in which they first occur. -/
theorem ids_ofSnapshot (people : List Person) (rows : List Assignment) :
    (ofSnapshot people rows).ids =
      firstOccurrences (people.map Person.id ++ rows.map Assignment.person) := by
  have hnobody : empty.ids = firstOccurrences [] := rfl
  have hpeople := ids_foldl Person.id (fun r p ↦ r.ids_ensure p.id p.name) hnobody people
  exact ids_foldl Assignment.person (fun r a ↦ r.ids_file a true) hpeople rows

/-- In a snapshot a person has the first name that it gives, in its people and then in its rows. -/
theorem nameFor_ofSnapshot (people : List Person) (rows : List Assignment) (o : PersonId) :
    (ofSnapshot people rows).nameFor o =
      firstName ((people.filter fun p ↦ p.id = o).map Person.name ++
        (rows.filter fun a ↦ a.person = o).map fun a ↦ a.personName?.getD "") := by
  have hnobody : empty.nameFor o = firstName [] := rfl
  have hpeople : (people.foldl (fun r p ↦ r.ensure p.id p.name) empty).nameFor o = _ :=
    nameFor_foldl Person.id Person.name (fun _ _ ↦ rfl) hnobody people
  exact nameFor_foldl Assignment.person _ (fun r a ↦ r.nameFor_file a true o) hpeople rows

end Roster

/-- A snapshot names everyone once, in the order of the first occurrence among its people and then
among its rows. Each person has exactly the own rows in their order and is loaded if there are any,
under the first name that the snapshot gives. All together have the rows of the snapshot. -/
theorem snapshot_grouped_by_person (people : List Person) (rows : List Assignment) :
    let r := Roster.ofSnapshot people rows
    r.people.map PersonRow.id =
        firstOccurrences (people.map Person.id ++ rows.map Assignment.person) ∧
      (r.people.map PersonRow.id).Nodup ∧
      (∀ q ∈ r.people,
        q.rows = (rows.filter fun a ↦ a.person = q.id) ∧
        (q.isLoaded = true ↔ q.rows ≠ []) ∧
        q.name = firstName ((people.filter fun p ↦ p.id = q.id).map Person.name ++
          (rows.filter fun a ↦ a.person = q.id).map fun a ↦ a.personName?.getD "")) ∧
      (r.people.flatMap PersonRow.rows).Perm rows := by
  intro r
  have hids : r.ids = firstOccurrences (people.map Person.id ++ rows.map Assignment.person) :=
    Roster.ids_ofSnapshot people rows
  have hrows : ∀ q ∈ r.people, q.rows = rows.filter fun a ↦ a.person = q.id := by
    intro q hq
    rw [← Roster.rowsFor_of_some (Roster.person?_of_mem hq)]
    exact Roster.rowsFor_ofSnapshot people rows q.id
  refine ⟨hids, r.nodup_ids, fun q hq ↦ ⟨hrows q hq, ?_, ?_⟩, ?_⟩
  · have hloaded : q.isLoaded = rows.any fun a ↦ a.person = q.id := by
      rw [← Roster.isLoaded_ofSnapshot people rows q.id, Roster.isLoaded, Roster.person?_of_mem hq]
      rfl
    rw [hloaded, hrows q hq, ne_eq, List.filter_eq_nil_iff, List.any_eq_true]
    simp
  · rw [← Roster.nameFor_ofSnapshot, Roster.nameFor, Roster.person?_of_mem hq]
    rfl
  · have hgroups : r.people.flatMap PersonRow.rows =
        r.ids.flatMap fun p ↦ rows.filter fun a ↦ a.person = p := by
      rw [Roster.ids, List.flatMap_map]
      exact List.flatMap_congr hrows
    have hall : (rows.filter fun a ↦ a.person ∈ r.ids) = rows := by
      apply List.filter_eq_self.mpr
      intro a ha
      rw [hids, decide_eq_true_iff, mem_firstOccurrences]
      exact List.mem_append_right _ (List.mem_map_of_mem ha)
    have hperm := perm_flatMap_filter Assignment.person r.nodup_ids rows
    rwa [hall, ← hgroups] at hperm

end AssignmentGrid
