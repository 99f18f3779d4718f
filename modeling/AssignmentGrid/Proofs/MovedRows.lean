import AssignmentGrid.Proofs.HeldRows
import AssignmentGrid.Proofs.RosterIndex

/-!
# Rows that move

A service may give an assignment to another person, and a roster learns of it when the rows of that
person are replaced. The list of the former holder stays as it is then: the row is shown under both,
under the former one it is not found, and the next replacement of the former holder's rows takes it
away from its owner. Every row is found where it is shown exactly as long as no replacement brings
an assignment that somebody else holds. Specification `SPEC_FULL.md:81–83,170`.
-/

namespace AssignmentGrid

namespace RosterChange

/-- Whether a change brings rows as a service sends them: none comes twice, those of a person name
the person, and one that is added is new. -/
def IsProper (r : Roster) : RosterChange → Prop
  | ofSnapshot _ rows => (rows.map Assignment.id).Nodup
  | replaceRows p rows => (∀ row ∈ rows, row.person = p) ∧ (rows.map Assignment.id).Nodup
  | push a => r.IsFresh a.id
  | remove _ => True
  | modifyHours _ _ => True

/-- Whether a change brings nobody an assignment that somebody else holds. -/
def MovesNothing (r : Roster) : RosterChange → Prop
  | replaceRows p rows => ∀ q ∈ r.people, q.id ≠ p → ∀ a ∈ q.rows, a.id ∉ rows.map Assignment.id
  | _ => True

instance (r : Roster) : DecidablePred (IsProper r)
  | ofSnapshot _ rows => inferInstanceAs (Decidable (rows.map Assignment.id).Nodup)
  | replaceRows p rows => inferInstanceAs
      (Decidable ((∀ row ∈ rows, row.person = p) ∧ (rows.map Assignment.id).Nodup))
  | push a => inferInstanceAs (Decidable (r.IsFresh a.id))
  | remove _ => .isTrue trivial
  | modifyHours _ _ => .isTrue trivial

instance (r : Roster) : DecidablePred (MovesNothing r)
  | replaceRows p rows => inferInstanceAs (Decidable (∀ q ∈ r.people, q.id ≠ p →
      ∀ a ∈ q.rows, a.id ∉ rows.map Assignment.id))
  | ofSnapshot _ _ => .isTrue trivial
  | push _ => .isTrue trivial
  | remove _ => .isTrue trivial
  | modifyHours _ _ => .isTrue trivial

end RosterChange

namespace Roster

/-- Whether every change is what it should be at the roster that it finds. -/
def AllChanges (P : Roster → RosterChange → Prop) (r : Roster) : List RosterChange → Prop
  | [] => True
  | change :: rest => P r change ∧ (change.apply r).AllChanges P rest

instance decidableAllChanges (P : Roster → RosterChange → Prop) [∀ r, DecidablePred (P r)]
    (r : Roster) : DecidablePred (r.AllChanges P)
  | [] => .isTrue trivial
  | change :: rest =>
    have := decidableAllChanges P (change.apply r) rest
    inferInstanceAs (Decidable (P r change ∧ (change.apply r).AllChanges P rest))

/-- Every row belongs to whoever it is shown under and is found under its key, and no assignment is
shown twice. -/
structure IsReachable (r : Roster) : Prop where
  owner : r.AllRows fun p a ↦ r.ownerOf? a.id = some p
  found : r.AllRows fun _ a ↦ r.find? a.row = some a
  nodup : (r.assignments.map Assignment.id).Nodup

variable {r : Roster}

/-! ### One change -/

/-- A proper change leaves the rows in order, whatever it moves. -/
theorem IsOrderly.apply (h : r.IsOrderly) {change : RosterChange} (hproper : change.IsProper r) :
    (change.apply r).IsOrderly := by
  cases change with
  | ofSnapshot people rows => exact isOrderly_ofSnapshot people hproper
  | replaceRows p rows => exact h.replaceRows hproper.1 hproper.2
  | push row => exact h.push hproper
  | remove id => exact h.remove id
  | modifyHours key f =>
    rw [RosterChange.apply, modifyHours_eq_revise]
    exact h.revise _

/-- Rows in order are filed well exactly if they can all be reached. -/
theorem IsOrderly.isReachable_iff (h : r.IsOrderly) : r.IsReachable ↔ r.IsWellFiled := by
  constructor
  · intro hreach
    exact ⟨h.person, hreach.owner, h.nodup⟩
  · intro hfiled
    exact ⟨hfiled.owner, fun _ _ ↦ hfiled.find?_row, hfiled.nodup_assignments⟩

/-- What a replacement moves to a person is still shown under its former holder, to whom it does
not belong any more. -/
theorem not_isWellFiled_replaceRows {p q : PersonId} {rows : List Assignment} {a : Assignment}
    (hq : q ≠ p) (ha : a ∈ r.rowsFor q) (hmoved : a.id ∈ rows.map Assignment.id) :
    ¬ (r.replaceRows p rows).IsWellFiled := by
  intro h
  have hshown : a ∈ (r.replaceRows p rows).rowsFor q := by
    rwa [rowsFor_replaceRows, if_neg hq]
  have howner : (r.replaceRows p rows).ownerOf? a.id = some q := h.owner q a hshown
  rw [ownerOf?_replaceRows, if_pos hmoved, Option.some.injEq] at howner
  exact hq howner.symm

/-- A proper change keeps rows filed well exactly if it moves nothing. -/
theorem IsWellFiled.apply_iff (h : r.IsWellFiled) {change : RosterChange}
    (hproper : change.IsProper r) :
    (change.apply r).IsWellFiled ↔ change.MovesNothing r := by
  cases change with
  | ofSnapshot people rows => exact iff_of_true (isWellFiled_ofSnapshot people hproper) trivial
  | replaceRows p rows =>
    constructor
    · intro hfiled q hq hne a ha hmoved
      rw [← rowsFor_of_some (person?_of_mem hq)] at ha
      exact not_isWellFiled_replaceRows hne ha hmoved hfiled
    · intro hapart
      exact h.replaceRows ⟨hproper.1, hproper.2, hapart⟩
  | push row => exact iff_of_true (h.push hproper) trivial
  | remove id => exact iff_of_true (h.remove id) trivial
  | modifyHours key f =>
    rw [RosterChange.apply, modifyHours_eq_revise]
    exact iff_of_true (h.revise _) trivial

/-! ### Runs -/

/-- Proper changes leave the rows in order. -/
theorem IsOrderly.foldl (h : r.IsOrderly) {changes : List RosterChange}
    (hproper : r.AllChanges RosterChange.IsProper changes) :
    (changes.foldl RosterChange.apply r).IsOrderly := by
  induction changes generalizing r with
  | nil => exact h
  | cons change rest ih => exact ih (h.apply hproper.1) hproper.2

/-- The first change that moves a row is the first one after which the rows are not filed well. -/
theorem IsWellFiled.foldl_iff (h : r.IsWellFiled) {changes : List RosterChange}
    (hproper : r.AllChanges RosterChange.IsProper changes) :
    (∀ n, ((changes.take n).foldl RosterChange.apply r).IsWellFiled) ↔
      r.AllChanges RosterChange.MovesNothing changes := by
  induction changes generalizing r with
  | nil => simpa [AllChanges] using h
  | cons change rest ih =>
    rw [AllChanges, ← h.apply_iff hproper.1]
    constructor
    · intro hall
      have hfirst : (change.apply r).IsWellFiled := hall 1
      exact ⟨hfirst, (ih hfirst hproper.2).mp fun n ↦ hall (n + 1)⟩
    · rintro ⟨hfirst, hrest⟩ n
      cases n with
      | zero => exact h
      | succ n => exact (ih hfirst hproper.2).mpr hrest n

theorem AllChanges.take {P : Roster → RosterChange → Prop} {changes : List RosterChange}
    (h : r.AllChanges P changes) (n : Nat) : r.AllChanges P (changes.take n) := by
  induction changes generalizing r n with
  | nil => simpa using h
  | cons change rest ih =>
    cases n with
    | zero => trivial
    | succ n => exact ⟨h.1, ih h.2 n⟩

end Roster

/-- After proper changes everybody's rows name their person, none of them comes twice, and a row is
found where it is shown exactly if its assignment belongs to whoever it is shown under, and no owner
is left without a row. All rows were reachable all the time exactly if no change brought anybody an
assignment that somebody else held. -/
theorem rows_reachable_iff (changes : List RosterChange)
    (hproper : Roster.empty.AllChanges RosterChange.IsProper changes) :
    (Roster.after changes).IsOrderly ∧
      ((Roster.after changes).AllRows fun p a ↦
        (Roster.after changes).find? a.row = some a ↔
          (Roster.after changes).ownerOf? a.id = some p) ∧
      (Roster.after changes).OwnersHold ∧
      ((∀ n, (Roster.after (changes.take n)).IsReachable) ↔
        Roster.empty.AllChanges RosterChange.MovesNothing changes) := by
  have horderly (n : Nat) : (Roster.after (changes.take n)).IsOrderly :=
    Roster.isOrderly_empty.foldl (hproper.take n)
  have hend : (Roster.after changes).IsOrderly := Roster.isOrderly_empty.foldl hproper
  refine ⟨hend, fun p a ha ↦ hend.find?_row_iff ha, Roster.ownersHold_after changes, ?_⟩
  rw [← Roster.isWellFiled_empty.foldl_iff hproper]
  exact forall_congr' fun n ↦ (horderly n).isReachable_iff

/-- The second of two people gets a row of the first one, whose rows then come anew. -/
def rowChangingHands : List RosterChange :=
  [.ofSnapshot [⟨7, "Ada Park"⟩, ⟨9, "Sam Ortiz"⟩]
      [{ id := 42, person := 7, project := 3 }, { id := 43, person := 7, project := 4 }],
    .replaceRows 9 [{ id := 42, person := 9, project := 3 }],
    .replaceRows 7 [{ id := 43, person := 7, project := 4 }]]

theorem rows_reachable_iff_of_rowChangingHands :
    Roster.empty.AllChanges RosterChange.IsProper rowChangingHands ∧
      (Roster.after rowChangingHands).IsOrderly ∧
      ¬ ∀ n, (Roster.after (rowChangingHands.take n)).IsReachable := by
  have hproper : Roster.empty.AllChanges RosterChange.IsProper rowChangingHands := by
    decide +kernel
  obtain ⟨horderly, -, -, hreach⟩ := rows_reachable_iff rowChangingHands hproper
  refine ⟨hproper, horderly, fun hall ↦ ?_⟩
  have hmoved : ¬ Roster.empty.AllChanges RosterChange.MovesNothing rowChangingHands := by
    decide +kernel
  exact hmoved (hreach.mp hall)

/-- A row that changes hands is shown twice at first, and once its former holder's rows are replaced
it is shown to the new one without being found. -/
theorem moved_row_shown_but_not_found :
    Roster.empty.AllChanges RosterChange.IsProper rowChangingHands ∧
      (Roster.after (rowChangingHands.take 2)).order = [⟨7, 42⟩, ⟨7, 43⟩, ⟨9, 42⟩] ∧
      (Roster.after rowChangingHands).order = [⟨7, 43⟩, ⟨9, 42⟩] ∧
      (Roster.after rowChangingHands).ownerOf? 42 = none ∧
      (Roster.after rowChangingHands).find? ⟨9, 42⟩ = none := by
  decide +kernel

end AssignmentGrid
