import AssignmentGrid.Proofs.FilteredRows
import AssignmentGrid.Proofs.References
import AssignmentGrid.Proofs.RosterStep

/-!
# Rows that nobody sees

Under a filter that lets everything pass, the people are shown whose rows are held, and whoever has
not been loaded is shown without rows. So a row is hidden exactly when it is held for somebody who
has not been loaded. Only creating a row can lead there: it files the row under its person and loads
nobody. Specification `SPEC_FULL.md:84–85,173–174`.
-/

namespace AssignmentGrid

/-! ### Everything passes -/

namespace StatusFilter

variable {f : StatusFilter} {projects : Projects}

/-- A person as shown when everything passes. -/
def shown (q : PersonRow) : VisiblePerson :=
  ⟨q.id, if q.isLoaded then q.rows.map Assignment.id else []⟩

/-- A filter that lets everything pass gives up nowhere and lists everybody. -/
theorem apply_of_isAll (h : f.isAll = true) (r : Roster) :
    f.apply projects r = .ok (r.people.map shown) := by
  have hnever : r.loadedRows.find? (f.givesUpAt projects) = none := by
    simp [List.find?_eq_none, givesUpAt, h]
  have heverybody : r.people.filter (f.lists projects) = r.people := by
    simp [List.filter_eq_self, lists, h]
  have hlisting (q : PersonRow) : f.listing projects q = shown q := by
    have hrows : q.loadedRows.filter (f.admits projects) = q.loadedRows := by
      simp [List.filter_eq_self, admits, h]
    rw [listing, hrows, shown, PersonRow.loadedRows, apply_ite (List.map Assignment.id),
      List.map_nil]
  rw [apply_eq, outcome, hnever, heverybody]
  exact congrArg Except.ok (List.map_congr_left fun q _ ↦ hlisting q)

end StatusFilter

/-- When everything passes, all people are shown in their order, with their rows if these are
loaded. -/
theorem Grid.visible_of_isAll {g : Grid} (h : g.filter.isAll = true) :
    g.visible = g.roster.people.map StatusFilter.shown := by
  unfold visible
  rw [StatusFilter.apply_of_isAll h]

/-! ### Rosters that hide nothing -/

namespace Roster

variable {r : Roster}

/-- Whoever has not been loaded has no rows. -/
def HidesNothing (r : Roster) : Prop := ∀ p, r.isLoaded p = false → r.rowsFor p = []

theorem hidesNothing_iff (r : Roster) :
    r.HidesNothing ↔ ∀ q ∈ r.people, q.isLoaded = false → q.rows = [] := by
  constructor
  · intro h q hq hloaded
    have hperson := person?_of_mem hq
    rw [← rowsFor_of_some hperson]
    apply h
    rw [isLoaded, hperson]
    exact hloaded
  · intro h p hloaded
    cases hperson : r.person? p with
    | none => exact rowsFor_of_none hperson
    | some q =>
      rw [rowsFor_of_some hperson]
      apply h q (mem_of_person? hperson)
      rwa [isLoaded, hperson] at hloaded

/-- People are shown with all their rows exactly if nothing is hidden. -/
theorem map_shown_eq_everyone_iff (r : Roster) :
    r.people.map StatusFilter.shown = r.everyone ↔ r.HidesNothing := by
  rw [everyone, List.map_inj_left, hidesNothing_iff]
  refine forall₂_congr fun q _ ↦ ?_
  unfold StatusFilter.shown PersonRow.visible
  cases q.isLoaded with
  | true => simp
  | false => simp [eq_comm (a := [])]

theorem hidesNothing_empty : empty.HidesNothing := fun _ _ ↦ rfl

theorem hidesNothing_ofSnapshot (people : List Person) (rows : List Assignment) :
    (ofSnapshot people rows).HidesNothing := by
  intro p hloaded
  rw [isLoaded_ofSnapshot, List.any_eq_false] at hloaded
  rw [rowsFor_ofSnapshot, List.filter_eq_nil_iff]
  exact hloaded

theorem HidesNothing.revise (h : r.HidesNothing) (f : RowKey → Hours → Hours) :
    (r.revise f).HidesNothing := by
  intro p hloaded
  rw [isLoaded_revise] at hloaded
  rw [rowsFor_revise, h p hloaded]
  rfl

/-- Whose rows are replaced is loaded thereby. -/
theorem HidesNothing.replaceRows (h : r.HidesNothing) (p : PersonId) (rows : List Assignment) :
    (r.replaceRows p rows).HidesNothing := by
  intro q hloaded
  rw [isLoaded_replaceRows] at hloaded
  split at hloaded
  · cases hloaded
  · next hq =>
    rw [rowsFor_replaceRows, if_neg hq]
    exact h q hloaded

theorem HidesNothing.remove (h : r.HidesNothing) (id : AssignmentId) :
    (r.remove id).2.HidesNothing := by
  intro q hloaded
  rw [isLoaded_remove] at hloaded
  rw [rowsFor_remove, h q hloaded]
  split
  · rfl
  · rfl

/-- A row that is added is hidden exactly if its person has not been loaded. -/
theorem HidesNothing.push_iff (h : r.HidesNothing) (row : Assignment) :
    (r.push row).HidesNothing ↔ r.isLoaded row.person = true := by
  have hloaded (q : PersonId) : (r.push row).isLoaded q = r.isLoaded q := by
    rw [push, isLoaded_file, Bool.or_false, ite_self]
  constructor
  · intro hpushed
    by_contra hperson
    have hnone := hpushed row.person (by rw [hloaded]; simpa using hperson)
    rw [push, rowsFor_file, if_pos rfl] at hnone
    simp at hnone
  · intro hperson q hq
    rw [hloaded] at hq
    have hne : q ≠ row.person := by
      rintro rfl
      rw [hperson] at hq
      cases hq
    rw [push, rowsFor_file, if_neg hne]
    exact h q hq

end Roster

/-! ### Actions -/

variable {σ : Type}

namespace Action

/-- Whether a row that an action creates is one of somebody who has been loaded. -/
def CreatesShown (b : Backend σ) (g : Grid) (s : σ) : Action → Prop
  | operation (.assign p project) => (g.roster.person? p).isSome = true →
      Delivers (b.createRow p project s).1 fun row ↦ g.roster.isLoaded row.person = true
  | _ => True

instance (b : Backend σ) (g : Grid) (s : σ) : DecidablePred (CreatesShown b g s)
  | operation (.assign p project) =>
    inferInstanceAs (Decidable ((g.roster.person? p).isSome = true →
      Delivers (b.createRow p project s).1 fun row ↦ g.roster.isLoaded row.person = true))
  | operation (.load _) | operation .reload | operation (.setWeeks _) | operation (.setScope _)
  | operation (.expand _) | operation (.refresh _) | operation (.unassign _)
  | operation (.apply _ _) | operation .commit | operation (.input _) | piece _ | gesture _ =>
    .isTrue trivial

/-- Whether all rows that a run creates are rows of people who have been loaded. -/
def AlwaysCreatesShown (b : Backend σ) : List Action → Grid × σ → Prop
  | [], _ => True
  | a :: rest, x => a.CreatesShown b x.1 x.2 ∧ AlwaysCreatesShown b rest (a.perform b x.1 x.2)

instance decidableAlwaysCreatesShown (b : Backend σ) : (actions : List Action) → (x : Grid × σ) →
    Decidable (AlwaysCreatesShown b actions x)
  | [], _ => .isTrue trivial
  | a :: rest, x =>
    have := decidableAlwaysCreatesShown b rest (a.perform b x.1 x.2)
    inferInstanceAs (Decidable (_ ∧ _))

/-- The row that an assignment creates is filed. -/
theorem roster_assign {b : Backend σ} {g : Grid} {s : σ} {p : PersonId} {project : ProjectId}
    {row : Assignment} (hknown : (g.roster.person? p).isSome = true)
    (hanswer : (b.createRow p project s).1 = .ok row) :
    ((operation (.assign p project)).perform b g s).1.roster = g.roster.push row := by
  obtain ⟨q, hq⟩ := Option.isSome_iff_exists.mp hknown
  have hcreated : b.createRow p project s = (.ok row, (b.createRow p project s).2) := by
    rw [← hanswer]
  simp only [perform, Operation.perform, Grid.assign, hq, Reply.state]
  rw [hcreated]
  rfl

/-- An action leaves nothing hidden exactly if what it creates is shown. -/
theorem hidesNothing_perform_iff {b : Backend σ} {g : Grid} {s : σ}
    (h : g.roster.HidesNothing) (a : Action) :
    (a.perform b g s).1.roster.HidesNothing ↔ a.CreatesShown b g s := by
  constructor
  · intro hlater
    unfold CreatesShown
    split
    · next p project =>
      intro hknown row hanswer
      rwa [roster_assign hknown hanswer, h.push_iff] at hlater
    · trivial
  · intro hshown
    generalize hlater : (a.perform b g s).1.roster = later
    have hleads : a.LeadsTo b g s later := hlater ▸ LeadsTo.perform a b g s
    cases hleads with
    | revised _ f => exact h.revise f
    | loaded _ snapshot => exact Roster.hidesNothing_ofSnapshot _ _
    | fetched _ _ => exact h.replaceRows _ _
    | removed id => exact h.remove id
    | created hknown hanswer => exact (h.push_iff _).mpr (hshown hknown _ hanswer)

/-- All along a run nothing is hidden exactly if all that it creates is shown. -/
theorem hidesNothing_run_iff {b : Backend σ} (actions : List Action) {x : Grid × σ}
    (h : x.1.roster.HidesNothing) :
    (∀ n, (run b (actions.take n) x).1.roster.HidesNothing) ↔ AlwaysCreatesShown b actions x := by
  induction actions generalizing x with
  | nil => exact iff_of_true (fun n ↦ by rwa [List.take_nil]) trivial
  | cons a rest ih =>
    rw [AlwaysCreatesShown, ← hidesNothing_perform_iff h a]
    constructor
    · intro hall
      have hfirst : (a.perform b x.1 x.2).1.roster.HidesNothing := hall 1
      exact ⟨hfirst, (ih hfirst).mp fun n ↦ hall (n + 1)⟩
    · rintro ⟨hfirst, hrest⟩ n
      cases n with
      | zero => exact h
      | succ n => exact (ih hfirst).mpr hrest n

end Action

/-- Whatever is done to a new grid, a filter that lets everything pass shows all people in their
order, with the rows of those who have been loaded and without rows for the others. All along a run
these are all the rows that are held exactly if no row was created of somebody who had not been
loaded. -/
theorem everything_visible_iff (b : Backend σ) (config : LoadConfig) (hoursCap : Float)
    (actions : List Action) (s : σ) {f : StatusFilter} (hall : f.isAll = true) :
    let grid (n : Nat) := (Action.run b (actions.take n) ({ config, hoursCap }, s)).1.setFilter f
    (∀ n, (grid n).visible = (grid n).roster.people.map StatusFilter.shown) ∧
      (∀ n, (grid n).visible = (grid n).roster.everyone ↔ (grid n).roster.HidesNothing) ∧
      ((∀ n, (grid n).visible = (grid n).roster.everyone) ↔
        Action.AlwaysCreatesShown b actions ({ config, hoursCap }, s)) := by
  intro grid
  have hvisible (n : Nat) : (grid n).visible = (grid n).roster.people.map StatusFilter.shown :=
    Grid.visible_of_isAll hall
  have hhides (n : Nat) : (grid n).visible = (grid n).roster.everyone ↔
      (grid n).roster.HidesNothing := by
    rw [hvisible]
    exact Roster.map_shown_eq_everyone_iff _
  refine ⟨hvisible, hhides, (forall_congr' hhides).trans ?_⟩
  exact Action.hidesNothing_run_iff actions Roster.hidesNothing_empty

/-- The rows of somebody without any are fetched before a row is created and taken away again. -/
theorem everything_visible_after_expansion :
    let script : Script :=
      { standing? := some { weeks := [⟨"2024-01-01"⟩], people := [⟨9, "Sam Ortiz"⟩] } }
    let actions : List Action :=
      [.operation (.load {}), .operation (.expand 9), .operation (.assign 9 1),
        .operation (.unassign 1000), .operation (.assign 9 2)]
    let grid (n : Nat) := (Action.run Script.backend (actions.take n) ({}, script)).1.setFilter
      (.only [])
    (StatusFilter.only []).isAll = true ∧ (∀ n, (grid n).visible = (grid n).roster.everyone) ∧
      (grid 5).visible = [⟨9, [1001]⟩] := by
  intro script actions grid
  have hshown : Action.AlwaysCreatesShown Script.backend actions ({}, script) := by decide +kernel
  have hall : (StatusFilter.only []).isAll = true := rfl
  refine ⟨hall, ?_, by decide +kernel⟩
  exact (everything_visible_iff Script.backend {} Hours.weekCap actions script hall).2.2.mpr hshown

/-- A row is created of somebody without rows, and no filter is set: the row is held and not
shown. -/
theorem created_row_hidden :
    let script : Script :=
      { standing? := some { weeks := [⟨"2024-01-01"⟩], people := [⟨9, "Sam Ortiz"⟩] } }
    let actions : List Action := [.operation (.load {}), .operation (.assign 9 1)]
    let g := (Action.run Script.backend actions ({}, script)).1
    g.Reachable ∧ g.filter = .all ∧ g.roster.everyone = [⟨9, [1000]⟩] ∧ g.visible = [⟨9, []⟩] := by
  intro script actions g
  refine ⟨.run _ (.new {} Hours.weekCap) actions script, ?_⟩
  decide +kernel

end AssignmentGrid
