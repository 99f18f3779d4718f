import AssignmentGrid.Grid.Basic
import Mathlib.Data.List.Forall2

/-!
# Rows under a status filter

A filter looks through the rows of the people who are loaded, in the order of the grid, and gives up
at the first one without a status, neither its own nor one of its project. If there is none,
everybody is listed with the rows that pass, except for those who are loaded and have none. A longer
list of statuses gives up at the same row, and lets the same rows pass and more. Specification
`SPEC_FULL.md:84–85,173–174`.
-/

namespace AssignmentGrid

/-! ### Capital and small letters -/

/-- A capital letter of ASCII with the small letter that belongs to it. -/
def IsCapitalOf (c d : Char) : Prop := 'A' ≤ c ∧ c ≤ 'Z' ∧ d.toNat = c.toNat + 32

/-- Two characters that are equal, or the capital and the small form of one letter. -/
def SameLetter (c d : Char) : Prop := c = d ∨ IsCapitalOf c d ∨ IsCapitalOf d c

/-- Two texts of one length whose characters are the same letters, place by place. -/
def SameUpToCase (s t : String) : Prop := List.Forall₂ SameLetter s.toList t.toList

theorem toNat_toLower (c : Char) :
    c.toLower.toNat = if 65 ≤ c.toNat ∧ c.toNat ≤ 90 then c.toNat + 32 else c.toNat := by
  have hbounds : (c.val ≥ 'A'.val ∧ c.val ≤ 'Z'.val) ↔ 65 ≤ c.toNat ∧ c.toNat ≤ 90 := Iff.rfl
  unfold Char.toLower
  split
  · next h =>
    rw [if_pos (hbounds.mp h)]
    have hsmall : c.toNat + 32 < 2 ^ 32 := by
      have := (hbounds.mp h).2
      omega
    exact Nat.mod_eq_of_lt hsmall
  · next h => rw [if_neg fun hcapital ↦ h (hbounds.mpr hcapital)]

/-- Characters are the same letter exactly if they have the same small form. -/
theorem sameLetter_iff (c d : Char) : SameLetter c d ↔ c.toLower = d.toLower := by
  have hcapital (c d : Char) :
      IsCapitalOf c d ↔ 65 ≤ c.toNat ∧ c.toNat ≤ 90 ∧ d.toNat = c.toNat + 32 := Iff.rfl
  rw [SameLetter, hcapital, hcapital, ← Char.toNat_inj, ← Char.toNat_inj, toNat_toLower,
    toNat_toLower]
  split <;> split <;> omega

/-- Texts are the same up to case exactly if they have the same small form. -/
theorem sameUpToCase_iff (s t : String) : SameUpToCase s t ↔ s.toLower = t.toLower := by
  have hsmall (s : String) : s.toLower.toList = s.toList.map Char.toLower := String.toList_map
  have hletters : SameLetter = fun c d ↦ c.toLower = d.toLower :=
    funext₂ fun c d ↦ propext (sameLetter_iff c d)
  rw [← String.toList_inj, hsmall, hsmall, ← List.forall₂_eq_eq_eq, List.forall₂_map_left_iff,
    List.forall₂_map_right_iff, SameUpToCase, hletters]

/-! ### The status of a row -/

namespace Assignment

variable {projects : Projects} {a : Assignment}

/-- A row has its own status, or without one that of its project. -/
inductive HasStatus (projects : Projects) (a : Assignment) (status : String) : Prop
  | own (h : a.projectStatus? = some status)
  | ofProject {project : Project} (hnone : a.projectStatus? = none)
      (hproject : projects[a.project]? = some project) (h : project.status? = some status)

/-- A row has no status if there is one neither on the row nor in the table. -/
def LacksStatus (projects : Projects) (a : Assignment) : Prop :=
  a.projectStatus? = none ∧
    ∀ project, projects[a.project]? = some project → project.status? = none

/-- What a filter says about a row without a status. -/
def unknownStatus (a : Assignment) : UnknownStatus := ⟨a.project, a.id⟩

theorem HasStatus.status_eq {status : String} (h : a.HasStatus projects status) :
    a.status projects = .ok status := by
  unfold Assignment.status
  cases h with
  | own h =>
    rw [h]
    rfl
  | ofProject hnone hproject h =>
    rw [hnone, hproject, Option.bind_some, h]
    rfl

theorem LacksStatus.status_eq (h : a.LacksStatus projects) :
    a.status projects = .error a.unknownStatus := by
  obtain ⟨hnone, hproject⟩ := h
  have hbind : (projects[a.project]?).bind Project.status? = none :=
    Option.bind_eq_none_iff.mpr hproject
  unfold Assignment.status
  rw [hnone, hbind]
  rfl

/-- A row has a status, or it lacks one. -/
theorem hasStatus_or_lacksStatus (projects : Projects) (a : Assignment) :
    (∃ status, a.HasStatus projects status) ∨ a.LacksStatus projects := by
  cases hown : a.projectStatus? with
  | some status => exact .inl ⟨status, .own hown⟩
  | none =>
    cases hproject : (projects[a.project]?).bind Project.status? with
    | some status =>
      obtain ⟨project, hproject, hstatus⟩ := Option.bind_eq_some_iff.mp hproject
      exact .inl ⟨status, .ofProject hown hproject hstatus⟩
    | none => exact .inr ⟨hown, Option.bind_eq_none_iff.mp hproject⟩

theorem toOption_status_eq_some_iff {status : String} :
    (a.status projects).toOption = some status ↔ a.HasStatus projects status := by
  constructor
  · intro h
    rcases a.hasStatus_or_lacksStatus projects with ⟨other, hother⟩ | hlacks
    · rw [hother.status_eq] at h
      obtain rfl := Option.some.inj h
      exact hother
    · rw [hlacks.status_eq] at h
      cases h
  · intro h
    rw [h.status_eq]
    rfl

theorem isOk_status_eq_false_iff : (a.status projects).isOk = false ↔ a.LacksStatus projects := by
  constructor
  · intro h
    rcases a.hasStatus_or_lacksStatus projects with ⟨status, hstatus⟩ | hlacks
    · rw [hstatus.status_eq] at h
      cases h
    · exact hlacks
  · intro h
    rw [h.status_eq]
    rfl

instance (projects : Projects) : DecidablePred (LacksStatus projects) :=
  fun _ ↦ decidable_of_iff _ isOk_status_eq_false_iff

end Assignment

/-! ### What a filter lists -/

/-- The rows that a filter looks at: those of a person who is loaded. -/
def PersonRow.loadedRows (q : PersonRow) : List Assignment := if q.isLoaded then q.rows else []

theorem PersonRow.loadedRows_sublist (q : PersonRow) : q.loadedRows.Sublist q.rows := by
  unfold loadedRows
  split
  · exact List.Sublist.refl _
  · exact List.nil_sublist _

/-- The rows that a filter looks at, in their order. -/
def Roster.loadedRows (r : Roster) : List Assignment := r.people.flatMap PersonRow.loadedRows

theorem Roster.mem_loadedRows {r : Roster} {a : Assignment} :
    a ∈ r.loadedRows ↔ ∃ q ∈ r.people, q.isLoaded = true ∧ a ∈ q.rows := by
  rw [loadedRows, List.mem_flatMap]
  refine exists_congr fun q ↦ and_congr_right fun _ ↦ ?_
  unfold PersonRow.loadedRows
  cases q.isLoaded with
  | false => simp
  | true => simp

namespace StatusFilter

variable (f : StatusFilter) (projects : Projects)

/-- Whether the filter gives up at a row. -/
def givesUpAt (a : Assignment) : Bool := !f.isAll && !(a.status projects).isOk

/-- Whether a row at which the filter does not give up passes. -/
def admits (a : Assignment) : Bool := f.isAll || (a.status projects).toOption.any f.allows

/-- Whether a person is listed. -/
def lists (q : PersonRow) : Bool :=
  !q.isLoaded || f.isAll || !(q.rows.filter (f.admits projects)).isEmpty

/-- A person as listed. -/
def listing (q : PersonRow) : VisiblePerson :=
  ⟨q.id, (q.loadedRows.filter (f.admits projects)).map Assignment.id⟩

/-- What a filter comes to when it looks through rows: an error about the first one at which it
gives up, or else an outcome. -/
def outcome {α : Type} (rows : List Assignment) (listed : α) : Except UnknownStatus α :=
  match rows.find? (f.givesUpAt projects) with
  | some a => .error a.unknownStatus
  | none => .ok listed

theorem passes_eq (a : Assignment) :
    f.passes projects a = f.outcome projects [a] (f.admits projects a) := by
  unfold outcome passes admits givesUpAt
  rw [List.find?_singleton]
  cases f.isAll with
  | true => rfl
  | false =>
    rcases a.hasStatus_or_lacksStatus projects with ⟨status, hstatus⟩ | hlacks
    · rw [hstatus.status_eq]
      rfl
    · rw [hlacks.status_eq]
      rfl

/-- Looking through rows and then through more is looking through all of them. -/
theorem outcome_bind {α β : Type} (rows : List Assignment) (x : α)
    (k : α → Except UnknownStatus β) {more : List Assignment} {y : β}
    (hk : k x = f.outcome projects more y) :
    f.outcome projects rows x >>= k = f.outcome projects (rows ++ more) y := by
  unfold outcome at hk ⊢
  rw [List.find?_append]
  cases rows.find? (f.givesUpAt projects) with
  | some a => rfl
  | none => exact hk

theorem outcome_map {α β : Type} (rows : List Assignment) (x : α) (k : α → β) :
    (do return k (← f.outcome projects rows x)) = f.outcome projects rows (k x) := by
  unfold outcome
  cases rows.find? (f.givesUpAt projects) with
  | some a => rfl
  | none => rfl

theorem outcome_eq_ok {α : Type} {rows : List Assignment} {x y : α}
    (h : f.outcome projects rows x = .ok y) : x = y := by
  unfold outcome at h
  cases hfind : rows.find? (f.givesUpAt projects) with
  | some a =>
    rw [hfind] at h
    cases h
  | none =>
    rw [hfind] at h
    exact Except.ok.inj h

theorem keep_eq (rows : List Assignment) :
    f.keep projects rows = f.outcome projects rows (rows.filter (f.admits projects)) := by
  induction rows with
  | nil => rfl
  | cons a rest ih =>
    rw [keep, passes_eq, ih]
    refine f.outcome_bind projects [a] _ _ ?_
    rw [List.filter_cons]
    exact f.outcome_map projects rest _ _

theorem showPerson_eq (q : PersonRow) :
    f.showPerson projects q = f.outcome projects q.loadedRows
      (if f.lists projects q then some (f.listing projects q) else none) := by
  unfold showPerson lists listing PersonRow.loadedRows
  cases q.isLoaded with
  | false => rfl
  | true =>
    rw [if_pos rfl, if_pos rfl, keep_eq]
    exact f.outcome_map projects q.rows _ _

/-- A filter gives up at the first of the rows that it looks at, and otherwise lists people in their
order. -/
theorem apply_eq (r : Roster) :
    f.apply projects r = f.outcome projects r.loadedRows
      ((r.people.filter (f.lists projects)).map (f.listing projects)) := by
  have hpeople (people : List PersonRow) :
      people.mapM (f.showPerson projects) =
        f.outcome projects (people.flatMap PersonRow.loadedRows) (people.map fun q ↦
          if f.lists projects q then some (f.listing projects q) else none) := by
    induction people with
    | nil => rfl
    | cons q rest ih =>
      rw [List.mapM_cons, showPerson_eq, ih]
      exact f.outcome_bind projects _ _ _ (f.outcome_map projects _ _ _)
  have hlisted (people : List PersonRow) :
      (people.map fun q ↦
          if f.lists projects q then some (f.listing projects q) else none).filterMap id =
        (people.filter (f.lists projects)).map (f.listing projects) := by
    induction people with
    | nil => rfl
    | cons q rest ih => cases h : f.lists projects q <;> simpa [h] using ih
  unfold apply
  rw [hpeople, ← hlisted]
  exact f.outcome_map projects _ _ _

end StatusFilter

/-! ### Lists of statuses -/

section Lists

variable {statuses more : List String} {projects : Projects}

/-- A row is allowed by an empty list, and by a list with its status, up to case. -/
def Assignment.IsAllowed (statuses : List String) (projects : Projects) (a : Assignment) : Prop :=
  statuses = [] ∨ ∃ status, a.HasStatus projects status ∧
    ∃ allowed ∈ statuses, SameUpToCase status allowed

theorem StatusFilter.isAll_only : (only statuses).isAll = true ↔ statuses = [] := by
  rw [isAll, only, List.isEmpty_map, List.isEmpty_iff]

theorem StatusFilter.allows_only {status : String} :
    (only statuses).allows status = true ↔
      statuses = [] ∨ ∃ allowed ∈ statuses, SameUpToCase status allowed := by
  rw [allows, Bool.or_eq_true, isAll_only, List.contains_iff_mem, only, List.mem_map]
  simp only [sameUpToCase_iff, eq_comm]

theorem StatusFilter.admits_only {a : Assignment} :
    (only statuses).admits projects a = true ↔ a.IsAllowed statuses projects := by
  unfold admits Assignment.IsAllowed
  rw [Bool.or_eq_true, isAll_only, Option.any_eq_true]
  simp only [Assignment.toOption_status_eq_some_iff, allows_only]
  by_cases hnone : statuses = []
  · simp only [hnone, true_or]
  · simp only [hnone, false_or]

theorem StatusFilter.givesUpAt_only {a : Assignment} :
    (only statuses).givesUpAt projects a = true ↔ statuses ≠ [] ∧ a.LacksStatus projects := by
  rw [givesUpAt, Bool.and_eq_true, Bool.not_eq_true', Bool.not_eq_true', ← Bool.not_eq_true,
    isAll_only, Assignment.isOk_status_eq_false_iff]

instance (statuses : List String) (projects : Projects) :
    DecidablePred (Assignment.IsAllowed statuses projects) :=
  fun _ ↦ decidable_of_iff _ StatusFilter.admits_only

/-- A person is listed who is not loaded or has an allowed row; with an empty list everybody is. -/
def PersonRow.IsListed (statuses : List String) (projects : Projects) (q : PersonRow) : Prop :=
  q.isLoaded = true → statuses = [] ∨ ∃ a ∈ q.rows, a.IsAllowed statuses projects

theorem StatusFilter.lists_only {q : PersonRow} :
    (only statuses).lists projects q = true ↔ q.IsListed statuses projects := by
  have hkept : (q.rows.filter ((only statuses).admits projects)).isEmpty = false ↔
      ∃ a ∈ q.rows, a.IsAllowed statuses projects := by
    rw [List.isEmpty_eq_false_iff_exists_mem]
    simp only [List.mem_filter, admits_only]
  unfold lists PersonRow.IsListed
  cases q.isLoaded with
  | false => simp
  | true =>
    simp only [Bool.not_true, Bool.false_or, Bool.or_eq_true, isAll_only, Bool.not_eq_true', hkept,
      true_imp_iff]

instance (statuses : List String) (projects : Projects) :
    DecidablePred (PersonRow.IsListed statuses projects) :=
  fun _ ↦ decidable_of_iff _ StatusFilter.lists_only

/-- A person as listed: with the allowed rows of whoever is loaded, without rows otherwise. -/
def PersonRow.listed (statuses : List String) (projects : Projects) (q : PersonRow) :
    VisiblePerson :=
  ⟨q.id, if q.isLoaded then
    (q.rows.filter fun a ↦ a.IsAllowed statuses projects).map Assignment.id else []⟩

theorem StatusFilter.listing_only (q : PersonRow) :
    (only statuses).listing projects q = q.listed statuses projects := by
  have hrows : q.rows.filter ((only statuses).admits projects) =
      q.rows.filter fun a ↦ a.IsAllowed statuses projects :=
    List.filter_congr fun a _ ↦ by rw [Bool.eq_iff_iff, admits_only, decide_eq_true_iff]
  unfold listing PersonRow.listed PersonRow.loadedRows
  cases q.isLoaded with
  | false => rfl
  | true => exact congrArg (fun rows ↦ VisiblePerson.mk q.id (rows.map Assignment.id)) hrows

/-- Some row of somebody who is loaded has no status. -/
def Roster.LacksStatus (projects : Projects) (r : Roster) : Prop :=
  ∃ q ∈ r.people, q.isLoaded = true ∧ ∃ a ∈ q.rows, a.LacksStatus projects

instance (projects : Projects) : DecidablePred (Roster.LacksStatus projects) := fun r ↦
  inferInstanceAs
    (Decidable (∃ q ∈ r.people, q.isLoaded = true ∧ ∃ a ∈ q.rows, a.LacksStatus projects))

/-- The people listed under a list of statuses, in the order of the roster. -/
def Roster.listed (statuses : List String) (projects : Projects) (r : Roster) :
    List VisiblePerson :=
  (r.people.filter fun q ↦ q.IsListed statuses projects).map (PersonRow.listed statuses projects)

theorem StatusFilter.apply_only_of_lacksStatus {r : Roster} (hsome : statuses ≠ [])
    (h : r.LacksStatus projects) : ∃ e, (only statuses).apply projects r = .error e := by
  obtain ⟨q, hq, hloaded, a, ha, hlacks⟩ := h
  rw [apply_eq, outcome]
  cases hfind : r.loadedRows.find? ((only statuses).givesUpAt projects) with
  | some first => exact ⟨first.unknownStatus, rfl⟩
  | none =>
    have hlooked : a ∈ r.loadedRows := Roster.mem_loadedRows.mpr ⟨q, hq, hloaded, ha⟩
    exact absurd (givesUpAt_only.mpr ⟨hsome, hlacks⟩) (List.find?_eq_none.mp hfind a hlooked)

theorem StatusFilter.apply_only {r : Roster} (h : statuses = [] ∨ ¬ r.LacksStatus projects) :
    (only statuses).apply projects r = .ok (r.listed statuses projects) := by
  have hnever : r.loadedRows.find? ((only statuses).givesUpAt projects) = none := by
    rw [List.find?_eq_none]
    intro a ha hgives
    obtain ⟨q, hq, hloaded, ha⟩ := Roster.mem_loadedRows.mp ha
    obtain ⟨hsome, hlacks⟩ := givesUpAt_only.mp hgives
    exact h.resolve_left hsome ⟨q, hq, hloaded, a, ha, hlacks⟩
  rw [apply_eq, outcome, hnever]
  have hpeople : r.people.filter ((only statuses).lists projects) =
      r.people.filter fun q ↦ q.IsListed statuses projects :=
    List.filter_congr fun q _ ↦ by rw [Bool.eq_iff_iff, lists_only, decide_eq_true_iff]
  rw [Roster.listed, hpeople]
  exact congrArg Except.ok (List.map_congr_left fun q _ ↦ listing_only q)

/-! ### Longer lists -/

theorem Assignment.IsAllowed.mono {a : Assignment} (hsome : statuses ≠ []) (hmore : statuses ⊆ more)
    (h : a.IsAllowed statuses projects) : a.IsAllowed more projects := by
  obtain ⟨status, hstatus, allowed, hallowed, hsame⟩ := h.resolve_left hsome
  exact .inr ⟨status, hstatus, allowed, hmore hallowed, hsame⟩

theorem PersonRow.IsListed.mono {q : PersonRow} (hsome : statuses ≠ []) (hmore : statuses ⊆ more)
    (h : q.IsListed statuses projects) : q.IsListed more projects := by
  intro hloaded
  obtain ⟨a, ha, hallowed⟩ := (h hloaded).resolve_left hsome
  exact .inr ⟨a, ha, hallowed.mono hsome hmore⟩

theorem PersonRow.listed_sublist (hsome : statuses ≠ []) (hmore : statuses ⊆ more) (q : PersonRow) :
    (q.listed statuses projects).assignments.Sublist (q.listed more projects).assignments := by
  unfold listed
  cases q.isLoaded with
  | false => exact .slnil
  | true =>
    apply List.Sublist.map
    apply List.monotone_filter_right
    intro a ha
    rw [decide_eq_true_iff] at ha ⊢
    exact ha.mono hsome hmore

/-- The first people as shown come from the second ones by leaving out people and assignments. -/
def VisiblePerson.Within (shown others : List VisiblePerson) : Prop :=
  List.SublistForall₂
    (fun v w ↦ v.person = w.person ∧ v.assignments.Sublist w.assignments) shown others

theorem Roster.listed_within (hsome : statuses ≠ []) (hmore : statuses ⊆ more) (r : Roster) :
    VisiblePerson.Within (r.listed statuses projects) (r.listed more projects) := by
  unfold VisiblePerson.Within
  rw [List.sublistForall₂_iff]
  -- In between, the people of the shorter list are listed with the rows of the longer one.
  refine ⟨(r.people.filter fun q ↦ q.IsListed statuses projects).map
    (PersonRow.listed more projects), ?_, ?_⟩
  · unfold listed
    rw [List.forall₂_map_left_iff, List.forall₂_map_right_iff, List.forall₂_same]
    exact fun q _ ↦ ⟨rfl, q.listed_sublist hsome hmore⟩
  · apply List.Sublist.map
    apply List.monotone_filter_right
    intro q hq
    rw [decide_eq_true_iff] at hq ⊢
    exact hq.mono hsome hmore

end Lists

/-- A status filter fails exactly if it has statuses and some row of a person who is loaded has
none; a grid then shows everybody with all held rows. Otherwise the people who are listed stand in
the order of the roster, with the allowed rows of those who are loaded, and a grid shows this. More
statuses fail for the same rosters, and take away no person and no row. -/
theorem filtered_rows (statuses : List String) (projects : Projects) (r : Roster) :
    let f := StatusFilter.only statuses
    let fails := statuses ≠ [] ∧ r.LacksStatus projects
    ((∃ e, f.apply projects r = .error e) ↔ fails) ∧
      (¬ fails → f.apply projects r = .ok (r.listed statuses projects)) ∧
      (∀ more shown, statuses ≠ [] → statuses ⊆ more → f.apply projects r = .ok shown →
        ∃ others, (StatusFilter.only more).apply projects r = .ok others ∧
          VisiblePerson.Within shown others) ∧
      ∀ g : Grid, g.roster = r → g.projects = projects → g.filter = f →
        (fails → g.visible = r.everyone) ∧
        (¬ fails → g.visible = r.listed statuses projects) := by
  intro f fails
  have hfails (h : fails) : ∃ e, f.apply projects r = .error e :=
    StatusFilter.apply_only_of_lacksStatus h.1 h.2
  have hlists (h : ¬ fails) : f.apply projects r = .ok (r.listed statuses projects) :=
    StatusFilter.apply_only (or_iff_not_imp_left.mpr fun hsome hlacks ↦ h ⟨hsome, hlacks⟩)
  refine ⟨⟨?_, hfails⟩, hlists, ?_, ?_⟩
  · rintro ⟨e, he⟩
    by_contra hnot
    rw [hlists hnot] at he
    cases he
  · intro more shown hsome hmore hshown
    have hknown : ¬ r.LacksStatus projects := by
      intro hlacks
      obtain ⟨e, he⟩ := hfails ⟨hsome, hlacks⟩
      rw [he] at hshown
      cases hshown
    obtain rfl : r.listed statuses projects = shown :=
      Except.ok.inj ((hlists fun h ↦ hknown h.2).symm.trans hshown)
    exact ⟨_, StatusFilter.apply_only (.inr hknown), r.listed_within hsome hmore⟩
  · rintro g rfl rfl hfilter
    unfold Grid.visible
    rw [hfilter]
    constructor
    · intro h
      obtain ⟨e, he⟩ := hfails h
      rw [he]
    · intro h
      rw [hlists h]

/-- A person without rows is listed beside another one with the row in planning. A second status
brings more rows, and a row without a status brings all of them. -/
theorem filtered_rows_in_planning :
    let projects : Projects :=
      .ofList [⟨1, "Harbor Retrofit", some "active"⟩, ⟨2, "Depot Study", some "Planning"⟩]
    let row (id : AssignmentId) (p : PersonId) (project : ProjectId) : Assignment :=
      { id, person := p, project }
    let r := Roster.ofSnapshot [⟨9, "Sam Ortiz"⟩] [row 42 7 1, row 43 7 2, row 50 11 1]
    let other := r.push (row 51 11 3)
    let grid (roster : Roster) : Grid :=
      { sheet := ⟨roster, .empty⟩, projects, filter := .only ["PLANNING"] }
    (grid r).visible = [⟨9, []⟩, ⟨7, [43]⟩] ∧
      (∃ others, (StatusFilter.only ["active", "PLANNING"]).apply projects r = .ok others ∧
        VisiblePerson.Within (grid r).visible others) ∧
      (grid other).visible = [⟨9, []⟩, ⟨7, [42, 43]⟩, ⟨11, [50, 51]⟩] := by
  intro projects row r other grid
  obtain ⟨-, hlists, hmore, hgrid⟩ := filtered_rows ["PLANNING"] projects r
  obtain ⟨-, -, -, hother⟩ := filtered_rows ["PLANNING"] projects other
  have hknown : ¬ (["PLANNING"] ≠ [] ∧ r.LacksStatus projects) := by decide +kernel
  have hlost : ["PLANNING"] ≠ [] ∧ other.LacksStatus projects := by decide +kernel
  have hlisted := hlists hknown
  have hsmall : "PLANNING".toLower = "planning" := by decide +kernel
  have hfilter : StatusFilter.only ["PLANNING"] = ⟨["planning"]⟩ :=
    congrArg (fun status ↦ StatusFilter.mk [status]) hsmall
  have happlied : (StatusFilter.only ["PLANNING"]).apply projects r =
      .ok [⟨9, []⟩, ⟨7, [43]⟩] := by
    rw [hfilter]
    decide +kernel
  have hshown : (grid r).visible = r.listed ["PLANNING"] projects :=
    (hgrid (grid r) rfl rfl rfl).2 hknown
  refine ⟨hshown.trans (Except.ok.inj (hlisted.symm.trans happlied)), ?_, ?_⟩
  · rw [hshown]
    exact hmore ["active", "PLANNING"] _ nofun (by decide) hlisted
  · rw [(hother (grid other) rfl rfl rfl).1 hlost]
    decide +kernel

end AssignmentGrid
