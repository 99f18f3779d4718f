import AssignmentGrid.Proofs.RefreshedTotals

/-!
# Totals after a load

A snapshot may come with totals of any people in any weeks. They stand as they are, and where there
is none the rows that came with the snapshot are summed up in its weeks. For a person without rows
nothing is summed up until they are fetched. By then the totals are still those of the snapshot,
unless rows have been created, written or taken away, so that the fetched rows fill the same gaps.
Specification `SPEC_FULL.md:76–78,166–169`.
-/

namespace AssignmentGrid

variable {σ : Type}

/-- When a snapshot is shown, a pair has the total that came with it. Without one the weeks of the
snapshot have the sums of the rows that came with it, for those who have any. -/
theorem Grid.get?_applySnapshot (g : Grid) (snapshot : Snapshot) (p : PersonId) (week : WeekKey) :
    (g.applySnapshot snapshot).totals.get? p week =
      (snapshot.totals.get? p week).or
        (if (snapshot.rows.filter fun a ↦ a.person = p) ≠ [] ∧ week ∈ snapshot.weeks then
          some (weekSum (snapshot.rows.filter fun a ↦ a.person = p) week) else none) := by
  have hloaded : (Roster.ofSnapshot snapshot.people snapshot.rows).isLoaded p = true ↔
      (snapshot.rows.filter fun a ↦ a.person = p) ≠ [] := by
    rw [Roster.isLoaded_ofSnapshot, List.any_eq_true, ne_eq, List.filter_eq_nil_iff]
    simp
  refine (get?_loadedTotals _ _ snapshot.totals p week).trans ?_
  simp only [hloaded, WeekAxis.mem_ofKeys, Roster.rowsFor_ofSnapshot]

/-! ### Until rows are fetched -/

namespace Action

variable {b : Backend σ} {p : PersonId} {week : WeekKey}

/-- What an action without a snapshot leaves as it is: the axis, whoever is loaded, and the totals
that it does not count anew of people whose rows it does not fetch. -/
structure Spares (b : Backend σ) (g : Grid) (s : σ) (a : Action) (later : Grid) (p : PersonId) :
    Prop where
  axis : later.axis = g.axis
  loaded : g.roster.isLoaded p = true → later.roster.isLoaded p = true
  total : later.roster.isLoaded p = false → ∀ week, ¬ a.Counts b g s p week →
    later.totals.get? p week = g.totals.get? p week

theorem spares_perform {g : Grid} {s : σ} {a : Action} (hquiet : a.shown? b g s = none)
    (p : PersonId) : a.Spares b g s (a.perform b g s).1 p := by
  obtain ⟨hsheet, haxis⟩ := a.undergoes_perform b g s
  unfold shown? at hquiet
  cases heffect : a.effect? b g s with
  | none =>
    rw [heffect] at hsheet haxis
    have hroster : (a.perform b g s).1.roster = g.roster := congrArg Sheet.roster hsheet
    have htotals : (a.perform b g s).1.totals = g.totals := congrArg Sheet.totals hsheet
    exact ⟨haxis, fun h ↦ hroster ▸ h, fun _ week _ ↦ by rw [htotals]⟩
  | some effect =>
    rw [heffect] at hsheet haxis hquiet
    cases effect with
    | shows snapshot => cases hquiet
    | fetches q rows =>
      have hroster : (a.perform b g s).1.roster = g.roster.replaceRows q rows :=
        congrArg Sheet.roster hsheet
      have htotals : (a.perform b g s).1.totals = (g.takeRows q rows).totals :=
        congrArg Sheet.totals hsheet
      have hloaded := g.roster.isLoaded_replaceRows q p rows
      refine ⟨haxis, fun h ↦ ?_, fun h week _ ↦ ?_⟩
      · rw [hroster, hloaded, h, ite_self]
      · have hq : q ≠ p := by
          rintro rfl
          rw [hroster, hloaded, if_pos rfl] at h
          cases h
        rw [htotals]
        exact (g.totals.get?_deriveMissing q p _ g.axis.keys week).trans
          (if_neg fun hpair ↦ hq hpair.1.1)
    | changes c =>
      have hroster : (a.perform b g s).1.roster = (c.action.perform b g s).1.roster :=
        congrArg Sheet.roster hsheet
      have htotals : (a.perform b g s).1.totals = (c.action.perform b g s).1.totals :=
        congrArg Sheet.totals hsheet
      refine ⟨haxis, fun h ↦ ?_, fun _ week hcounts ↦ ?_⟩
      · rw [hroster, c.isLoaded_perform b g s p, h]
      · rw [htotals]
        exact (c.recount b g s p week).kept fun h ↦ hcounts ⟨_, heffect, h⟩

/-- Along a run without a snapshot the axis stays, nobody is unloaded, and whoever is not loaded by
then has the totals from before that the run has not counted anew. -/
theorem spares_run {actions : List Action} {x : Grid × σ}
    (hquiet : lastShown? b actions x = none) (p : PersonId) :
    let later := (run b actions x).1
    later.axis = x.1.axis ∧
      (x.1.roster.isLoaded p = true → later.roster.isLoaded p = true) ∧
      (later.roster.isLoaded p = false → ∀ week, ¬ CountedSince b p week actions x →
        later.totals.get? p week = x.1.totals.get? p week) := by
  induction actions generalizing x with
  | nil => exact ⟨rfl, id, fun _ _ _ ↦ rfl⟩
  | cons a rest ih =>
    rw [lastShown?, Option.or_eq_none_iff] at hquiet
    obtain ⟨hrest, hfirst⟩ := hquiet
    have hspares := spares_perform hfirst p
    obtain ⟨haxis, hloaded, htotal⟩ := ih hrest
    refine ⟨haxis.trans hspares.axis, hloaded ∘ hspares.loaded, fun hlater week hcounted ↦ ?_⟩
    -- Whoever is not loaded in the end was not loaded after the first action either.
    have hnow : (a.perform b x.1 x.2).1.roster.isLoaded p = false := by
      cases hsome : (a.perform b x.1 x.2).1.roster.isLoaded p with
      | false => rfl
      | true => exact (hloaded hsome).symm.trans hlater
    rw [CountedSince, not_or] at hcounted
    exact (htotal hlater week hcounted.1).trans
      (hspares.total hnow week fun hcounts ↦ hcounted.2 ⟨hrest, hcounts⟩)

end Action

/-! ### Expanding -/

/-- A person was expanded successfully if the backend has delivered rows of somebody who was shown
and not loaded. -/
theorem Grid.expand_eq_ok_true {g : Grid} {b : Backend σ} {p : PersonId} {s : σ}
    (h : (g.expand b p s).result = .ok true) :
    g.roster.isLoaded p = false ∧ ∃ rows, (b.fetchRows p s).1 = .ok rows ∧
      (g.expand b p s).grid = g.takeRows p rows := by
  unfold expand at h ⊢
  cases hperson : g.roster.person? p with
  | none =>
    rw [hperson] at h
    cases h
  | some q =>
    rw [hperson] at h
    cases hloaded : q.isLoaded with
    | true => simp [hloaded] at h
    | false =>
      simp only [hloaded, Bool.false_eq_true, if_false] at h ⊢
      cases hanswer : (b.fetchRows p s).1 with
      | error e =>
        rw [g.refresh_of_error hanswer] at h
        cases h
      | ok rows =>
        rw [g.refresh_of_ok hanswer]
        refine ⟨?_, rows, rfl, rfl⟩
        rw [Roster.isLoaded, hperson]
        exact hloaded

/-- When a snapshot is shown, every pair has the total that came with it; without one a week of the
snapshot has the sum of the person's rows if there are any, and all others have none and read as
zero. After any run without another snapshot a person is expanded successfully, and no pair of the
person has been counted anew by then. Then the fetched rows are summed up in the same way, and no
pair that has a total changes. -/
theorem totals_after_load (g : Grid) (snapshot : Snapshot) (b : Backend σ) (s : σ)
    (actions : List Action) :
    let loaded := g.applySnapshot snapshot
    let now := Action.run b actions (loaded, s)
    (∀ p week,
      let rows := snapshot.rows.filter fun a ↦ a.person = p
      (∀ total, snapshot.totals.get? p week = some total →
        loaded.totals.get? p week = some total ∧ loaded.total p week = total) ∧
      (snapshot.totals.get? p week = none → rows ≠ [] ∧ week ∈ snapshot.weeks →
        loaded.totals.get? p week = some (weekSum rows week) ∧
          loaded.total p week = weekSum rows week) ∧
      (snapshot.totals.get? p week = none → ¬ (rows ≠ [] ∧ week ∈ snapshot.weeks) →
        loaded.totals.get? p week = none ∧ loaded.total p week = 0)) ∧
    (Action.lastShown? b actions (loaded, s) = none → ∀ p,
      (now.1.expand b p now.2).result = .ok true →
      (∀ week, ¬ Action.CountedSince b p week actions (loaded, s)) →
      let later := (now.1.expand b p now.2).grid
      ∃ rows, (b.fetchRows p now.2).1 = .ok rows ∧ later.roster.rowsFor p = rows ∧
        (∀ week, later.totals.get? p week = (snapshot.totals.get? p week).or
          (if week ∈ snapshot.weeks then some (weekSum rows week) else none)) ∧
        ∀ q week, now.1.totals.contains q week = true ∨ q ≠ p →
          later.totals.get? q week = now.1.totals.get? q week) := by
  intro loaded now
  constructor
  · intro p week rows
    have hget : loaded.totals.get? p week = _ := g.get?_applySnapshot snapshot p week
    refine ⟨fun total htotal ↦ ?_, fun hnone hrows ↦ ?_, fun hnone hrows ↦ ?_⟩
    · rw [htotal, Option.some_or] at hget
      exact ⟨hget, congrArg (Option.getD · 0) hget⟩
    · rw [hnone, Option.none_or, if_pos hrows] at hget
      exact ⟨hget, congrArg (Option.getD · 0) hget⟩
    · rw [hnone, Option.none_or, if_neg hrows] at hget
      exact ⟨hget, congrArg (Option.getD · 0) hget⟩
  · intro hquiet p hsuccess huntouched later
    obtain ⟨hcollapsed, rows, hanswer, hlater⟩ := Grid.expand_eq_ok_true hsuccess
    obtain ⟨haxis, hloaded, htotal⟩ := Action.spares_run hquiet p
    have htaken : later = now.1.takeRows p rows := hlater
    have hget (q : PersonId) (week : WeekKey) : later.totals.get? q week =
        if (p = q ∧ week ∈ now.1.axis.keys) ∧ now.1.totals.get? q week = none then
          some (weekSum ((now.1.takeRows p rows).roster.rowsFor p) week)
        else now.1.totals.get? q week := by
      rw [htaken]
      exact now.1.totals.get?_deriveMissing p q _ now.1.axis.keys week
    refine ⟨rows, hanswer, htaken ▸ now.1.rowsFor_takeRows p rows, fun week ↦ ?_,
      fun q week hkept ↦ ?_⟩
    · have hweek : week ∈ now.1.axis.keys ↔ week ∈ snapshot.weeks := by
        rw [haxis]
        exact WeekAxis.mem_ofKeys
      -- Who is not loaded by now had no rows in the snapshot, so that nothing was summed up.
      have hnorows : (snapshot.rows.filter fun a ↦ a.person = p) = [] := by
        rw [List.filter_eq_nil_iff]
        intro a ha hperson
        have hrows : loaded.roster.isLoaded p = true :=
          (Roster.isLoaded_ofSnapshot snapshot.people snapshot.rows p).trans
            (List.any_eq_true.mpr ⟨a, ha, hperson⟩)
        exact absurd (hcollapsed.symm.trans (hloaded hrows)) nofun
      have hnow : now.1.totals.get? p week = snapshot.totals.get? p week := by
        rw [htotal hcollapsed week (huntouched week), g.get?_applySnapshot, hnorows]
        simp
      rw [hget, hnow, now.1.rowsFor_takeRows]
      cases hsupplied : snapshot.totals.get? p week with
      | some total => simp
      | none => simp [hweek]
    · rw [hget]
      apply if_neg
      rintro ⟨⟨rfl, -⟩, hnone⟩
      rcases hkept with hsome | hother
      · rw [Totals.contains, hnone] at hsome
        cases hsome
      · exact hother rfl

/-- The first week of a person without rows came with a total. Before the rows are fetched somebody
else is put on a project, and a first attempt fails. Then the second week is summed up, and the
total of the first stays. -/
theorem totals_after_late_rows :
    let first : WeekKey := ⟨"2024-01-01"⟩
    let second : WeekKey := ⟨"2024-01-08"⟩
    let row (id : AssignmentId) (p : PersonId) (hours : Float) : Assignment :=
      { id, person := p, project := 1
        hours := ((∅ : Hours).insert first hours).insert second hours }
    let snapshot : Snapshot :=
      { weeks := [second, first, second]
        people := [⟨9, "Sam Ortiz"⟩]
        rows := [row 42 7 8]
        totals := Totals.empty.set 9 first 40 }
    let script : Script :=
      { details := [.error (.network "unreachable"), .ok [row 43 9 4]]
        creates := [.ok (row 44 7 2)] }
    let actions : List Action :=
      [.operation (.expand 9), .operation (.assign 7 1)]
    let loaded := Grid.applySnapshot {} snapshot
    let now := Action.run Script.backend actions (loaded, script)
    let later := (now.1.expand Script.backend 9 now.2).grid
    loaded.totals.get? 9 first = some 40 ∧
      loaded.totals.get? 7 first = some (weekSum [row 42 7 8] first) ∧
      loaded.totals.get? 9 second = none ∧ loaded.total 9 second = 0 ∧
      later.totals.get? 9 first = some 40 ∧
      later.totals.get? 9 second = some (weekSum [row 43 9 4] second) ∧
      later.totals.get? 7 first = now.1.totals.get? 7 first := by
  intro first second row snapshot script actions loaded now later
  obtain ⟨htotals, hexpanded⟩ :=
    totals_after_load {} snapshot Script.backend script actions
  have hquiet : Action.lastShown? Script.backend actions (loaded, script) = none :=
    Option.isNone_iff_eq_none.mp (by decide +kernel)
  have hsuccess : (now.1.expand Script.backend 9 now.2).result = .ok true := by rfl
  have huntouched (week : WeekKey) :
      ¬ Action.CountedSince Script.backend 9 week actions (loaded, script) := by
    rintro ((h | ⟨-, effect, heffect, hcounts⟩) | ⟨-, effect, heffect, hcounts⟩)
    · exact h
    · obtain rfl := Option.some.inj heffect
      exact absurd hcounts.1 (by decide)
    · cases heffect
  obtain ⟨rows, hanswer, -, hget, hkept⟩ := hexpanded hquiet 9 hsuccess huntouched
  obtain rfl : [row 43 9 4] = rows := Except.ok.inj hanswer
  have hsupplied : snapshot.totals.get? 9 first = some 40 :=
    (Totals.get?_set ..).trans (if_pos ⟨rfl, rfl⟩)
  have hnone : snapshot.totals.get? 9 second = none :=
    Option.isNone_iff_eq_none.mp (by decide +kernel)
  have hother : snapshot.totals.get? 7 first = none :=
    Option.isNone_iff_eq_none.mp (by decide +kernel)
  have hempty : ¬ ((snapshot.rows.filter fun a ↦ a.person = 9) ≠ [] ∧ second ∈ snapshot.weeks) := by
    decide
  obtain ⟨hderived, hread⟩ := (htotals 9 second).2.2 hnone hempty
  refine ⟨((htotals 9 first).1 40 hsupplied).1, ((htotals 7 first).2.1 hother (by decide)).1,
    hderived, hread, ?_, ?_, hkept 7 first (.inr (by decide))⟩
  · rw [hget first, hsupplied, Option.some_or]
  · rw [hget second, hnone, Option.none_or, if_pos (by decide)]

end AssignmentGrid
