import AssignmentGrid.Proofs.SheetStep

/-!
# Totals after a refresh

When rows of a person are fetched, the weeks of the axis without a total get the sums of the fetched
rows, and those with a total keep it. A total does not tell where it came from: one that came with
the snapshot looks like one that was summed up from held rows. So the totals follow the rows only
the first time that these are fetched. Specification `SPEC_FULL.md:76–78,170`.
-/

namespace AssignmentGrid

variable {σ : Type}

/-! ### Deriving totals -/

namespace Totals

variable (t : Totals) (p q : PersonId) (rows : List Assignment)

theorem contains_eq_false_iff (week : WeekKey) :
    t.contains p week = false ↔ t.get? p week = none := by
  unfold contains
  exact Option.isSome_eq_false_iff.trans Option.isNone_iff_eq_none

/-- Deriving a pair gives it the sum of the rows if it has no total. -/
theorem get?_derive (week other : WeekKey) :
    (if t.contains p week then t else t.recompute p rows week).get? q other =
      if (p = q ∧ week = other) ∧ t.get? q other = none then some (weekSum rows week)
      else t.get? q other := by
  cases hcontains : t.contains p week with
  | true =>
    have hkept : ¬ ((p = q ∧ week = other) ∧ t.get? q other = none) := by
      rintro ⟨⟨rfl, rfl⟩, hnone⟩
      rw [(t.contains_eq_false_iff p week).mpr hnone] at hcontains
      cases hcontains
    rw [if_pos rfl, if_neg hkept]
  | false =>
    rw [if_neg Bool.false_ne_true, recompute, get?_set]
    by_cases hpair : p = q ∧ week = other
    · obtain ⟨rfl, rfl⟩ := hpair
      have hnone := (t.contains_eq_false_iff p week).mp hcontains
      rw [if_pos ⟨rfl, rfl⟩, if_pos ⟨⟨rfl, rfl⟩, hnone⟩]
    · rw [if_neg hpair, if_neg fun h ↦ hpair h.1]

/-- Deriving totals gives the sum of the rows to those pairs that have no total, and leaves all
others alone. -/
theorem get?_deriveMissing (weeks : List WeekKey) (week : WeekKey) :
    (t.deriveMissing p rows weeks).get? q week =
      if (p = q ∧ week ∈ weeks) ∧ t.get? q week = none then some (weekSum rows week)
      else t.get? q week := by
  unfold deriveMissing
  induction weeks generalizing t with
  | nil => simp
  | cons first rest ih =>
    rw [List.foldl_cons, ih, get?_derive]
    by_cases hfirst : first = week
    · subst hfirst
      by_cases hnone : t.get? q first = none <;> by_cases hp : p = q <;> simp [hnone, hp]
    · have hne : week ≠ first := Ne.symm hfirst
      simp [hfirst, hne]

/-- Which pairs have a total when totals have been derived. -/
theorem contains_deriveMissing (weeks : List WeekKey) (week : WeekKey) :
    (t.deriveMissing p rows weeks).contains q week = true ↔
      t.contains q week = true ∨ p = q ∧ week ∈ weeks := by
  unfold contains
  rw [get?_deriveMissing]
  cases t.get? q week with
  | none => by_cases hpair : p = q ∧ week ∈ weeks <;> simp [hpair]
  | some total => simp

end Totals

/-- A person is loaded exactly if the number is one of those who are. -/
theorem Roster.mem_ids_filter_isLoaded (r : Roster) (p : PersonId) :
    p ∈ (r.people.filter PersonRow.isLoaded).map PersonRow.id ↔ r.isLoaded p = true := by
  rw [isLoaded, Option.any_eq_true, List.mem_map]
  constructor
  · rintro ⟨q, hq, rfl⟩
    obtain ⟨hmem, hisLoaded⟩ := List.mem_filter.mp hq
    exact ⟨q, person?_of_mem hmem, hisLoaded⟩
  · rintro ⟨q, hq, hisLoaded⟩
    exact ⟨q, List.mem_filter.mpr ⟨mem_of_person? hq, hisLoaded⟩, id_of_person? hq⟩

/-- When a snapshot is shown, a pair has the total that came with it. Without one the weeks of the
axis have the sums of the rows of the people who are loaded. -/
theorem Grid.get?_loadedTotals (axis : WeekAxis) (roster : Roster) (totals : Totals)
    (p : PersonId) (week : WeekKey) :
    (loadedTotals axis roster totals).get? p week =
      (totals.get? p week).or
        (if roster.isLoaded p = true ∧ week ∈ axis.keys then some (weekSum (roster.rowsFor p) week)
          else none) := by
  have hfold (people : List PersonRow) (hown : ∀ q ∈ people, q.rows = roster.rowsFor q.id)
      (t : Totals) :
      (people.foldl (fun t q ↦ t.deriveMissing q.id q.rows axis.keys) t).get? p week =
        (t.get? p week).or
          (if p ∈ people.map PersonRow.id ∧ week ∈ axis.keys then
            some (weekSum (roster.rowsFor p) week) else none) := by
    induction people generalizing t with
    | nil => simp
    | cons q rest ih =>
      have hrows := hown q List.mem_cons_self
      rw [List.foldl_cons, ih fun q hq ↦ hown q (List.mem_cons_of_mem _ hq),
        Totals.get?_deriveMissing, List.map_cons]
      cases hstored : t.get? p week with
      | some total => simp
      | none =>
        by_cases hq : q.id = p
        · subst hq
          by_cases hweek : week ∈ axis.keys <;> simp [hweek, hrows]
        · simp [hq, Ne.symm hq]
  have hown : ∀ q ∈ roster.people.filter PersonRow.isLoaded, q.rows = roster.rowsFor q.id := by
    intro q hq
    exact (Roster.rowsFor_of_some (Roster.person?_of_mem (List.mem_filter.mp hq).1)).symm
  simp only [← roster.mem_ids_filter_isLoaded p]
  exact hfold _ hown totals

/-- When a snapshot is shown, the weeks of the axis have the totals that came with it and those of
the people whose rows did. -/
theorem Grid.contains_loadedTotals (axis : WeekAxis) (roster : Roster) (totals : Totals)
    (p : PersonId) {week : WeekKey} (hweek : week ∈ axis.keys) :
    (loadedTotals axis roster totals).contains p week = true ↔
      roster.isLoaded p = true ∨ totals.contains p week = true := by
  unfold Totals.contains
  rw [get?_loadedTotals]
  cases totals.get? p week with
  | some total => simp
  | none => by_cases hloaded : roster.isLoaded p = true <;> simp [hloaded, hweek]

/-! ### Where totals come from -/

/-- Whether an effect counts a pair anew. -/
def Effect.Counts (b : Backend σ) (g : Grid) (s : σ) (p : PersonId) (week : WeekKey) :
    Effect → Prop
  | changes c => c.Recounts b g s p week
  | shows _ | fetches _ _ => False

namespace Action

/-- Whether an action counts a pair anew. -/
def Counts (b : Backend σ) (g : Grid) (s : σ) (p : PersonId) (week : WeekKey) (a : Action) : Prop :=
  ∃ effect, a.effect? b g s = some effect ∧ effect.Counts b g s p week

/-- Whether the snapshot that a run has shown last came with a total for a pair. -/
def Supplied (b : Backend σ) (p : PersonId) (week : WeekKey) (actions : List Action)
    (x : Grid × σ) : Prop :=
  ∃ snapshot, lastShown? b actions x = some snapshot ∧ snapshot.totals.contains p week = true

/-- Whether a run has counted a pair anew since it has last shown a snapshot. -/
def CountedSince (b : Backend σ) (p : PersonId) (week : WeekKey) : List Action → Grid × σ → Prop
  | [], _ => False
  | a :: rest, x => CountedSince b p week rest (a.perform b x.1 x.2) ∨
      lastShown? b rest (a.perform b x.1 x.2) = none ∧ a.Counts b x.1 x.2 p week

variable {b : Backend σ} {p : PersonId} {week : WeekKey} {a : Action}

/-- The first action of a run supplies a pair if none of the others shows a snapshot. -/
theorem supplied_cons {rest : List Action} {x : Grid × σ} :
    Supplied b p week (a :: rest) x ↔
      Supplied b p week rest (a.perform b x.1 x.2) ∨
        lastShown? b rest (a.perform b x.1 x.2) = none ∧
          ∃ snapshot, a.shown? b x.1 x.2 = some snapshot ∧
            snapshot.totals.contains p week = true := by
  unfold Supplied
  rw [lastShown?]
  cases lastShown? b rest (a.perform b x.1 x.2) with
  | none => simp
  | some snapshot => simp

theorem not_supplied {actions : List Action} {x : Grid × σ}
    (h : (lastShown? b actions x).any (·.totals.contains p week) = false) :
    ¬ Supplied b p week actions x := by
  rintro ⟨snapshot, hshown, hcontains⟩
  rw [hshown] at h
  exact absurd (h.symm.trans hcontains) nofun

/-- Showing a snapshot counts nothing. -/
theorem not_counts_of_shown {g : Grid} {s : σ} {snapshot : Snapshot}
    (h : a.shown? b g s = some snapshot) : ¬ a.Counts b g s p week := by
  rintro ⟨effect, heffect, hcounts⟩
  rw [shown?, heffect] at h
  cases effect with
  | shows snapshot => exact hcounts
  | fetches q rows => exact hcounts
  | changes c => cases h

end Action

/-- Whether a pair on the axis has a total exactly if the person is loaded or for another
reason. -/
def Grid.HasTotalIff (g : Grid) (p : PersonId) (week : WeekKey) (other : Prop) : Prop :=
  week ∈ g.axis.keys →
    (g.totals.contains p week = true ↔ g.roster.isLoaded p = true ∨ other)

/-! ### One action -/

namespace Grid.HasTotalIff

variable {b : Backend σ} {g : Grid} {s : σ} {p : PersonId} {week : WeekKey} {other : Prop}

/-- A reason may be put in place of an equivalent one. -/
theorem congr {other' : Prop} (h : g.HasTotalIff p week other) (hsame : other ↔ other') :
    g.HasTotalIff p week other' :=
  fun hweek ↦ (h hweek).trans (or_congr_right hsame)

/-- Only axis and sheet matter. -/
theorem of_sheet {later : Grid} (h : g.HasTotalIff p week other) (hsheet : later.sheet = g.sheet)
    (haxis : later.axis = g.axis) : later.HasTotalIff p week other := by
  unfold HasTotalIff roster totals
  rw [hsheet, haxis]
  exact h

/-- A snapshot that is shown gives totals to the people whose rows come with it, and brings
others. -/
theorem applySnapshot (g : Grid) (p : PersonId) (week : WeekKey) (snapshot : Snapshot) :
    (g.applySnapshot snapshot).HasTotalIff p week (snapshot.totals.contains p week = true) :=
  fun hweek ↦ contains_loadedTotals _ _ snapshot.totals p hweek

/-- Fetched rows give the person a total in every week of the axis. -/
theorem takeRows (h : g.HasTotalIff p week other) (q : PersonId) (rows : List Assignment) :
    (g.takeRows q rows).HasTotalIff p week other := by
  intro hweek
  have hloaded : (g.takeRows q rows).roster.isLoaded p = true ↔
      q = p ∨ g.roster.isLoaded p = true := by
    refine (Bool.eq_iff_iff.mp (g.roster.isLoaded_replaceRows q p rows)).trans ?_
    by_cases hp : q = p
    · simp [hp]
    · simp [hp, Ne.symm hp]
  have hcontains : (g.takeRows q rows).totals.contains p week = true ↔
      g.totals.contains p week = true ∨ q = p ∧ week ∈ g.axis.keys :=
    g.totals.contains_deriveMissing q p _ g.axis.keys week
  have hon : week ∈ g.axis.keys := hweek
  rw [hcontains, hloaded, h hweek]
  simp only [hon, and_true]
  tauto

/-- A change of held rows gives totals to the pairs that it counts anew. -/
theorem change (h : g.HasTotalIff p week other) (c : RowChange) :
    (c.action.perform b g s).1.HasTotalIff p week (other ∨ c.Recounts b g s p week) := by
  intro hweek
  have haxis := (c.action.undergoes_perform b g s).axis
  rw [c.effect?_action b g s] at haxis
  rw [show (c.action.perform b g s).1.axis = g.axis from haxis] at hweek
  have hrecount := c.recount b g s p week
  have hcontains : (c.action.perform b g s).1.totals.contains p week = true ↔
      g.totals.contains p week = true ∨ c.Recounts b g s p week := by
    by_cases hcounts : c.Recounts b g s p week
    · have hcounted := hrecount.counted hcounts
      simp [Totals.contains, Grid.totals, hcounted, hcounts]
    · have hkept := hrecount.kept hcounts
      simp [Totals.contains, Grid.totals, hkept, hcounts]
  rw [hcontains, c.isLoaded_perform b g s p, h hweek, or_assoc]

/-- An action that shows no snapshot gives totals to the pairs that it counts anew and to the
people of whom it fetches rows. -/
theorem perform (h : g.HasTotalIff p week other) {a : Action} (hquiet : a.shown? b g s = none) :
    (a.perform b g s).1.HasTotalIff p week (other ∨ a.Counts b g s p week) := by
  obtain ⟨hsheet, haxis⟩ := a.undergoes_perform b g s
  unfold Action.Counts
  cases heffect : a.effect? b g s with
  | none =>
    rw [heffect] at hsheet haxis
    exact (h.of_sheet hsheet haxis).congr (by simp)
  | some effect =>
    rw [heffect] at hsheet haxis
    cases effect with
    | shows snapshot => simp [Action.shown?, heffect, Effect.snapshot?] at hquiet
    | fetches q rows =>
      exact ((h.takeRows q rows).of_sheet hsheet haxis).congr (by simp [Effect.Counts])
    | changes c =>
      have hchanged := (c.action.undergoes_perform b g s).axis
      rw [c.effect?_action b g s] at hchanged
      have hlater := (h.change (b := b) (s := s) c).of_sheet hsheet (haxis.trans hchanged.symm)
      exact hlater.congr (by simp [Effect.Counts])

/-- An action that shows a snapshot gives totals to the people whose rows come with it, and brings
others. -/
theorem of_shown {a : Action} {snapshot : Snapshot} (hshown : a.shown? b g s = some snapshot) :
    (a.perform b g s).1.HasTotalIff p week (snapshot.totals.contains p week = true) := by
  obtain ⟨hsheet, haxis⟩ := a.undergoes_perform b g s
  obtain ⟨effect, heffect, hsnapshot⟩ := Option.bind_eq_some_iff.mp hshown
  rw [heffect] at hsheet haxis
  cases effect with
  | shows snapshot' =>
    obtain rfl := Option.some.inj hsnapshot
    exact (applySnapshot g p week snapshot').of_sheet hsheet haxis
  | fetches q rows => cases hsnapshot
  | changes c => cases hsnapshot

/-! ### Runs -/

/-- After a run the pairs on the axis that have a total are those of the people who are loaded,
those that came with the snapshot that was shown last, and those that have been counted since. -/
theorem run (h : g.HasTotalIff p week other) (actions : List Action) :
    (Action.run b actions (g, s)).1.HasTotalIff p week
      (Action.lastShown? b actions (g, s) = none ∧ other ∨
        Action.Supplied b p week actions (g, s) ∨
        Action.CountedSince b p week actions (g, s)) := by
  -- A snapshot brings a reason of its own in place of the former one, so the induction is for any.
  induction actions generalizing g s other with
  | nil => exact h.congr (by simp [Action.lastShown?, Action.Supplied, Action.CountedSince])
  | cons a rest ih =>
    cases hshown : a.shown? b g s with
    | some snapshot =>
      have hsilent : ¬ a.Counts b g s p week := Action.not_counts_of_shown hshown
      refine (ih (of_shown hshown)).congr ?_
      rw [Action.supplied_cons, Action.CountedSince, Action.lastShown?, hshown]
      simp only [Option.or_some, reduceCtorEq, false_and, Option.some.injEq, exists_eq_left',
        hsilent, and_false, or_false, false_or]
      tauto
    | none =>
      refine (ih (h.perform hshown)).congr ?_
      rw [Action.supplied_cons, Action.CountedSince, Action.lastShown?, hshown]
      simp only [Option.or_none, reduceCtorEq, false_and, exists_false, and_false, or_false]
      tauto

end Grid.HasTotalIff

/-- In a new grid nothing has a total, and no week is on the axis. -/
theorem Grid.hasTotalIff_new (config : LoadConfig) (hoursCap : Float) (p : PersonId)
    (week : WeekKey) : Grid.HasTotalIff { config, hoursCap } p week False :=
  fun hweek ↦ absurd hweek List.not_mem_nil

/-! ### Fetching -/

/-- Fetched rows are those of the person from then on. -/
theorem Grid.rowsFor_takeRows (g : Grid) (p : PersonId) (rows : List Assignment) :
    (g.takeRows p rows).roster.rowsFor p = rows :=
  (g.roster.rowsFor_replaceRows p p rows).trans (if_pos rfl)

/-- In a week of the axis the total of the person becomes the sum of the fetched rows, unless there
is one. -/
theorem Grid.total_takeRows (g : Grid) (p : PersonId) (rows : List Assignment) {week : WeekKey}
    (hweek : week ∈ g.axis.keys) :
    (g.takeRows p rows).total p week =
      if g.totals.contains p week then g.total p week else weekSum rows week := by
  have hget : (g.takeRows p rows).totals.get? p week =
      if (p = p ∧ week ∈ g.axis.keys) ∧ g.totals.get? p week = none then
        some (weekSum ((g.takeRows p rows).roster.rowsFor p) week)
      else g.totals.get? p week :=
    g.totals.get?_deriveMissing p p _ g.axis.keys week
  rw [g.rowsFor_takeRows] at hget
  unfold Grid.total Totals.get
  rw [hget]
  cases hstored : g.totals.get? p week with
  | none => simp [hweek, Totals.contains, hstored]
  | some total => simp [Totals.contains, hstored]

/-- The rows of a person are fetched after any run. For a week of the axis of which the snapshot
that was shown last had no total, the total becomes the sum of the fetched rows if the person was
not loaded by then and the pair has not been counted anew since the snapshot. Otherwise it stays as
it is, and is this sum only if it was this number before. -/
theorem totals_after_refresh (b : Backend σ) (config : LoadConfig) (hoursCap : Float)
    (actions : List Action) (s : σ) (p : PersonId) (rows : List Assignment)
    (hanswer : (b.fetchRows p (Action.run b actions ({ config, hoursCap }, s)).2).1 = .ok rows) :
    let start : Grid × σ := ({ config, hoursCap }, s)
    let now := Action.run b actions start
    let refreshed := now.1.refresh b p now.2
    refreshed.result = .ok () ∧ refreshed.grid.roster.rowsFor p = rows ∧
      refreshed.grid.axis = now.1.axis ∧
      ∀ week ∈ now.1.axis.keys, ¬ Action.Supplied b p week actions start →
        let stands := now.1.roster.isLoaded p = true ∨ Action.CountedSince b p week actions start
        (stands → refreshed.grid.total p week = now.1.total p week) ∧
        (¬ stands → refreshed.grid.total p week = weekSum rows week) ∧
        (SameNumber (refreshed.grid.total p week) (weekSum rows week) ↔
          (stands → SameNumber (now.1.total p week) (weekSum rows week))) := by
  intro start now refreshed
  have hfetched : refreshed = ⟨.ok (), now.1.takeRows p rows, (b.fetchRows p now.2).2⟩ :=
    now.1.refresh_of_ok hanswer
  rw [hfetched]
  refine ⟨rfl, now.1.rowsFor_takeRows p rows, rfl, fun week hweek hsupplied ↦ ?_⟩
  intro stands
  have hcontains : now.1.totals.contains p week = true ↔ stands := by
    have hrun := (Grid.hasTotalIff_new config hoursCap p week).run (b := b) (s := s) actions
    refine (hrun hweek).trans (or_congr_right ?_)
    rw [and_false, false_or, or_iff_right hsupplied]
  have htotal := now.1.total_takeRows p rows hweek
  have hkept (h : stands) : (now.1.takeRows p rows).total p week = now.1.total p week := by
    rw [htotal, if_pos (hcontains.mpr h)]
  have hderived (h : ¬ stands) : (now.1.takeRows p rows).total p week = weekSum rows week := by
    rw [htotal, if_neg fun hsome ↦ h (hcontains.mp hsome)]
  refine ⟨hkept, hderived, ?_⟩
  by_cases h : stands
  · rw [hkept h]
    exact ⟨fun hsame _ ↦ hsame, fun hsame ↦ hsame h⟩
  · rw [hderived h]
    exact ⟨fun _ hstands ↦ absurd hstands h, fun _ ↦ SameNumber.refl _⟩

/-- A person without rows in the snapshot is put on a project before the rows are fetched: the
total of the first week came with the snapshot, and the one of the second week is summed up. -/
theorem totals_after_first_refresh :
    let first : WeekKey := ⟨"2024-01-01"⟩
    let second : WeekKey := ⟨"2024-01-08"⟩
    let rows : List Assignment :=
      [{ id := 42, person := 9, project := 1
         hours := ((∅ : Hours).insert first 4).insert second 4 }]
    let script : Script :=
      { standing? := some
          { weeks := [first, second]
            people := [⟨9, "Sam Ortiz"⟩]
            totals := Totals.empty.set 9 first 40 }
        details := [.ok rows] }
    let actions : List Action := [.operation (.load {}), .operation (.assign 9 1)]
    let now := Action.run Script.backend actions ({}, script)
    let refreshed := (now.1.refresh Script.backend 9 now.2).grid
    now.1.roster.isLoaded 9 = false ∧ refreshed.roster.rowsFor 9 = rows ∧
      refreshed.total 9 second = weekSum rows second ∧ refreshed.total 9 first == 40 := by
  intro first second rows script actions now refreshed
  have hanswer : (Script.backend.fetchRows 9 now.2).1 = .ok rows := by rfl
  have hsupplied : ¬ Action.Supplied Script.backend 9 second actions ({}, script) :=
    Action.not_supplied (by decide +kernel)
  have hcounted : ¬ Action.CountedSince Script.backend 9 second actions ({}, script) := by
    rintro ((h | ⟨-, effect, heffect, hcounts⟩) | ⟨-, hcounts⟩)
    · exact h
    · obtain rfl := Option.some.inj heffect
      obtain ⟨-, -, row, hcreated, hkey⟩ := hcounts
      cases hcreated
      cases hkey
    · obtain ⟨snapshot, hshown⟩ := Option.isSome_iff_exists.mp (by decide +kernel :
        (Action.shown? Script.backend {} script (.operation (.load {}))).isSome = true)
      exact Action.not_counts_of_shown hshown hcounts
  obtain ⟨-, hrows, -, htotals⟩ :=
    totals_after_refresh Script.backend {} Hours.weekCap actions script 9 rows hanswer
  have hcollapsed : now.1.roster.isLoaded 9 = false := by decide +kernel
  obtain ⟨-, hderived, -⟩ := htotals second (by decide +kernel) hsupplied
  refine ⟨hcollapsed, hrows, hderived ?_, by decide +kernel⟩
  rintro (hloaded | hcounts)
  · exact absurd (hcollapsed.symm.trans hloaded) nofun
  · exact hcounted hcounts

/-- The rows of a person who is loaded are fetched anew, and the ten hours of the week have become
four: the total stays at ten. -/
theorem total_stays_after_refresh :
    let week : WeekKey := ⟨"2024-01-01"⟩
    let row (hours : Float) : Assignment :=
      { id := 42, person := 7, project := 1, hours := (∅ : Hours).insert week hours }
    let script : Script :=
      { standing? := some { weeks := [week], people := [⟨7, "Ada Park"⟩], rows := [row 10] }
        details := [.ok [row 4]] }
    let actions : List Action := [.operation (.load {})]
    let now := Action.run Script.backend actions ({}, script)
    let refreshed := now.1.refresh Script.backend 7 now.2
    now.1.Reachable ∧ now.1.axis.keys = [week] ∧
      ¬ Action.Supplied Script.backend 7 week actions ({}, script) ∧
      refreshed.result = .ok () ∧ weekSum (refreshed.grid.roster.rowsFor 7) week == 4 ∧
      refreshed.grid.total 7 week == 10 := by
  intro week row script actions now refreshed
  have hsupplied : ¬ Action.Supplied Script.backend 7 week actions ({}, script) :=
    Action.not_supplied (by decide +kernel)
  refine ⟨.run _ (.new {} Hours.weekCap) actions script, by decide +kernel, hsupplied, ?_⟩
  decide +kernel

end AssignmentGrid
