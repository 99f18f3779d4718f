import AssignmentGrid.Proofs.References
import AssignmentGrid.Proofs.SheetStep

/-!
# The people who are shown

A load says who is shown. Until the next one nobody goes, and nobody changes the place, but somebody
may come: to expand a person and to put one on a project takes a person who is shown, whereas the
rows of anybody can be fetched anew, and whoever is not shown by then is shown last from then on.
Specification `SPEC_FULL.md:169–170,179–180`.
-/

namespace AssignmentGrid

variable {σ : Type}

namespace Action

/-- Whether a row that an action creates is one of the person for whom it was asked. -/
def CreatesOwn (b : Backend σ) (s : σ) : Action → Prop
  | operation (.assign p project) =>
    Delivers (b.createRow p project s).1 fun row ↦ row.person = p
  | _ => True

/-- The person of whom an action fetches rows without the person being shown. -/
def stranger? (b : Backend σ) (g : Grid) (s : σ) (a : Action) : Option PersonId :=
  match a.effect? b g s with
  | some (.fetches p _) => if (g.roster.person? p).isNone then some p else none
  | _ => none

/-- Whether no action of a run shows a snapshot, and every row that one creates is a row of the
person for whom it was asked. -/
def AlwaysWithinLoad (b : Backend σ) : List Action → Grid × σ → Prop
  | [], _ => True
  | a :: rest, x => (a.shown? b x.1 x.2 = none ∧ a.CreatesOwn b x.2) ∧
      AlwaysWithinLoad b rest (a.perform b x.1 x.2)

/-- The strangers of a run in the order in which they come. -/
def strangers (b : Backend σ) : List Action → Grid × σ → List PersonId
  | [], _ => []
  | a :: rest, x => (a.stranger? b x.1 x.2).toList ++ strangers b rest (a.perform b x.1 x.2)

end Action

/-! ### One action -/

/-- A row of somebody who is shown shows nobody new. -/
theorem Roster.ids_push_of_known {r : Roster} {a : Assignment}
    (h : (r.person? a.person).isSome = true) : (r.push a).ids = r.ids := by
  rw [push, ids_file, if_pos ((r.isSome_person? a.person).mp h)]

/-- A change of held rows shows the same people, when what it creates is a row of the person for
whom it was asked. -/
theorem RowChange.ids_perform (c : RowChange) {b : Backend σ} {s : σ} (g : Grid)
    (hown : c.action.CreatesOwn b s) :
    (c.action.perform b g s).1.roster.ids = g.roster.ids := by
  have hfetches : c.action.fetches = false := by cases c <;> rfl
  -- The cases are those in which rows change; two of them are not those of a change.
  generalize hlater : (c.action.perform b g s).1.roster = later
  have hleads : c.action.LeadsTo b g s later := hlater ▸ Action.LeadsTo.perform c.action b g s
  generalize c.action = a at hfetches hleads hown
  cases hleads with
  | revised _ f => exact g.roster.ids_revise f
  | loaded h _ => exact absurd (hfetches.symm.trans h) nofun
  | fetched h _ => exact absurd (hfetches.symm.trans h) nofun
  | created hknown hanswer =>
    apply Roster.ids_push_of_known
    rwa [hown _ hanswer]
  | removed id => exact g.roster.ids_remove id

namespace Action

variable {b : Backend σ} {g : Grid} {s : σ} {a : Action}

/-- Strangers come by fetching their rows anew, and in no other way: to be expanded a person has to
be shown. -/
theorem stranger?_eq_some_iff {p : PersonId} :
    a.stranger? b g s = some p ↔ a = .operation (.refresh p) ∧
      g.roster.person? p = none ∧ ∃ rows, (b.fetchRows p s).1 = .ok rows := by
  constructor
  · intro h
    unfold stranger? at h
    split at h
    · next q rows heffect =>
      split at h
      · next hnone =>
        obtain rfl := Option.some.inj h
        have hunknown := Option.isNone_iff_eq_none.mp hnone
        cases brings_of_effect? heffect with
        | refreshed hanswer => exact ⟨rfl, hunknown, rows, hanswer⟩
        | expanded hperson _ _ => exact absurd (hunknown.symm.trans hperson) nofun
      · cases h
    · cases h
  · rintro ⟨rfl, hunknown, rows, hanswer⟩
    simp [stranger?, effect?, Effect.ofFetch?, hanswer, hunknown, Except.toOption]

/-- Without a snapshot the same people are shown after an action, and behind them the stranger of
whom it has fetched rows. -/
theorem ids_perform (hquiet : a.shown? b g s = none) (hown : a.CreatesOwn b s) :
    (a.perform b g s).1.roster.ids = g.roster.ids ++ (a.stranger? b g s).toList := by
  have hsheet := (a.undergoes_perform b g s).sheet
  unfold stranger?
  cases heffect : a.effect? b g s with
  | none =>
    rw [heffect] at hsheet
    exact (congrArg (·.roster.ids) hsheet).trans (List.append_nil _).symm
  | some effect =>
    rw [heffect] at hsheet
    have hids : (a.perform b g s).1.roster.ids = (effect.sheet b g s).roster.ids :=
      congrArg (·.roster.ids) hsheet
    rw [hids]
    cases effect with
    | shows snapshot => simp [shown?, heffect, Effect.snapshot?] at hquiet
    | fetches p rows =>
      refine (g.roster.ids_replaceRows p rows).trans ?_
      dsimp only
      by_cases hknown : p ∈ g.roster.ids
      · have hperson := (g.roster.isSome_person? p).mpr hknown
        simp [hknown, Option.isNone_eq_false_iff.mpr hperson]
      · simp [hknown, (g.roster.person?_eq_none_iff p).mpr hknown]
    | changes c =>
      have hchange : c.action.CreatesOwn b s := by
        cases brings_of_effect? heffect with
        | changed _ => exact hown
        | committed _ cells value => trivial
      exact (c.ids_perform g hchange).trans (List.append_nil _).symm

/-! ### Runs -/

/-- Without a snapshot the same people are shown after a run, and behind them its strangers. -/
theorem ids_run {actions : List Action} {x : Grid × σ} (h : AlwaysWithinLoad b actions x) :
    (run b actions x).1.roster.ids = x.1.roster.ids ++ strangers b actions x := by
  induction actions generalizing x with
  | nil => exact (List.append_nil _).symm
  | cons a rest ih =>
    obtain ⟨⟨hquiet, hown⟩, hrest⟩ := h
    refine (ih hrest).trans ?_
    rw [ids_perform hquiet hown, List.append_assoc]
    rfl

/-- A run has no strangers exactly if it never fetches the rows of somebody who is not shown. -/
theorem strangers_eq_nil_iff {actions : List Action} {x : Grid × σ} :
    strangers b actions x = [] ↔
      ∀ before p after, actions = before ++ .operation (.refresh p) :: after →
        (run b before x).1.roster.person? p = none →
          ∀ rows, (b.fetchRows p (run b before x).2).1 ≠ .ok rows := by
  induction actions generalizing x with
  | nil =>
    refine iff_of_true rfl fun before p after hactions ↦ ?_
    exact absurd hactions.symm (List.append_ne_nil_of_right_ne_nil before (List.cons_ne_nil _ _))
  | cons a rest ih =>
    rw [strangers, List.append_eq_nil_iff, Option.toList_eq_nil_iff, ih,
      Option.eq_none_iff_forall_not_mem]
    constructor
    · rintro ⟨hfirst, hrest⟩ before p after hactions hunknown rows hanswer
      cases before with
      | nil =>
        obtain ⟨rfl, -⟩ := List.cons.inj hactions
        exact hfirst p (stranger?_eq_some_iff.mpr ⟨rfl, hunknown, rows, hanswer⟩)
      | cons first before =>
        obtain ⟨rfl, hafter⟩ := List.cons.inj hactions
        exact hrest before p after hafter hunknown rows hanswer
    · intro hall
      constructor
      · intro p hp
        obtain ⟨rfl, hunknown, rows, hanswer⟩ := stranger?_eq_some_iff.mp hp
        exact hall [] p rest rfl hunknown rows hanswer
      · rintro before p after rfl
        exact hall (a :: before) p after rfl

end Action

/-- While no snapshot is shown, and every created row is one of the person for whom it was asked,
nobody goes and nobody changes the place. The people stay the same exactly if the rows of nobody
are fetched who is not shown; everyone else of whom that is done comes behind them. Expanding such
a person and putting one on a project are refused without asking the backend, whereas fetching the
rows ends as the backend answers. -/
theorem people_shown_without_load (b : Backend σ) (g : Grid) (s : σ) (actions : List Action)
    (hwithin : Action.AlwaysWithinLoad b actions (g, s)) :
    let now := Action.run b actions (g, s)
    now.1.roster.ids = g.roster.ids ++ Action.strangers b actions (g, s) ∧
      (now.1.roster.ids = g.roster.ids ↔
        ∀ before p after, actions = before ++ .operation (.refresh p) :: after →
          (Action.run b before (g, s)).1.roster.person? p = none →
            ∀ rows, (b.fetchRows p (Action.run b before (g, s)).2).1 ≠ .ok rows) ∧
      ∀ p, now.1.roster.person? p = none →
        now.1.expand b p now.2 = ⟨.error (Grid.noPerson p), now.1, now.2⟩ ∧
        (∀ project,
          now.1.assign b p project now.2 = ⟨.error (Grid.noPerson p), now.1, now.2⟩) ∧
        (∀ e, (b.fetchRows p now.2).1 = .error e →
          (now.1.refresh b p now.2).result = .error (.fetch e)) ∧
        ∀ rows, (b.fetchRows p now.2).1 = .ok rows →
          (now.1.refresh b p now.2).result = .ok () ∧
            (now.1.refresh b p now.2).grid.roster.ids = now.1.roster.ids ++ [p] := by
  intro now
  have hids : now.1.roster.ids = g.roster.ids ++ Action.strangers b actions (g, s) :=
    Action.ids_run hwithin
  refine ⟨hids, ?_, fun p hunknown ↦ ⟨?_, ?_, ?_, ?_⟩⟩
  · rw [hids, List.append_right_eq_self]
    exact Action.strangers_eq_nil_iff
  · unfold Grid.expand
    rw [hunknown]
  · intro project
    unfold Grid.assign
    rw [hunknown]
  · intro e hanswer
    rw [now.1.refresh_of_error hanswer]
  · intro rows hanswer
    have hnew := (now.1.roster.person?_eq_none_iff p).mp hunknown
    rw [now.1.refresh_of_ok hanswer]
    exact ⟨rfl, (now.1.roster.ids_replaceRows p rows).trans (if_neg hnew)⟩

/-- A person is expanded and put on a project, and the rows of a stranger cannot be fetched. -/
theorem people_shown_after_failed_fetch :
    let script : Script :=
      { standing? := some { weeks := [⟨"2024-01-01"⟩], people := [⟨9, "Sam Ortiz"⟩] }
        details := [.ok [], .error (.network "no connection")] }
    let start := Action.run Script.backend [.operation (.load {})] ({}, script)
    let actions : List Action :=
      [.operation (.expand 9), .operation (.refresh 7), .operation (.assign 9 1)]
    let now := Action.run Script.backend actions start
    now.1.roster.ids = start.1.roster.ids ∧ now.1.roster.order = [⟨9, 1000⟩] ∧
      now.1.expand Script.backend 7 now.2 = ⟨.error (Grid.noPerson 7), now.1, now.2⟩ := by
  intro script start actions now
  have hquiet (a : Action) (x : Grid × Script)
      (h : (a.shown? Script.backend x.1 x.2).isNone = true) :
      a.shown? Script.backend x.1 x.2 = none := Option.isNone_iff_eq_none.mp h
  have hwithin : Action.AlwaysWithinLoad Script.backend actions start :=
    ⟨⟨hquiet _ _ (by decide +kernel), trivial⟩, ⟨hquiet _ _ (by decide +kernel), trivial⟩,
      ⟨hquiet _ _ (by decide +kernel), fun _ h ↦ Except.ok.inj h ▸ rfl⟩, trivial⟩
  obtain ⟨hids, -, hrefused⟩ :=
    people_shown_without_load Script.backend start.1 start.2 actions hwithin
  have hnobody : Action.strangers Script.backend actions start = [] :=
    List.isEmpty_iff.mp (by decide +kernel)
  have hunknown : now.1.roster.person? 7 = none :=
    Option.isNone_iff_eq_none.mp (by decide +kernel)
  refine ⟨?_, by decide +kernel, (hrefused 7 hunknown).1⟩
  exact hids.trans (by rw [hnobody, List.append_nil])

/-- The rows of a stranger are fetched: the stranger is shown from then on, although expanding and
assigning were refused before. -/
theorem stranger_shown_after_refresh :
    let script : Script :=
      { standing? := some { weeks := [⟨"2024-01-01"⟩], people := [⟨7, "Ada Park"⟩] } }
    let start := Action.run Script.backend [.operation (.load {})] ({}, script)
    let refreshed := start.1.refresh Script.backend 99 start.2
    start.1.Reachable ∧ start.1.roster.ids = [7] ∧
      (start.1.expand Script.backend 99 start.2).result = .error (.notFound "person 99") ∧
      (start.1.assign Script.backend 99 1 start.2).result = .error (.notFound "person 99") ∧
      refreshed.result = .ok () ∧ refreshed.grid.roster.ids = [7, 99] := by
  intro script start refreshed
  refine ⟨.run _ (.new {} Hours.weekCap) _ script, ?_⟩
  decide +kernel

end AssignmentGrid
