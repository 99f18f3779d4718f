import AssignmentGrid.Backend.Script
import AssignmentGrid.Proofs.LoadRun

/-!
# The last load

The load that began last wins. Until another one begins its ticket counts, also when the load has
been finished with it: nothing but the beginning of another load makes a ticket worthless. So a load
that is over stays over as long as its ticket is not used again. Specification
`SPEC_FULL.md:160–161`.
-/

namespace AssignmentGrid

namespace Grid

/-- Nothing that comes with a ticket has any effect. -/
structure PassesOver (g : Grid) (ticket : LoadTicket) : Prop where
  progress : ∀ job, g.recordProgress ticket job = g
  result : ∀ obtained, g.finishLoad ticket obtained = (.ok false, g)

/-- What comes with a ticket is shown and told. -/
structure Takes (g : Grid) (ticket : LoadTicket) : Prop where
  progress : ∀ job, g.recordProgress ticket job =
    { g with
      loadState := .polling job
      events := g.events ++ [.progress job.percent job.message?] }
  outcome : ∀ outcome, g.finishLoad ticket (.ok outcome) =
    (.ok true, { g.applySnapshot outcome.snapshot with
      loadState := .ready
      events := g.events ++ warnings outcome.warning? ++
        [.loaded ticket.generation outcome.path] })
  failure : ∀ e, g.finishLoad ticket (.error e) =
    (.error e, { g with loadState := .failed e.message })

variable {g : Grid} {ticket : LoadTicket}

theorem passesOver_of_ne (h : ticket.generation ≠ g.generation) : g.PassesOver ticket :=
  ⟨recordProgress_of_ne h, finishLoad_of_ne h⟩

theorem takes_of_eq (h : ticket.generation = g.generation) : g.Takes ticket where
  progress := recordProgress_of_eq h
  outcome := by
    intro outcome
    rw [h]
    exact finishLoad_ok_of_eq h outcome
  failure := finishLoad_error_of_eq h

/-- A load has been finished when its result has been taken, whatever the result is. -/
theorem ended_finishLoad (h : ticket.generation = g.generation)
    (obtained : Except GridError LoadOutcome) :
    let finished := (g.finishLoad ticket obtained).2
    finished.loadState = .ready ∨ ∃ message, finished.loadState = .failed message := by
  cases obtained with
  | ok outcome =>
    rw [finishLoad_ok_of_eq h]
    exact .inl rfl
  | error e =>
    rw [finishLoad_error_of_eq h]
    exact .inr ⟨e.message, rfl⟩

theorem generation_finishLoad (g : Grid) (ticket : LoadTicket)
    (obtained : Except GridError LoadOutcome) :
    (g.finishLoad ticket obtained).2.generation = g.generation :=
  (Receives.finishLoad g ticket obtained).generation

end Grid

open AssignmentGrid.Action

variable {σ : Type} (b : Backend σ)

/-- In every run, what comes with the ticket of a load is taken until another load begins and passed
over from then on, and of loads that have finished the later ones are told later. The number of
loads must fit its word. -/
theorem last_load_wins (g : Grid) (s : σ) (actions : List Action)
    (hcount : g.generation.toNat + actions.countP beginsLoad < UInt64.size) :
    (∀ before request between, actions = before ++ piece (.beginLoad request) :: between →
      let ticket := ((run b before (g, s)).1.beginLoad request).1
      let now := (run b actions (g, s)).1
      if between.any beginsLoad then now.PassesOver ticket else now.Takes ticket) ∧
    ∃ new, told b actions (g, s) = g.events ++ new ∧
      (new.filterMap Event.finished?).Pairwise (· ≤ ·) := by
  constructor
  · intro before request between hactions ticket now
    have hcounted : now.generation.toNat = ticket.generation.toNat + between.countP beginsLoad :=
      toNat_generation_of_begun b hactions (x := (g, s)) hcount
    split
    · next hbegins =>
      refine Grid.passesOver_of_ne fun hsame ↦ ?_
      have hpos : 0 < between.countP beginsLoad :=
        List.countP_pos_iff.mpr (List.any_eq_true.mp hbegins)
      rw [hsame] at hcounted
      omega
    · next hbegins =>
      refine Grid.takes_of_eq (UInt64.toNat_inj.mp ?_)
      have hzero : between.countP beginsLoad = 0 := by
        rw [List.countP_eq_zero]
        intro a ha hbegin
        exact hbegins (List.any_eq_true.mpr ⟨a, ha, hbegin⟩)
      omega
  · obtain ⟨new, hnew, -, hsorted⟩ := told_run b (x := (g, s)) hcount
    exact ⟨new, hnew, hsorted⟩

/-- Two loads have begun. The ticket of the first one is passed over and that of the second one is
taken. -/
theorem last_load_wins_of_two_loads :
    let begins : Action := .piece (.beginLoad {})
    let selects : Action := .gesture (.select ⟨⟨7, 42⟩, ⟨"2024-01-01"⟩⟩ false)
    let actions := [begins, selects, begins, selects]
    let now := (run Script.backend actions ({}, {})).1
    ({} : Grid).generation.toNat + actions.countP beginsLoad < UInt64.size ∧
      now.PassesOver ⟨1, {}⟩ ∧ now.Takes ⟨2, {}⟩ := by
  intro begins selects actions now
  have hcount : ({} : Grid).generation.toNat + actions.countP beginsLoad < UInt64.size := by decide
  obtain ⟨hloads, -⟩ := last_load_wins Script.backend {} {} actions hcount
  have hfirst : now.PassesOver ⟨1, {}⟩ := hloads [] {} [selects, begins, selects] rfl
  have hsecond : now.Takes ⟨2, {}⟩ := hloads [begins, selects] {} [selects] rfl
  exact ⟨hcount, hfirst, hsecond⟩

/-! ### After the end of a load -/

/-- What holds after `actions` when none of them has begun another load since the grid was
`finished` with `ticket`. -/
structure AfterEnd (ticket : LoadTicket) (finished : Grid) (s : σ) (actions : List Action) :
    Prop where
  ended : finished.loadState = .ready ∨ ∃ message, finished.loadState = .failed message
  /-- No load has been counted since, so that the number cannot outgrow its word. -/
  counted : (run b actions (finished, s)).1.generation = ticket.generation
  /-- Unless the ticket is used again, the load stays over and nothing is told of a load. -/
  stays : (∀ a ∈ actions, a.uses ticket.generation = false) →
    (run b actions (finished, s)).1.loadState = finished.loadState ∧
      ∃ new, told b actions (finished, s) = finished.events ++ new ∧
        ∀ e ∈ new, e.isOfLoad = false
  /-- Tickets of other loads have no effect. -/
  others : ∀ before a after other, actions = before ++ a :: after → a.ticket? = some other →
    other.generation ≠ ticket.generation →
      run b (before ++ [a]) (finished, s) = run b before (finished, s)
  /-- How far the load is, and what is told of loads, is what the ticket has brought since. -/
  again : (run b actions (finished, s)).1.loadState =
      ((actions.filterMap (delivery? ticket.generation)).map Delivery.state).getLastD
        finished.loadState ∧
    ∃ new, told b actions (finished, s) = finished.events ++ new ∧
      new.filter Event.isOfLoad =
        (actions.filterMap (delivery? ticket.generation)).flatMap Delivery.told
  /-- The ticket can still be used. -/
  takes : (run b actions (finished, s)).1.Takes ticket

/-- A load that has been finished with its ticket stays over as long as the ticket is not used
again; until another load begins, it can be. -/
theorem after_end (g : Grid) (s : σ) (ticket : LoadTicket)
    (obtained : Except GridError LoadOutcome) (actions : List Action)
    (hcurrent : g.isCurrent ticket = true) (hbegins : ∀ a ∈ actions, a.beginsLoad = false) :
    AfterEnd b ticket (g.finishLoad ticket obtained).2 s actions := by
  let finished := (g.finishLoad ticket obtained).2
  have hticket : ticket.generation = g.generation := Grid.isCurrent_iff.mp hcurrent
  have hfinished : finished.generation = ticket.generation :=
    (Grid.generation_finishLoad g ticket obtained).trans hticket.symm
  have hreceives := receives_run b hbegins (finished, s)
  have hcounted := hreceives.generation.trans hfinished
  have hagain : _ ∧ _ := ⟨hreceives.loadState, hreceives.events⟩
  dsimp only at hagain
  rw [hfinished] at hagain
  constructor
  case ended => exact Grid.ended_finishLoad hticket obtained
  case counted => exact hcounted
  case stays =>
    intro hunused
    rw [List.filterMap_eq_nil_iff.mpr fun a ha ↦ delivery?_eq_none (hunused a ha)] at hagain
    obtain ⟨hstate, new, hnew, hquiet⟩ := hagain
    refine ⟨hstate, new, hnew, ?_⟩
    intro e he
    exact Bool.eq_false_iff.mpr (List.filter_eq_nil_iff.mp hquiet e he)
  case others =>
    intro before a after other hactions hother hne
    have hbefore : (run b before (finished, s)).1.generation = ticket.generation := by
      have hquiet (c : Action) (hc : c ∈ before) : c.beginsLoad = false :=
        hbegins c (hactions ▸ List.mem_append_left _ hc)
      exact (receives_run b hquiet (finished, s)).generation.trans hfinished
    rw [run_append]
    exact perform_of_ticket b hother (hbefore ▸ hne) _
  case again => exact hagain
  case takes => exact Grid.takes_of_eq hcounted.symm

/-- A load has been finished and its row has been edited. Used again, the ticket reopens the load
with a report of progress, and with the same result it takes the edit back. -/
theorem ended_load_used_again :
    let c : Cell := ⟨⟨7, 42⟩, ⟨"2024-01-01"⟩⟩
    let outcome : LoadOutcome :=
      { snapshot :=
          { weeks := [c.week]
            people := [⟨7, "Ada Park"⟩]
            rows := [{ id := 42, person := 7, project := 1 }] }
        path := .direct
        warning? := none }
    let job : JobProgress := ⟨"job-1", 40, none⟩
    let begun := ({} : Grid).beginLoad {}
    let finished := (begun.2.finishLoad begun.1 (.ok outcome)).2
    let edited := (finished.prepareHours [c] 4).2
    let reopened := edited.recordProgress begun.1 job
    let again := (edited.finishLoad begun.1 (.ok outcome)).2
    finished.loadState = .ready ∧ edited.loadState = .ready ∧ reopened.loadState = .polling job ∧
      reopened.events = edited.events ++ [.progress 40 none] ∧
      again.events = edited.events ++ [.loaded 1 .direct] ∧
      again.roster.find? c.row ≠ edited.roster.find? c.row := by
  intro c outcome job begun finished edited reopened again
  let isFilled (a : Assignment) : Bool := a.hours[c.week]?.isSome
  have hentries : (edited.roster.find? c.row).map isFilled = some true ∧
      (again.roster.find? c.row).map isFilled = some false := by
    decide +kernel
  refine ⟨rfl, rfl, rfl, rfl, rfl, ?_⟩
  intro hsame
  rw [hsame, hentries.1] at hentries
  simp at hentries

/-- While the ticket of a superseded load arrives and cells are selected, a load that is over stays
over; with its own ticket it is reopened. -/
theorem after_end_of_second_load :
    let begun := (({} : Grid).beginLoad {}).2.beginLoad {}
    let job : JobProgress := ⟨"job-1", 40, none⟩
    let failure : Except GridError LoadOutcome := .error (.snapshotAcquisition "HTTP 503")
    let idle : List Action :=
      [.piece (.progress ⟨1, {}⟩ job), .gesture (.select ⟨⟨7, 42⟩, ⟨"2024-01-01"⟩⟩ false),
        .piece (.finishLoad ⟨1, {}⟩ failure)]
    let finished := (begun.2.finishLoad begun.1 failure).2
    let now := (run Script.backend idle (finished, {})).1
    begun.2.isCurrent begun.1 = true ∧ (∀ a ∈ idle, a.beginsLoad = false) ∧
      now.loadState = finished.loadState ∧
      (now.recordProgress begun.1 job).loadState = .polling job := by
  intro begun job failure idle finished now
  have hcurrent : begun.2.isCurrent begun.1 = true := rfl
  have hbegins : ∀ a ∈ idle, a.beginsLoad = false := by simp [idle, beginsLoad]
  have hafter := after_end Script.backend begun.2 {} begun.1 failure idle hcurrent hbegins
  have hunused : ∀ a ∈ idle, a.uses begun.1.generation = false := by
    simp [idle, uses, ticket?, begun, Grid.beginLoad]
  refine ⟨hcurrent, hbegins, (hafter.stays hunused).1, ?_⟩
  rw [hafter.takes.progress job]

end AssignmentGrid
