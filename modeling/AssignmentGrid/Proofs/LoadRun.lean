import AssignmentGrid.Proofs.BesideLoads

/-!
# Loads in a run

In a run any number of loads may be under way, and what comes of them may arrive in any order. While
no other load begins, only deliveries for the load that began last count: the last of them decides
how far the load is, and each of them is told once. Events that are taken out in the course of a run
count with those that are still in the queue at its end.
-/

namespace AssignmentGrid

/-- The load of which an event tells that it has finished. -/
def Event.finished? : Event → Option UInt64
  | .loaded generation _ => some generation
  | _ => none

theorem Event.finished?_eq_none {e : Event} (h : e.isOfLoad = false) : e.finished? = none := by
  cases e with
  | loaded generation path => cases h
  | _ => rfl

/-- Only events of loads tell that a load has finished. -/
theorem Event.filterMap_finished?_filter (events : List Event) :
    (events.filter Event.isOfLoad).filterMap Event.finished? =
      events.filterMap Event.finished? := by
  induction events with
  | nil => rfl
  | cons e rest ih =>
    cases h : e.isOfLoad with
    | true => rw [List.filter_cons_of_pos h, List.filterMap_cons, List.filterMap_cons, ih]
    | false =>
      rw [List.filter_cons_of_neg (by simp [h]), List.filterMap_cons_none
        (Event.finished?_eq_none h), ih]

/-- What comes of a load: how far the load is then, and what is told of it. -/
structure Delivery where
  state : LoadState
  told : List Event

namespace Action

/-- Whether an action begins a load. -/
def beginsLoad : Action → Bool
  | operation (.load _) | operation .reload | operation (.setWeeks _) | operation (.setScope _)
  | piece (.beginLoad _) => true
  | _ => false

/-- The ticket with which an action delivers something. -/
def ticket? : Action → Option LoadTicket
  | piece (.progress ticket _) | piece (.finishLoad ticket _) => some ticket
  | _ => none

/-- Whether an action uses a ticket of the load with a number. -/
def uses (generation : UInt64) (a : Action) : Bool :=
  a.ticket?.any fun ticket ↦ ticket.generation == generation

/-- What an action delivers for the load with a number. -/
def delivery? (generation : UInt64) : Action → Option Delivery
  | piece (.progress ticket job) =>
    if ticket.generation = generation then
      some ⟨.polling job, [.progress job.percent job.message?]⟩
    else none
  | piece (.finishLoad ticket (.ok outcome)) =>
    if ticket.generation = generation then some ⟨.ready, [.loaded generation outcome.path]⟩
    else none
  | piece (.finishLoad ticket (.error e)) =>
    if ticket.generation = generation then some ⟨.failed e.message, []⟩ else none
  | _ => none

/-- A delivery needs a ticket of its load. -/
theorem delivery?_eq_none {generation : UInt64} {a : Action} (h : a.uses generation = false) :
    a.delivery? generation = none := by
  cases a with
  | operation o => rfl
  | gesture m => rfl
  | piece p =>
    cases p with
    | progress ticket job => exact if_neg (beq_eq_false_iff_ne.mp h)
    | finishLoad ticket obtained =>
      cases obtained with
      | ok outcome => exact if_neg (beq_eq_false_iff_ne.mp h)
      | error e => exact if_neg (beq_eq_false_iff_ne.mp h)
    | _ => rfl

/-- A delivery tells of no other load than its own. -/
theorem eq_of_mem_finished {generation n : UInt64} {a : Action} {d : Delivery}
    (h : a.delivery? generation = some d) (hn : n ∈ d.told.filterMap Event.finished?) :
    n = generation := by
  unfold delivery? at h
  split at h
  · split at h
    · cases h
      cases hn
    · cases h
  · split at h
    · cases h
      exact List.mem_singleton.mp hn
    · cases h
  · split at h
    · cases h
      cases hn
    · cases h
  · cases h

/-- The events that an action takes out. -/
def taken (g : Grid) : Action → List Event
  | gesture .drain => g.drain.1
  | _ => []

/-- Nothing else takes events out. -/
theorem taken_eq_nil {a : Action} (h : a ≠ .gesture .drain) (g : Grid) : a.taken g = [] := by
  unfold taken
  split
  · exact absurd rfl h
  · rfl

variable {σ : Type} (b : Backend σ)

/-- The grid and the backend's state after actions. -/
def run (actions : List Action) (x : Grid × σ) : Grid × σ :=
  actions.foldl (fun x a ↦ a.perform b x.1 x.2) x

/-- The events that are taken out in the course of actions. -/
def takenBy : List Action → Grid × σ → List Event
  | [], _ => []
  | a :: rest, x => a.taken x.1 ++ takenBy rest (a.perform b x.1 x.2)

/-- All that has been told after actions: what was taken out on the way, and what is still in the
queue. -/
def told (actions : List Action) (x : Grid × σ) : List Event :=
  takenBy b actions x ++ (run b actions x).1.events

theorem run_append (before after : List Action) (x : Grid × σ) :
    run b (before ++ after) x = run b after (run b before x) := List.foldl_append

theorem told_cons (a : Action) (rest : List Action) (x : Grid × σ) :
    told b (a :: rest) x = a.taken x.1 ++ told b rest (a.perform b x.1 x.2) :=
  List.append_assoc _ _ _

end Action

namespace Grid

variable {g : Grid} {ticket : LoadTicket}

/-- A load that begins is counted, as long as the number of loads fits its word. -/
theorem toNat_generation_beginLoad (h : g.generation.toNat + 1 < UInt64.size)
    (request : LoadRequest) :
    (g.beginLoad request).1.generation.toNat = g.generation.toNat + 1 :=
  (UInt64.toNat_add _ _).trans (Nat.mod_eq_of_lt h)

/-! ### Tickets -/

theorem isCurrent_iff : g.isCurrent ticket = true ↔ ticket.generation = g.generation := by
  unfold isCurrent
  exact beq_iff_eq

/-- Progress of another load is passed over. -/
theorem recordProgress_of_ne (h : ticket.generation ≠ g.generation) (job : JobProgress) :
    g.recordProgress ticket job = g :=
  if_neg fun hcurrent ↦ h (isCurrent_iff.mp hcurrent)

/-- What another load has obtained is dropped. -/
theorem finishLoad_of_ne (h : ticket.generation ≠ g.generation)
    (obtained : Except GridError LoadOutcome) : g.finishLoad ticket obtained = (.ok false, g) :=
  if_neg fun hcurrent ↦ h (isCurrent_iff.mp hcurrent)

/-- Progress of the last load is noted and told. -/
theorem recordProgress_of_eq (h : ticket.generation = g.generation) (job : JobProgress) :
    g.recordProgress ticket job =
      { g with
        loadState := .polling job
        events := g.events ++ [.progress job.percent job.message?] } :=
  if_pos (isCurrent_iff.mpr h)

/-- The notices for a warning. -/
def warnings : Option String → List Event
  | some message => [.notice .warning message]
  | none => []

theorem warn?_eq (g : Grid) (message? : Option String) :
    g.warn? message? = { g with events := g.events ++ warnings message? } := by
  cases message? with
  | none =>
    rw [warnings, List.append_nil]
    rfl
  | some message => rfl

/-- The snapshot of the last load is shown, and that is told. -/
theorem finishLoad_ok_of_eq (h : ticket.generation = g.generation) (outcome : LoadOutcome) :
    g.finishLoad ticket (.ok outcome) =
      (.ok true, { g.applySnapshot outcome.snapshot with
        loadState := .ready
        events := g.events ++ warnings outcome.warning? ++
          [.loaded g.generation outcome.path] }) := by
  unfold finishLoad
  dsimp only
  rw [if_pos (isCurrent_iff.mpr h), h, warn?_eq]
  rfl

/-- A failure of the last load is noted. -/
theorem finishLoad_error_of_eq (h : ticket.generation = g.generation) (e : GridError) :
    g.finishLoad ticket (.error e) = (.error e, { g with loadState := .failed e.message }) :=
  if_pos (isCurrent_iff.mpr h)

/-! ### Whole loads -/

/-- The event that tells how far a job is. -/
def progressEvent (job : JobProgress) : Event := .progress job.percent job.message?

/-- The grid after a load that has shown a snapshot. -/
def showing (g : Grid) (request : LoadRequest) (s : Snapshot) (events : List Event) : Grid :=
  { g.applySnapshot s with
    loadState := .ready
    generation := g.generation + 1
    request
    events }

/-- Progress of the last load changes how far the load is, and is told of. -/
theorem foldl_recordProgress_eq (h : ticket.generation = g.generation) (jobs : List JobProgress) :
    ∃ loadState, jobs.foldl (fun g job ↦ g.recordProgress ticket job) g =
      { g with loadState, events := g.events ++ jobs.map progressEvent } := by
  induction jobs generalizing g with
  | nil => exact ⟨g.loadState, by rw [List.map_nil, List.append_nil]; rfl⟩
  | cons job rest ih =>
    have hnoted := recordProgress_of_eq h job
    obtain ⟨loadState, hrest⟩ := ih (g := g.recordProgress ticket job) (by rw [hnoted]; exact h)
    refine ⟨loadState, ?_⟩
    rw [List.foldl_cons, hrest, hnoted, List.map_cons, ← List.append_cons]
    rfl

section Load

variable {σ : Type} {b : Backend σ} {request : LoadRequest} {s : σ}

/-- A load finishes when all progress of its job has been noted. -/
theorem load_eq (g : Grid) (b : Backend σ) (request : LoadRequest) (s : σ) :
    ∃ loadState,
      let acquired := Load.acquire g.config b request s
      let noted : Grid :=
        { g with
          loadState
          generation := g.generation + 1
          request
          events := g.events ++ acquired.progress.map progressEvent }
      let finished := noted.finishLoad ⟨g.generation + 1, request⟩ acquired.result
      g.load b request s = ⟨finished.1.map fun _ ↦ (), finished.2, acquired.backend⟩ := by
  have hcurrent : (g.beginLoad request).1.generation = (g.beginLoad request).2.generation := rfl
  obtain ⟨loadState, hnoted⟩ :=
    foldl_recordProgress_eq hcurrent (Load.acquire g.config b request s).progress
  have hload : g.load b request s =
      let reply := (g.beginLoad request).2.completeLoad (g.beginLoad request).1
        (Load.acquire g.config b request s)
      ⟨reply.result.map fun _ ↦ (), reply.grid, reply.backend⟩ := rfl
  refine ⟨loadState, ?_⟩
  rw [hload]
  unfold completeLoad
  dsimp only
  rw [hnoted]
  rfl

/-- A load that obtains a snapshot shows it. -/
theorem load_of_ok {outcome : LoadOutcome}
    (h : (Load.acquire g.config b request s).result = .ok outcome) :
    g.load b request s = ⟨.ok (), g.showing request outcome.snapshot (g.events ++
      (Load.acquire g.config b request s).progress.map progressEvent ++
        warnings outcome.warning? ++ [.loaded (g.generation + 1) outcome.path]),
      (Load.acquire g.config b request s).backend⟩ := by
  obtain ⟨loadState, hload⟩ := load_eq g b request s
  rw [hload, h, finishLoad_ok_of_eq rfl]
  rfl

/-- A load that obtains nothing leaves what was there. -/
theorem load_of_error {e : GridError}
    (h : (Load.acquire g.config b request s).result = .error e) :
    g.load b request s = ⟨.error e,
      { g with
        loadState := .failed e.message
        generation := g.generation + 1
        request
        events := g.events ++ (Load.acquire g.config b request s).progress.map progressEvent },
      (Load.acquire g.config b request s).backend⟩ := by
  obtain ⟨loadState, hload⟩ := load_eq g b request s
  rw [hload, h, finishLoad_error_of_eq rfl]
  rfl

end Load

/-! ### Deliveries -/

/-- A later grid before another load has begun: of `actions` the deliveries for the last load have
arrived, and the events `taken` have been taken out. -/
structure Receives (g later : Grid) (actions : List Action) (taken : List Event) : Prop where
  generation : later.generation = g.generation
  /-- The last delivery decides how far the load is. -/
  loadState : later.loadState =
    ((actions.filterMap (Action.delivery? g.generation)).map Delivery.state).getLastD g.loadState
  /-- What is told of loads is told by the deliveries. -/
  events : ∃ new, taken ++ later.events = g.events ++ new ∧
    new.filter Event.isOfLoad =
      (actions.filterMap (Action.delivery? g.generation)).flatMap Delivery.told

namespace Receives

theorem refl (g : Grid) : g.Receives g [] [] := ⟨rfl, rfl, [], (List.append_nil _).symm, rfl⟩

theorem trans {next later : Grid} {first rest : List Action} {out more : List Event}
    (h : g.Receives next first out) (h' : next.Receives later rest more) :
    g.Receives later (first ++ rest) (out ++ more) where
  generation := h'.generation.trans h.generation
  loadState := by
    rw [h'.loadState, h.loadState, h.generation, List.filterMap_append, List.map_append]
    simp [List.getLastD_eq_getLast?, List.getLast?_append]
  events := by
    obtain ⟨new, hnew, hloads⟩ := h.events
    obtain ⟨new', hnew', hloads'⟩ := h'.events
    refine ⟨new ++ new', ?_, ?_⟩
    · rw [List.append_assoc, hnew', ← List.append_assoc, hnew, List.append_assoc]
    · rw [List.filter_append, hloads, hloads', h.generation, List.filterMap_append,
        List.flatMap_append]

/-- What goes on beside the loads delivers nothing. -/
theorem of_besideLoads {later : Grid} (h : g.BesideLoads later) {a : Action}
    (ha : a.delivery? g.generation = none) : g.Receives later [a] [] where
  generation := h.generation
  loadState := by
    rw [h.loadState, List.filterMap_cons_none ha]
    rfl
  events := by
    obtain ⟨new, hnew, hquiet⟩ := h.events
    refine ⟨new, hnew, ?_⟩
    rw [List.filterMap_cons_none ha, List.filter_eq_nil_iff.mpr]
    · rfl
    · intro e he
      rw [hquiet e he]
      exact Bool.false_ne_true

theorem drain (g : Grid) : g.Receives g.drain.2 [.gesture .drain] g.drain.1 :=
  ⟨rfl, rfl, [], rfl, rfl⟩

theorem recordProgress (g : Grid) (ticket : LoadTicket) (job : JobProgress) :
    g.Receives (g.recordProgress ticket job) [.piece (.progress ticket job)] [] := by
  by_cases h : ticket.generation = g.generation
  · have hdelivery : [Action.piece (.progress ticket job)].filterMap
        (Action.delivery? g.generation) =
          [⟨.polling job, [.progress job.percent job.message?]⟩] := by
      simp [Action.delivery?, h]
    rw [recordProgress_of_eq h]
    constructor
    case generation => rfl
    case loadState => rw [hdelivery]; rfl
    case events => exact ⟨_, rfl, by rw [hdelivery]; rfl⟩
  · rw [recordProgress_of_ne h]
    exact of_besideLoads (.refl g) (if_neg h)

theorem finishLoad (g : Grid) (ticket : LoadTicket) (obtained : Except GridError LoadOutcome) :
    g.Receives (g.finishLoad ticket obtained).2 [.piece (.finishLoad ticket obtained)] [] := by
  by_cases h : ticket.generation = g.generation
  · cases obtained with
    | error e =>
      have hdelivery : [Action.piece (.finishLoad ticket (.error e))].filterMap
          (Action.delivery? g.generation) = [⟨.failed e.message, []⟩] := by
        simp [Action.delivery?, h]
      rw [finishLoad_error_of_eq h]
      constructor
      case generation => rfl
      case loadState => rw [hdelivery]; rfl
      case events => exact ⟨[], (List.append_nil _).symm, by rw [hdelivery]; rfl⟩
    | ok outcome =>
      have hdelivery : [Action.piece (.finishLoad ticket (.ok outcome))].filterMap
          (Action.delivery? g.generation) =
            [⟨.ready, [.loaded g.generation outcome.path]⟩] := by
        simp [Action.delivery?, h]
      have hwarnings : (warnings outcome.warning?).filter Event.isOfLoad = [] := by
        cases outcome.warning? with
        | none => rfl
        | some message => rfl
      rw [finishLoad_ok_of_eq h]
      constructor
      case generation => rfl
      case loadState => rw [hdelivery]; rfl
      case events =>
        refine ⟨_, List.append_assoc _ _ _, ?_⟩
        rw [List.filter_append, hwarnings, hdelivery]
        rfl
  · rw [finishLoad_of_ne h]
    cases obtained with
    | error e => exact of_besideLoads (.refl g) (if_neg h)
    | ok outcome => exact of_besideLoads (.refl g) (if_neg h)

/-- Of loads that have finished, deliveries for the last one tell of that one alone. -/
theorem eq_of_mem_finished {later : Grid} {actions : List Action} {taken new : List Event}
    (h : g.Receives later actions taken) (hnew : taken ++ later.events = g.events ++ new)
    {n : UInt64}
    (hn : n ∈ new.filterMap Event.finished?) : n = g.generation := by
  obtain ⟨new', hnew', hloads⟩ := h.events
  obtain rfl : new = new' := List.append_cancel_left (hnew.symm.trans hnew')
  rw [← Event.filterMap_finished?_filter, hloads, List.mem_filterMap] at hn
  obtain ⟨e, he, hfinished⟩ := hn
  obtain ⟨d, hd, hed⟩ := List.mem_flatMap.mp he
  obtain ⟨a, -, ha⟩ := List.mem_filterMap.mp hd
  exact Action.eq_of_mem_finished ha (List.mem_filterMap.mpr ⟨e, hed, hfinished⟩)

/-- A load that is completed at once receives what has come of it on the way and in the end. -/
theorem completeLoad {σ : Type} (g : Grid) (ticket : LoadTicket)
    (acquired : Acquired σ (Except GridError LoadOutcome)) :
    g.Receives (g.completeLoad ticket acquired).grid
      (acquired.progress.map (fun job ↦ .piece (.progress ticket job)) ++
        [.piece (.finishLoad ticket acquired.result)]) [] := by
  have hnoted (jobs : List JobProgress) (g : Grid) :
      g.Receives (jobs.foldl (fun g job ↦ g.recordProgress ticket job) g)
        (jobs.map fun job ↦ .piece (.progress ticket job)) [] := by
    induction jobs generalizing g with
    | nil => exact refl g
    | cons job rest ih => exact (recordProgress g ticket job).trans (ih _)
  exact (hnoted acquired.progress g).trans (finishLoad _ ticket acquired.result)

end Receives

end Grid

namespace Action

open Grid

variable {σ : Type} (b : Backend σ)

/-! ### Steps -/

/-- An action that neither begins a load nor delivers anything goes on beside the loads, unless it
takes out the events. -/
theorem besideLoads_perform {a : Action} (hbegins : a.beginsLoad = false)
    (hticket : a.ticket? = none) (hdrain : a ≠ .gesture .drain) (g : Grid) (s : σ) :
    g.BesideLoads (a.perform b g s).1 := by
  cases a with
  | gesture m => exact .gesture g fun h ↦ hdrain (congrArg _ h)
  | piece p =>
    cases p with
    | prepare cells value => exact .prepareHours g cells value
    | settle w => exact .settleHours g w
    | beginLoad request => cases hbegins
    | progress ticket job => cases hticket
    | finishLoad ticket obtained => cases hticket
  | operation o =>
    cases o with
    | expand p => exact .expand b s g p
    | refresh p => exact .refresh b s g p
    | assign p project => exact .assign b s g p project
    | unassign id => exact .unassign b s g id
    | apply cells value => exact .applyHours b s g cells value
    | commit => exact .commit b s g
    | input i => exact .handle b s g i
    | _ => cases hbegins

/-- An action that begins a load does no more than that or runs it to its end. -/
theorem perform_of_beginsLoad {a : Action} (h : a.beginsLoad = true) (g : Grid) (s : σ) :
    ∃ request, (a.perform b g s).1 = (g.beginLoad request).2 ∨
      (a.perform b g s).1 = (g.load b request s).grid := by
  cases a with
  | gesture m => cases h
  | piece p =>
    cases p with
    | beginLoad request => exact ⟨request, .inl rfl⟩
    | _ => cases h
  | operation o =>
    cases o with
    | load request => exact ⟨request, .inr rfl⟩
    | reload => exact ⟨g.request, .inr rfl⟩
    | setWeeks weeks => exact ⟨{ g.request with weeks }, .inr rfl⟩
    | setScope scope => exact ⟨{ g.request with scope }, .inr rfl⟩
    | _ => cases h

/-- An action that begins no load delivers what it has for the last load, or nothing. -/
theorem receives_perform {a : Action} (ha : a.beginsLoad = false) (g : Grid) (s : σ) :
    g.Receives (a.perform b g s).1 [a] (a.taken g) := by
  cases hticket : a.ticket? with
  | some ticket =>
    cases a with
    | operation o => cases hticket
    | gesture m => cases hticket
    | piece p =>
      cases p with
      | progress ticket job => exact .recordProgress g ticket job
      | finishLoad ticket obtained => exact .finishLoad g ticket obtained
      | _ => cases hticket
  | none =>
    by_cases hdrain : a = .gesture .drain
    · subst hdrain
      exact .drain g
    · have hunused : a.uses g.generation = false := by
        rw [uses, hticket]
        rfl
      have hbeside := besideLoads_perform b ha hticket hdrain g s
      rw [taken_eq_nil hdrain g]
      exact .of_besideLoads hbeside (delivery?_eq_none hunused)

/-- A piece with a ticket of a load that is not the last one changes nothing. -/
theorem perform_of_ticket {a : Action} {ticket : LoadTicket} (h : a.ticket? = some ticket)
    {g : Grid} (hne : ticket.generation ≠ g.generation) (s : σ) : a.perform b g s = (g, s) := by
  cases a with
  | operation o => cases h
  | gesture m => cases h
  | piece p =>
    cases p with
    | progress ticket job =>
      cases h
      exact congrArg (·, s) (recordProgress_of_ne hne job)
    | finishLoad ticket obtained =>
      cases h
      exact congrArg (·.2, s) (finishLoad_of_ne hne obtained)
    | _ => cases h

/-- A whole load is one more load, and of loads that have finished it tells of itself alone. -/
theorem load_spec (g : Grid) (request : LoadRequest) (s : σ) :
    let later := (g.load b request s).grid
    later.generation = g.generation + 1 ∧ ∃ new, later.events = g.events ++ new ∧
      ∀ n ∈ new.filterMap Event.finished?, n = g.generation + 1 := by
  have hcompleted := Receives.completeLoad (g.beginLoad request).2 (g.beginLoad request).1
    (Load.acquire g.config b request s)
  obtain ⟨new, hnew, -⟩ := hcompleted.events
  exact ⟨hcompleted.generation, new, hnew, fun n hn ↦ hcompleted.eq_of_mem_finished hnew hn⟩

/-- An action begins at most one load, and of loads that have finished it tells of the last one
alone. -/
theorem perform_spec (a : Action) (g : Grid) (s : σ) :
    let later := (a.perform b g s).1
    later.generation = g.generation + (if a.beginsLoad then 1 else 0) ∧
      ∃ new, a.taken g ++ later.events = g.events ++ new ∧
        ∀ n ∈ new.filterMap Event.finished?, n = later.generation := by
  intro later
  cases hbegin : a.beginsLoad with
  | false =>
    have hreceives := receives_perform b hbegin g s
    obtain ⟨new, hnew, -⟩ := hreceives.events
    refine ⟨hreceives.generation.trans (UInt64.add_zero _).symm, new, hnew, ?_⟩
    intro n hn
    exact (hreceives.eq_of_mem_finished hnew hn).trans hreceives.generation.symm
  | true =>
    have htaken : a.taken g = [] := by
      refine taken_eq_nil ?_ g
      rintro rfl
      cases hbegin
    obtain ⟨request, hlater | hlater⟩ := perform_of_beginsLoad b hbegin g s
    · dsimp only [later]
      rw [htaken, hlater]
      exact ⟨rfl, [], (List.append_nil _).symm, nofun⟩
    · obtain ⟨hgeneration, new, hnew, hlast⟩ := load_spec b g request s
      dsimp only [later]
      rw [htaken, hlater]
      exact ⟨hgeneration, new, hnew, fun n hn ↦ (hlast n hn).trans hgeneration.symm⟩

/-! ### Runs -/

/-- Actions that begin no load deliver one after the other what they have for the last load. -/
theorem receives_run {actions : List Action} (h : ∀ a ∈ actions, a.beginsLoad = false)
    (x : Grid × σ) : x.1.Receives (run b actions x).1 actions (takenBy b actions x) := by
  induction actions generalizing x with
  | nil => exact .refl x.1
  | cons a rest ih =>
    have hfirst := receives_perform b (h a List.mem_cons_self) x.1 x.2
    exact hfirst.trans (ih (fun a ha ↦ h a (List.mem_cons_of_mem _ ha)) (a.perform b x.1 x.2))

/-- The number of loads that have begun grows by one at most. -/
theorem toNat_generation_perform {a : Action} {g : Grid}
    (h : g.generation.toNat + (if a.beginsLoad then 1 else 0) < UInt64.size) (s : σ) :
    (a.perform b g s).1.generation.toNat =
      g.generation.toNat + if a.beginsLoad then 1 else 0 := by
  rw [(perform_spec b a g s).1]
  cases hbegins : a.beginsLoad with
  | false => exact congrArg UInt64.toNat (UInt64.add_zero g.generation)
  | true =>
    rw [hbegins] at h
    exact Grid.toNat_generation_beginLoad h {}

/-- The number of loads that have begun grows by those that begin in a run, as long as it fits its
word. -/
theorem toNat_generation_run {actions : List Action} {x : Grid × σ}
    (h : x.1.generation.toNat + actions.countP beginsLoad < UInt64.size) :
    (run b actions x).1.generation.toNat =
      x.1.generation.toNat + actions.countP beginsLoad := by
  induction actions generalizing x with
  | nil => rfl
  | cons a rest ih =>
    rw [List.countP_cons] at h ⊢
    have hfirst := toNat_generation_perform b (a := a) (g := x.1) (by omega) x.2
    have hrest := ih (x := a.perform b x.1 x.2) (by omega)
    exact hrest.trans (by omega)

/-- Beyond the number on a ticket are counted the loads that have begun since. -/
theorem toNat_generation_of_begun {actions before between : List Action} {request : LoadRequest}
    (hactions : actions = before ++ piece (.beginLoad request) :: between) {x : Grid × σ}
    (h : x.1.generation.toNat + actions.countP beginsLoad < UInt64.size) :
    (run b actions x).1.generation.toNat =
      ((run b before x).1.beginLoad request).1.generation.toNat + between.countP beginsLoad := by
  subst hactions
  have hall := toNat_generation_run b h
  rw [List.countP_append, List.countP_cons_of_pos rfl] at h hall
  have hbefore : (run b before x).1.generation.toNat =
      x.1.generation.toNat + before.countP beginsLoad := toNat_generation_run b (by omega)
  have hticket := Grid.toNat_generation_beginLoad (g := (run b before x).1) (by omega) request
  omega

/-- What is told in a run comes behind the events that were in the queue. Of loads that have
finished the later ones are told later. -/
theorem told_run {actions : List Action} {x : Grid × σ}
    (h : x.1.generation.toNat + actions.countP beginsLoad < UInt64.size) :
    ∃ new, told b actions x = x.1.events ++ new ∧
      (∀ n ∈ new.filterMap Event.finished?, x.1.generation ≤ n) ∧
      (new.filterMap Event.finished?).Pairwise (· ≤ ·) := by
  induction actions generalizing x with
  | nil => exact ⟨[], (List.append_nil _).symm, nofun, .nil⟩
  | cons a rest ih =>
    rw [List.countP_cons] at h
    have hgeneration := toNat_generation_perform b (a := a) (g := x.1) (by omega) x.2
    have hgrows : x.1.generation ≤ (a.perform b x.1 x.2).1.generation := by
      rw [UInt64.le_iff_toNat_le]
      omega
    obtain ⟨-, new, hnew, hlast⟩ := perform_spec b a x.1 x.2
    obtain ⟨more, hmore, hlater, hsorted⟩ := ih (x := a.perform b x.1 x.2) (by omega)
    refine ⟨new ++ more, ?_, ?_, ?_⟩
    · rw [told_cons, hmore, ← List.append_assoc, hnew, List.append_assoc]
    · intro n hn
      rw [List.filterMap_append, List.mem_append] at hn
      rcases hn with hn | hn
      · rw [hlast n hn]
        exact hgrows
      · exact UInt64.le_trans hgrows (hlater n hn)
    · rw [List.filterMap_append, List.pairwise_append]
      refine ⟨?_, hsorted, ?_⟩
      · -- all of them tell of the one load that is the last by now
        refine List.pairwise_of_forall_mem_list ?_
        intro m hm n hn
        rw [hlast m hm, hlast n hn]
        exact UInt64.le_refl _
      · intro m hm n hn
        rw [hlast m hm]
        exact hlater n hn

end Action

end AssignmentGrid
