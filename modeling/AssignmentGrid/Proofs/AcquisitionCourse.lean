import AssignmentGrid.Proofs.Doubles
import AssignmentGrid.Proofs.JobPath

/-!
# The course of an acquisition

The calls on the way to a snapshot are made in a fixed course. At first the way is chosen. A direct
load then fetches once. A load through a job submits it and polls it until a poll fails, finds the
job ended or is the last one that the wait allows; unless the job has built a snapshot by then, the
load fetches once after all. Specification `SPEC_FULL.md:147–163`.
-/

namespace AssignmentGrid

variable {σ : Type}

/-! ### Statuses -/

namespace JobStatus

/-- The percentage of a status is at most a hundred. -/
theorem percent_le (status : JobStatus) : status.percent ≤ 100 := by
  unfold percent
  split
  · decide
  · split
    · decide
    · next hhundred => exact float_toUInt8_le_hundred hhundred

end JobStatus

/-- Whether the answer to a poll says that the job has built a snapshot: the job has succeeded, and
its result is read as a snapshot with at least one week. -/
def HasBuilt (poll : Answer JobStatus) (snapshot : Snapshot) : Prop :=
  ∃ status result, poll = .ok status ∧ status.state = .success ∧ status.result? = some result ∧
    Snapshot.ofJson result = .ok snapshot ∧ snapshot.weeks ≠ []

/-- What is known of a job after polls that were answered by statuses: the last percentage, and the
last message that there was. -/
def JobProgress.afterPolls (job : String) (seen : List JobStatus) : JobProgress where
  job
  percent := (seen.getLast?.map JobStatus.percent).getD 0
  message? := (seen.filterMap JobStatus.message?).getLast?

namespace Load

/-- What is known after each poll is what the polls so far have told. -/
theorem foldl_heard (job : String) (seen : List JobStatus) :
    seen.foldl heard ⟨job, 0, none⟩ = .afterPolls job seen := by
  induction seen using List.reverseRecOn with
  | nil => rfl
  | append_singleton seen status ih =>
    rw [List.foldl_append, ih]
    cases hmessage : status.message? with
    | none => simp [heard, JobProgress.afterPolls, hmessage]
    | some message => simp [heard, JobProgress.afterPolls, hmessage]

/-- A job is heard of at its beginning and at each poll that is answered. -/
theorem scanl_heard (job : String) (seen : List JobStatus) :
    seen.scanl heard ⟨job, 0, none⟩ = seen.inits.map (.afterPolls job) := by
  have hscan (first : JobProgress) (seen : List JobStatus) :
      seen.scanl heard first = seen.inits.map (List.foldl heard first) := by
    induction seen generalizing first with
    | nil => rfl
    | cons status rest ih =>
      rw [List.scanl_cons, ih, List.inits_cons, List.map_cons, List.map_map]
      rfl
  rw [hscan]
  exact List.map_congr_left fun seen _ ↦ foldl_heard job seen

/-! ### Waiting -/

/-- What a job gives when it is not polled any more, as the answer to the last poll tells. -/
def conclusion (config : LoadConfig) (job : String) : Answer JobStatus → Answer Snapshot
  | .error e => .error e
  | .ok status =>
    match status.state with
    | .success => status.snapshot
    | .failure => .error (.validation (status.error?.getD "job failed"))
    | .pending => .error (tookTooLong config job)

/-- A job gives a snapshot if it has built one. -/
theorem conclusion_eq_ok_iff {config : LoadConfig} {job : String} {last : Answer JobStatus}
    {snapshot : Snapshot} :
    conclusion config job last = .ok snapshot ↔ HasBuilt last snapshot := by
  unfold conclusion HasBuilt
  cases last with
  | error e => simp
  | ok status =>
    dsimp only
    cases hstate : status.state with
    | pending => simp [hstate]
    | failure => simp [hstate]
    | success => simp [JobStatus.snapshot_eq_ok_iff, hstate]

/-- How a job is waited for: polls that find it still running, which are answered by `pending`, and
one more poll, which is answered by `last`. -/
structure Wait (config : LoadConfig) (b : Backend σ) (job : JobProgress) (patience : Nat) (s : σ)
    (waited : Acquired σ (Answer Snapshot)) (pending : List JobStatus)
    (last : Answer JobStatus) : Prop where
  isPolled : ∃ state, b.Polls job.job pending s state ∧
    b.pollJob job.job state = (last, waited.backend)
  isPending : ∀ status ∈ pending, status.state = .pending
  isPatient : pending.length ≤ patience
  /-- The last poll may find the job still running only if the wait allows no other poll. -/
  isOver : ∀ status, last = .ok status → status.state = .pending → pending.length = patience
  result : waited.result = conclusion config job.job last
  heard : .progress job :: waited.steps =
    ((pending ++ last.toOption.toList).scanl Load.heard job).map .progress

namespace Wait

variable {config : LoadConfig} {b : Backend σ} {job : JobProgress} {patience : Nat} {s s' : σ}

/-- The wait ends with the first poll. -/
theorem of_last {last : Answer JobStatus} (hanswer : b.pollJob job.job s = (last, s'))
    (hover : ∀ status, last = .ok status → status.state = .pending → patience = 0) :
    Wait config b job patience s
      ⟨conclusion config job.job last,
        last.toOption.toList.map fun status ↦ .progress (Load.heard job status), s'⟩ [] last where
  isPolled := ⟨s, .nil s, hanswer⟩
  isPending := nofun
  isPatient := Nat.zero_le _
  isOver status hlast hpending := (hover status hlast hpending).symm
  result := rfl
  heard := by
    cases last with
    | error e => rfl
    | ok status => rfl

/-- The wait goes on after a poll that finds the job still running. -/
theorem cons {status : JobStatus} (hanswer : b.pollJob job.job s = (.ok status, s'))
    (hstate : status.state = .pending) {waited : Acquired σ (Answer Snapshot)}
    {pending : List JobStatus} {last : Answer JobStatus}
    (h : Wait config b (Load.heard job status) patience s' waited pending last) :
    Wait config b job (patience + 1) s (waited.after [.progress (Load.heard job status)])
      (status :: pending) last where
  isPolled := by
    obtain ⟨state, hpolls, hlast⟩ := h.isPolled
    exact ⟨state, .cons hanswer hpolls, hlast⟩
  isPending := List.forall_mem_cons.mpr ⟨hstate, h.isPending⟩
  isPatient := Nat.succ_le_succ h.isPatient
  isOver other hother hpending := congrArg (· + 1) (h.isOver other hother hpending)
  result := h.result
  heard := by
    rw [List.cons_append, List.scanl_cons, List.map_cons]
    exact congrArg _ h.heard

end Wait

/-- A job is waited for until a poll fails, finds it ended or is the last one. -/
theorem exists_wait (config : LoadConfig) (b : Backend σ) (job : JobProgress) (patience : Nat)
    (s : σ) : ∃ pending last,
      Wait config b job patience s (await config b job patience s) pending last := by
  -- a poll fails, finds the job in one of two ends, is the last one, or is followed by another
  fun_induction await config b job patience s with
  | case1 patience job s e s' hanswer =>
    exact ⟨[], .error e, .of_last hanswer nofun⟩
  | case2 patience job s status s' hanswer _ hstate =>
    have hconclusion : conclusion config job.job (.ok status) = status.snapshot := by
      simp [conclusion, hstate]
    refine ⟨[], .ok status, hconclusion ▸ .of_last hanswer ?_⟩
    rintro _ ⟨⟩ hpending
    cases hstate.symm.trans hpending
  | case3 patience job s status s' hanswer _ hstate =>
    have hconclusion : conclusion config job.job (.ok status) =
        .error (.validation (status.error?.getD "job failed")) := by
      simp [conclusion, hstate]
    refine ⟨[], .ok status, hconclusion ▸ .of_last hanswer ?_⟩
    rintro _ ⟨⟩ hpending
    cases hstate.symm.trans hpending
  | case4 job s status s' hanswer _ hstate =>
    have hconclusion : conclusion config job.job (.ok status) =
        .error (tookTooLong config job.job) := by
      simp [conclusion, hstate]
    exact ⟨[], .ok status, hconclusion ▸ .of_last hanswer fun _ _ _ ↦ rfl⟩
  | case5 job s status s' hanswer _ patience hstate ih =>
    obtain ⟨pending, last, hwait⟩ := ih
    exact ⟨status :: pending, last, hwait.cons hanswer hstate⟩

/-! ### The choice of a way -/

/-- Whether a load is large: it has many weeks or else, as far as the backend tells, many people. -/
def isLarge (config : LoadConfig) (b : Backend σ) (request : LoadRequest) (s : σ) : Bool :=
  decide (config.weekThreshold < request.weeks) ||
    match (b.countPeople request.scope s).1 with
    | .ok n => decide (config.peopleThreshold < n)
    | .error _ => false

/-- The backend's state when it is known whether a load is large; only a load of few weeks needs to
ask for that. -/
def sized (config : LoadConfig) (b : Backend σ) (request : LoadRequest) (s : σ) : σ :=
  if config.weekThreshold < request.weeks then s else (b.countPeople request.scope s).2

theorem isLarge_iff {config : LoadConfig} {b : Backend σ} {request : LoadRequest} {s : σ} :
    isLarge config b request s = true ↔ config.weekThreshold < request.weeks ∨
      ∃ n, (b.countPeople request.scope s).1 = .ok n ∧ config.peopleThreshold < n := by
  unfold isLarge
  cases (b.countPeople request.scope s).1 with
  | ok n => simp
  | error e => simp

/-- A load goes through a job if it is large and the backend runs jobs; a load that is not large
does not ask for that. -/
theorem choosePath_eq (config : LoadConfig) (b : Backend σ) (request : LoadRequest) (s : σ) :
    let chosen := choosePath config b request s
    let asked := b.runsJobs (sized config b request s)
    chosen.result = (if isLarge config b request s && asked.1 then .job else .direct) ∧
      chosen.backend =
        if isLarge config b request s then asked.2 else sized config b request s := by
  intro chosen asked
  have hsize : (if config.weekThreshold < request.weeks then (⟨true, [], s⟩ : Acquired σ Bool)
      else probe config b request.scope s).result = isLarge config b request s ∧
      (if config.weekThreshold < request.weeks then (⟨true, [], s⟩ : Acquired σ Bool)
      else probe config b request.scope s).backend = sized config b request s := by
    unfold isLarge sized probe
    by_cases hweeks : config.weekThreshold < request.weeks
    · simp [hweeks]
    · rcases hcount : b.countPeople request.scope s with ⟨n | e, s'⟩
      · simp [hweeks]
      · simp [hweeks]
  dsimp only [chosen, asked, choosePath]
  generalize (if config.weekThreshold < request.weeks then (⟨true, [], s⟩ : Acquired σ Bool)
    else probe config b request.scope s) = size at hsize ⊢
  obtain ⟨hresult, hbackend⟩ := hsize
  rw [hresult, hbackend]
  cases isLarge config b request s with
  | true => simp
  | false => simp

section

variable {config : LoadConfig} {b : Backend σ} {request : LoadRequest} {s : σ}

/-- A job that is not begun gives nothing. -/
theorem runJob_of_error {e : BackendError} {s' : σ}
    (h : b.submitJob request.weeks request.scope s = (.error e, s')) :
    runJob config b request s = ⟨.error e, [], s'⟩ := by
  unfold runJob
  rw [h]

/-- A job that is begun is waited for, and heard of from its beginning on. -/
theorem runJob_of_ok {job : String} {s' : σ}
    (h : b.submitJob request.weeks request.scope s = (.ok job, s')) :
    runJob config b request s =
      (await config b ⟨job, 0, none⟩ (b.patience config s') s').after
        [.progress ⟨job, 0, none⟩] := by
  unfold runJob
  rw [h]

/-- A load for which no job is chosen fetches, and hears of no job. -/
theorem acquire_of_ne_job (h : (choosePath config b request s).result ≠ .job) :
    let fetched := fetch b request (choosePath config b request s).backend
    let acquired := acquire config b request s
    acquired.result = fetched.1.map (⟨·, .direct, none⟩) ∧ acquired.progress = [] ∧
      acquired.backend = fetched.2 := by
  apply acquire_of_path_direct
  rw [(choosePath_eq config b request s).1] at h ⊢
  split at h
  · exact absurd rfl h
  · next hsmall => exact if_neg hsmall

end

end Load

/-! ### Calls in the log -/

/-- A call is answered as without the log, and stands at the end of the log then. -/
theorem Logged.call_eq_iff {α : Type} {s s' : Logged σ} {c : Call} {f : σ → α × σ} {answer : α} :
    s.call c f = (answer, s') ↔ f s.state = (answer, s'.state) ∧ s'.calls = s.calls ++ [c] := by
  cases s' with
  | mk state calls =>
    unfold Logged.call
    simp [Prod.ext_iff, and_assoc, eq_comm]

/-- Polls are logged one after the other. -/
theorem Backend.Polls.of_logged {b : Backend σ} {job : String} {statuses : List JobStatus}
    {s s' : Logged σ} (h : b.logged.Polls job statuses s s') :
    b.Polls job statuses s.state s'.state ∧
      s'.calls = s.calls ++ List.replicate statuses.length (.pollJob job) := by
  induction h with
  | nil s => exact ⟨.nil s.state, (List.append_nil _).symm⟩
  | cons hpoll hrest ih =>
    obtain ⟨hanswer, hlogged⟩ := Logged.call_eq_iff.mp hpoll
    refine ⟨.cons hanswer ih.1, ?_⟩
    rw [ih.2, hlogged, List.append_assoc, List.length_cons, List.replicate_succ]
    rfl

/-! ### Acquisitions -/

/-- A snapshot is fetched: the backend is asked once more, in the state `before`, and what it
answers is what the way of `acquired` comes to. -/
structure IsFetched (b : Backend σ) (request : LoadRequest) (path : LoadPath)
    (warning? : Option String) (before : Logged σ)
    (acquired : Acquired (Logged σ) (Except GridError LoadOutcome)) : Prop where
  calls : acquired.backend.calls = before.calls ++ [.fetchSnapshot request.weeks request.scope]
  ok : ∀ snapshot,
    (b.fetchSnapshot request.weeks request.scope before.state).1 = .ok snapshot →
      acquired.result = .ok ⟨snapshot, path, warning?⟩
  error : ∀ e, (b.fetchSnapshot request.weeks request.scope before.state).1 = .error e →
    acquired.result = .error (.snapshotAcquisition e.message)

/-- A load that fetches in the state `before`. -/
theorem IsFetched.of_fetch {b : Backend σ} {request : LoadRequest} {path : LoadPath}
    {warning? : Option String} {before : Logged σ}
    {acquired : Acquired (Logged σ) (Except GridError LoadOutcome)}
    (hresult : acquired.result =
      (Load.fetch b.logged request before).1.map (⟨·, path, warning?⟩))
    (hbackend : acquired.backend = (Load.fetch b.logged request before).2) :
    IsFetched b request path warning? before acquired := by
  have hfetch : Load.fetch b.logged request before =
      ((b.fetchSnapshot request.weeks request.scope before.state).1.mapError
          fun e ↦ .snapshotAcquisition e.message,
        (before.call (.fetchSnapshot request.weeks request.scope)
          (b.fetchSnapshot request.weeks request.scope)).2) := by
    unfold Load.fetch Backend.logged Logged.call
    dsimp only
    cases (b.fetchSnapshot request.weeks request.scope before.state).1 with
    | ok snapshot => rfl
    | error e => rfl
  rw [hfetch] at hresult hbackend
  constructor
  case calls =>
    rw [hbackend]
    rfl
  case ok =>
    intro snapshot hsnapshot
    rw [hresult, hsnapshot]
    rfl
  case error =>
    intro e he
    rw [hresult, he]
    rfl

/-- A load through a job that has been submitted by the state `begun`: polls that are answered by
`pending` find it still running, and one more poll is answered by `last` and leads to the state
`polled`. -/
structure JobCourse (config : LoadConfig) (b : Backend σ) (request : LoadRequest) (job : String)
    (begun : Logged σ) (acquired : Acquired (Logged σ) (Except GridError LoadOutcome))
    (pending : List JobStatus) (last : Answer JobStatus) (polled : Logged σ) : Prop where
  isPolled : ∃ state, b.Polls job pending begun.state state ∧
    b.pollJob job state = (last, polled.state)
  calls : polled.calls = begun.calls ++ List.replicate (pending.length + 1) (.pollJob job)
  isPending : ∀ status ∈ pending, status.state = .pending
  isPatient : pending.length ≤ b.patience config begun.state
  /-- The last poll may find the job still running only if the wait allows no other poll. -/
  isOver : ∀ status, last = .ok status → status.state = .pending →
    pending.length = b.patience config begun.state
  /-- The job is heard of at its beginning and at each poll that is answered. -/
  heard : acquired.progress = (pending ++ last.toOption.toList).inits.map (.afterPolls job)
  percent_le : ∀ progress ∈ acquired.progress, progress.percent ≤ 100
  /-- What the job has built is taken without any other call. -/
  built : ∀ snapshot, HasBuilt last snapshot →
    acquired.result = .ok ⟨snapshot, .job, none⟩ ∧ acquired.backend = polled
  /-- When it has built nothing, the snapshot is fetched. -/
  fellBack : (∀ snapshot, ¬ HasBuilt last snapshot) →
    ∃ cause, IsFetched b request .fallback (some (Load.fallbackWarning cause)) polled acquired

/-- The whole way to a snapshot: `chosen` is what comes of the choice with which it begins, and
`acquired` what it comes to in the end. -/
structure AcquisitionCourse (config : LoadConfig) (b : Backend σ) (request : LoadRequest)
    (s : Logged σ) (chosen : Acquired (Logged σ) LoadPath)
    (acquired : Acquired (Logged σ) (Except GridError LoadOutcome)) : Prop where
  /-- A job is chosen for a large load if the backend runs jobs. -/
  isJob : chosen.result = .job ↔
    (config.weekThreshold < request.weeks ∨
      ∃ n, (b.countPeople request.scope s.state).1 = .ok n ∧ config.peopleThreshold < n) ∧
    (b.runsJobs (Load.sized config b request s.state)).1 = true
  /-- The size is asked for if the weeks are few, and jobs if the load is large. -/
  asked : chosen.backend.calls = s.calls ++
    (if config.weekThreshold < request.weeks then [] else [.countPeople request.scope]) ++
    (if Load.isLarge config b request s.state then [.runsJobs] else [])
  direct : chosen.result ≠ .job →
    acquired.progress = [] ∧ IsFetched b request .direct none chosen.backend acquired
  /-- When no job is begun, the snapshot is fetched. -/
  refused : chosen.result = .job → ∀ e state,
    b.submitJob request.weeks request.scope chosen.backend.state = (.error e, state) →
    acquired.progress = [] ∧
      IsFetched b request .fallback (some (Load.fallbackWarning e))
        ⟨state, chosen.backend.calls ++ [.submitJob request.weeks request.scope]⟩ acquired
  submitted : chosen.result = .job → ∀ job state,
    b.submitJob request.weeks request.scope chosen.backend.state = (.ok job, state) →
    ∃ pending last polled,
      JobCourse config b request job
        ⟨state, chosen.backend.calls ++ [.submitJob request.weeks request.scope]⟩ acquired
        pending last polled

/-- A load whose job is waited for takes what the job has built, or fetches. -/
theorem JobCourse.of_wait {config : LoadConfig} {b : Backend σ} {request : LoadRequest}
    {job : String} {begun : Logged σ}
    {acquired : Acquired (Logged σ) (Except GridError LoadOutcome)}
    {waited : Acquired (Logged σ) (Answer Snapshot)} {pending : List JobStatus}
    {last : Answer JobStatus}
    (h : Load.Wait config b.logged ⟨job, 0, none⟩ (b.patience config begun.state) begun waited
      pending last)
    (hprogress : acquired.progress = (waited.after [.progress ⟨job, 0, none⟩]).progress)
    (hbuilt : ∀ snapshot, waited.result = .ok snapshot →
      acquired.result = .ok ⟨snapshot, .job, none⟩ ∧ acquired.backend = waited.backend)
    (hfailed : ∀ cause, waited.result = .error cause →
      IsFetched b request .fallback (some (Load.fallbackWarning cause)) waited.backend acquired) :
    JobCourse config b request job begun acquired pending last waited.backend := by
  have hheard : acquired.progress =
      (pending ++ last.toOption.toList).inits.map (.afterPolls job) := by
    rw [hprogress, ← Load.scanl_heard]
    unfold Acquired.progress Acquired.after
    dsimp only
    rw [List.singleton_append, h.heard, List.filterMap_map]
    exact List.filterMap_some
  obtain ⟨state, hpolls, hlast⟩ := h.isPolled
  obtain ⟨hanswers, hcalls⟩ := hpolls.of_logged
  obtain ⟨hanswer, hcall⟩ := Logged.call_eq_iff.mp hlast
  constructor
  case isPolled => exact ⟨state.state, hanswers, hanswer⟩
  case calls => rw [hcall, hcalls, List.append_assoc, List.replicate_succ']
  case isPending => exact h.isPending
  case isPatient => exact h.isPatient
  case isOver => exact h.isOver
  case heard => exact hheard
  case percent_le =>
    intro progress hmem
    rw [hheard] at hmem
    obtain ⟨seen, -, rfl⟩ := List.mem_map.mp hmem
    unfold JobProgress.afterPolls
    dsimp only
    cases seen.getLast? with
    | none => decide
    | some status => exact status.percent_le
  case built =>
    intro snapshot hsnapshot
    exact hbuilt snapshot (h.result.trans (Load.conclusion_eq_ok_iff.mpr hsnapshot))
  case fellBack =>
    intro hnone
    cases hresult : waited.result with
    | ok snapshot =>
      exact absurd (Load.conclusion_eq_ok_iff.mp (h.result.symm.trans hresult)) (hnone snapshot)
    | error cause => exact ⟨cause, hfailed cause hresult⟩

/-- Every acquisition takes its course, whatever the backend answers and however long it lets a job
be waited for. -/
theorem acquisition_course (config : LoadConfig) (b : Backend σ) (request : LoadRequest)
    (s : Logged σ) :
    AcquisitionCourse config b request s (Load.choosePath config b.logged request s)
      (Load.acquire config b.logged request s) := by
  obtain ⟨hpath, hchosen⟩ := Load.choosePath_eq config b.logged request s
  have hlarge : Load.isLarge config b.logged request s = Load.isLarge config b request s.state :=
    rfl
  have hsized : Load.sized config b.logged request s =
      ⟨Load.sized config b request s.state,
        s.calls ++ if config.weekThreshold < request.weeks then [] else
          [.countPeople request.scope]⟩ := by
    unfold Load.sized
    split
    · rw [List.append_nil]
    · rfl
  have hlogged {answer : Answer String} {state : σ}
      (hsubmit : b.submitJob request.weeks request.scope
        (Load.choosePath config b.logged request s).backend.state = (answer, state)) :
      b.logged.submitJob request.weeks request.scope
        (Load.choosePath config b.logged request s).backend = (answer, ⟨state,
          (Load.choosePath config b.logged request s).backend.calls ++
            [.submitJob request.weeks request.scope]⟩) :=
    Logged.call_eq_iff.mpr ⟨hsubmit, rfl⟩
  constructor
  case isJob =>
    rw [hpath, ← Load.isLarge_iff, hlarge, hsized]
    change (if (_ && (b.runsJobs (Load.sized config b request s.state)).1) = true then _ else _) =
      LoadPath.job ↔ _
    rw [← Bool.and_eq_true]
    split
    · next h => simp [h]
    · next h => simp [h]
  case asked =>
    rw [hchosen, hlarge, hsized]
    split
    · rfl
    · exact (List.append_nil _).symm
  case direct =>
    intro hjob
    obtain ⟨hresult, hprogress, hbackend⟩ := Load.acquire_of_ne_job hjob
    exact ⟨hprogress, .of_fetch hresult hbackend⟩
  case refused =>
    intro hjob e state hsubmit
    obtain ⟨hprogress, -, hfailed⟩ :=
      Load.acquire_of_job hjob (Load.runJob_of_error (hlogged hsubmit))
    obtain ⟨hresult, hbackend⟩ := hfailed e rfl
    exact ⟨hprogress, .of_fetch hresult hbackend⟩
  case submitted =>
    intro hjob job state hsubmit
    obtain ⟨hprogress, hbuilt, hfailed⟩ :=
      Load.acquire_of_job hjob (Load.runJob_of_ok (hlogged hsubmit))
    obtain ⟨pending, last, hwait⟩ := Load.exists_wait config b.logged ⟨job, 0, none⟩
      (b.patience config state) ⟨state, _⟩
    refine ⟨pending, last, _, .of_wait hwait hprogress hbuilt ?_⟩
    intro cause hcause
    obtain ⟨hresult, hbackend⟩ := hfailed cause hcause
    exact .of_fetch hresult hbackend

end AssignmentGrid
