import AssignmentGrid.Load.Acquisition

/-!
# What a load obtains

A load asks the backend only for numbers of people, for jobs and for snapshots. What these calls
keep true of the backend's state is true at the end of every way to a snapshot, and what is true of
every snapshot that they give is true of the one that is obtained.
-/

namespace AssignmentGrid

/-- A backend whose calls on the way to a snapshot keep to a set of states, and which gives only
snapshots with a property there. -/
structure Backend.Supplies {σ : Type} (b : Backend σ) (I : σ → Prop) (P : Snapshot → Prop) :
    Prop where
  fetchSnapshot : ∀ weeks scope s, I s → I (b.fetchSnapshot weeks scope s).2 ∧
    ∀ snapshot, (b.fetchSnapshot weeks scope s).1 = .ok snapshot → P snapshot
  submitJob : ∀ weeks scope s, I s → I (b.submitJob weeks scope s).2
  /-- The result of a job is a snapshot only after the job has succeeded. -/
  pollJob : ∀ job s, I s → I (b.pollJob job s).2 ∧
    ∀ status snapshot, (b.pollJob job s).1 = .ok status → status.state = .success →
      status.snapshot = .ok snapshot → P snapshot
  countPeople : ∀ scope s, I s → I (b.countPeople scope s).2
  runsJobs : ∀ s, I s → I (b.runsJobs s).2

namespace Backend.Supplies

variable {σ : Type} {b : Backend σ} {I : σ → Prop} {P : Snapshot → Prop} {s : σ}

theorem await (hb : b.Supplies I P) (config : LoadConfig) (job : JobProgress) (patience : Nat)
    (h : I s) :
    I (Load.await config b job patience s).backend ∧
      ∀ snapshot, (Load.await config b job patience s).result = .ok snapshot → P snapshot := by
  fun_induction Load.await config b job patience s with
  | case1 _ job s e s' hanswer =>
    have hpoll := hb.pollJob job.job s h
    rw [hanswer] at hpoll
    exact ⟨hpoll.1, nofun⟩
  | case2 _ job s status s' hanswer _ hstate =>
    have hpoll := hb.pollJob job.job s h
    rw [hanswer] at hpoll
    exact ⟨hpoll.1, fun snapshot hsnapshot ↦ hpoll.2 status snapshot rfl hstate hsnapshot⟩
  | case3 _ job s status s' hanswer _ _ =>
    have hpoll := hb.pollJob job.job s h
    rw [hanswer] at hpoll
    exact ⟨hpoll.1, nofun⟩
  | case4 job s status s' hanswer _ _ =>
    have hpoll := hb.pollJob job.job s h
    rw [hanswer] at hpoll
    exact ⟨hpoll.1, nofun⟩
  | case5 job s status s' hanswer _ patience _ ih =>
    have hpoll := hb.pollJob job.job s h
    rw [hanswer] at hpoll
    exact ih hpoll.1

theorem runJob (hb : b.Supplies I P) (config : LoadConfig) (request : LoadRequest) (h : I s) :
    I (Load.runJob config b request s).backend ∧
      ∀ snapshot, (Load.runJob config b request s).result = .ok snapshot → P snapshot := by
  have hsubmit := hb.submitJob request.weeks request.scope s h
  unfold Load.runJob
  split
  · next e s' hanswer =>
    rw [hanswer] at hsubmit
    exact ⟨hsubmit, nofun⟩
  · next name s' hanswer =>
    rw [hanswer] at hsubmit
    exact hb.await config ⟨name, 0, none⟩ (b.patience config s') hsubmit

theorem fetch (hb : b.Supplies I P) (request : LoadRequest) (h : I s) :
    I (Load.fetch b request s).2 ∧
      ∀ snapshot, (Load.fetch b request s).1 = .ok snapshot → P snapshot := by
  have hfetch := hb.fetchSnapshot request.weeks request.scope s h
  unfold Load.fetch
  split
  · next snapshot s' hanswer =>
    rw [hanswer] at hfetch
    refine ⟨hfetch.1, ?_⟩
    rintro other hother
    cases hother
    exact hfetch.2 snapshot rfl
  · next e s' hanswer =>
    rw [hanswer] at hfetch
    exact ⟨hfetch.1, nofun⟩

theorem probe (hb : b.Supplies I P) (config : LoadConfig) (scope : Scope) (h : I s) :
    I (Load.probe config b scope s).backend := by
  have hcount := hb.countPeople scope s h
  unfold Load.probe
  split
  · next n s' hanswer =>
    rw [hanswer] at hcount
    exact hcount
  · next e s' hanswer =>
    rw [hanswer] at hcount
    exact hcount

theorem choosePath (hb : b.Supplies I P) (config : LoadConfig) (request : LoadRequest)
    (h : I s) : I (Load.choosePath config b request s).backend := by
  have hsize : I (if config.weekThreshold < request.weeks then
      (⟨true, [], s⟩ : Acquired σ Bool) else Load.probe config b request.scope s).backend := by
    split
    · exact h
    · exact hb.probe config request.scope h
  unfold Load.choosePath
  dsimp only
  generalize (if config.weekThreshold < request.weeks then
    (⟨true, [], s⟩ : Acquired σ Bool) else Load.probe config b request.scope s) = size at hsize ⊢
  split
  · exact hb.runsJobs size.backend hsize
  · exact hsize

/-- The states are kept to until a snapshot is obtained, and that has the property. -/
theorem acquire (hb : b.Supplies I P) (config : LoadConfig) (request : LoadRequest) (h : I s) :
    I (Load.acquire config b request s).backend ∧
      ∀ outcome, (Load.acquire config b request s).result = .ok outcome → P outcome.snapshot := by
  have hof {fetched : Except GridError Snapshot} {path : LoadPath} {warning? : Option String}
      (hfetched : ∀ snapshot, fetched = .ok snapshot → P snapshot) (outcome : LoadOutcome)
      (houtcome : (fetched.map fun snapshot ↦ ⟨snapshot, path, warning?⟩) = .ok outcome) :
      P outcome.snapshot := by
    cases fetched with
    | ok snapshot =>
      cases houtcome
      exact hfetched snapshot rfl
    | error e => cases houtcome
  have hchosen := hb.choosePath config request h
  have hjob := hb.runJob config request hchosen
  unfold Load.acquire
  dsimp only
  split
  · split
    · next snapshot hresult =>
      refine ⟨hjob.1, ?_⟩
      rintro outcome houtcome
      cases houtcome
      exact hjob.2 snapshot hresult
    · have hfallback := hb.fetch request hjob.1
      exact ⟨hfallback.1, hof hfallback.2⟩
  · have hdirect := hb.fetch request hchosen
    exact ⟨hdirect.1, hof hdirect.2⟩

end Backend.Supplies

end AssignmentGrid
