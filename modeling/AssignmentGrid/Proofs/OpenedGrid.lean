import AssignmentGrid.Proofs.AddressHost
import AssignmentGrid.Proofs.LoadRun
import AssignmentGrid.Proofs.WriteCommands

/-!
# Opened grids

A command that deals with the grid connects with the stored token and loads before it does anything
else. Once this has succeeded, requests can be sent to the server, and the cap of a cell is that of
the settings. Having a row in the grid after that changes neither the weeks nor the cap.
-/

namespace AssignmentGrid

/-- Fetching the rows of a person changes rows, totals and events, and what refers to rows. -/
theorem Grid.expand_grid (g : Grid) {σ : Type} (b : Backend σ) (p : PersonId) (s : σ) :
    (g.expand b p s).grid =
      { g with
        sheet := (g.expand b p s).grid.sheet
        selection := (g.expand b p s).grid.selection
        edit? := (g.expand b p s).grid.edit?
        events := (g.expand b p s).grid.events } := by
  unfold Grid.expand Grid.refresh
  split
  · rfl
  · split
    · rfl
    · dsimp only
      split
      · rfl
      · rfl

namespace Cli

open Http (Client Connection Transport)

variable {τ : Type} {c : Context τ} {s s' : Session τ}

/-! ### Connecting and loading -/

/-- The client for the stored token, or why there is none. -/
def storedClient (c : Context τ) (auth? : Option StoredFile) : Except Failure Client :=
  match auth?.bind fun file ↦ Credentials.ofText? file.text.toList with
  | none => .error (.ofBackend .notAuthenticated)
  | some stored => .ok (.ofCredentials { stored with apiBase := c.apiBase?.getD stored.apiBase })

/-- Connecting depends on the stored token only, and sends nothing. -/
theorem outcome_connect (c : Context τ) (s : Session τ) :
    (connect : Run τ Client).outcome c s = (storedClient c s.auth?, s) := by
  unfold connect storedClient
  rw [Run.outcome_bind_of_ok Run.outcome_get]
  cases s.auth?.bind fun file ↦ Credentials.ofText? file.text.toList with
  | none => rfl
  | some stored =>
    dsimp only
    rw [Run.outcome_bind_of_ok Run.outcome_read]
    cases c.apiBase? with
    | none => rfl
    | some base => rfl

/-- A failure of the grid is the failure of the command. -/
theorem outcome_discard_orFail {α : Type} (result : Except GridError α) :
    (discard (Run.orFail result) : Run τ Unit).outcome c s =
      ((result.map fun _ ↦ ()).mapError Failure.ofGrid, s) := by
  cases result with
  | ok a => rfl
  | error e => rfl

/-- The grid into which a command loads. -/
def emptyGrid (settings : Settings) : Grid :=
  { config := settings.loadConfig, hoursCap := settings.effectiveCap }

/-- A command loads as any load does, and tells of it. -/
theorem outcome_loadGrid (b : Backend (Connection τ)) {limits : LoadLimits} {request : LoadRequest}
    (hrequest : loadRequest c.settings limits = .ok request) :
    let reply := (emptyGrid c.settings).load b request s.connection
    ∃ out err, (loadGrid b limits).outcome c s =
      (reply.result.mapError Failure.ofGrid,
        { s with grid := reply.grid.drain.2, connection := reply.backend, out, err }) := by
  intro reply
  unfold loadGrid
  rw [Run.outcome_bind_of_ok Run.outcome_read]
  dsimp only
  rw [Run.outcome_bind_of_ok (Run.outcome_liftM_of_ok hrequest),
    Run.outcome_bind_of_ok Run.outcome_get]
  obtain ⟨out, err, htold⟩ := Run.Prints.forM (fun step ↦ prints_tellStep _ _ step) c s
  rw [Run.outcome_bind_of_ok htold]
  split
  case' isFalse =>
    obtain ⟨out, err, hended⟩ := Run.Prints.tell ("" ++ "\n") c _
    rw [Run.outcome_bind_of_ok (show (Run.tellLine "").outcome c _ = _ from hended)]
  -- whether a line was ended or not, the load is finished in the same way
  all_goals
    rw [Run.outcome_bind_of_ok (Run.outcome_call _), Run.outcome_bind_of_ok Run.outcome_grid]
    obtain ⟨out, err, hloaded⟩ := prints_tellLoaded _ _ c _
    rw [Run.outcome_bind_of_ok hloaded]
    obtain ⟨out, err, hshown⟩ := Run.outcome_showEvents c _
    rw [Run.outcome_bind_of_ok hshown]
    exact ⟨_, _, outcome_discard_orFail _⟩

/-! ### Opening the grid -/

/-- What has led a command to its grid: the client for the stored token has loaded it, which has led
from one session to another. -/
structure Opens (limits : LoadLimits) (c : Context τ) (s : Session τ) (client : Client)
    (opened : Session τ) : Prop where
  connected : (connect : Run τ Client).outcome c s = (.ok client, s)
  loaded : (loadGrid (client.backend c.transport) limits).outcome c s = (.ok (), opened)

section

variable {limits : LoadLimits} {next : Backend (Connection τ) → Run τ Unit} {client : Client}
  {opened : Session τ}

/-- A command goes on with the opened grid. -/
theorem Opens.outcome_onGrid (h : Opens limits c s client opened) :
    (onGrid limits next).outcome c s = (next (client.backend c.transport)).outcome c opened := by
  unfold onGrid
  rw [Run.outcome_bind_of_ok h.connected, Run.outcome_bind_of_ok Run.outcome_read]
  exact Run.outcome_bind_of_ok h.loaded _

/-- A command that succeeds has opened the grid. -/
theorem exists_opens (h : (onGrid limits next).outcome c s = (.ok (), s')) :
    ∃ client opened, Opens limits c s client opened ∧
      (next (client.backend c.transport)).outcome c opened = (.ok (), s') := by
  unfold onGrid at h
  obtain ⟨client, s₁, hconnect, hafter⟩ := Run.outcome_bind_eq_ok_iff.mp h
  obtain rfl : s₁ = s := congrArg Prod.snd (hconnect.symm.trans (outcome_connect c s))
  rw [Run.outcome_bind_of_ok Run.outcome_read] at hafter
  obtain ⟨_, opened, hload, hnext⟩ := Run.outcome_bind_eq_ok_iff.mp hafter
  exact ⟨client, opened, ⟨hconnect, hload⟩, hnext⟩

namespace Opens

variable (h : Opens limits c s client opened)
include h

/-- A snapshot was obtained and is shown. -/
theorem exists_outcome : ∃ request outcome events,
    (Load.acquire c.settings.loadConfig (client.backend c.transport) request
      s.connection).result = .ok outcome ∧
    opened.grid = (emptyGrid c.settings).showing request outcome.snapshot events := by
  have hloaded := h.loaded
  cases hrequest : loadRequest c.settings limits with
  | error f =>
    unfold loadGrid at hloaded
    rw [Run.outcome_bind_of_ok Run.outcome_read] at hloaded
    dsimp only at hloaded
    rw [Run.outcome_bind, Run.outcome_liftM, hrequest] at hloaded
    cases hloaded
  | ok request =>
    obtain ⟨out, err, hended⟩ :=
      outcome_loadGrid (c := c) (s := s) (client.backend c.transport) hrequest
    rw [hended] at hloaded
    cases hresult : (Load.acquire (emptyGrid c.settings).config (client.backend c.transport)
        request s.connection).result with
    | ok outcome =>
      rw [Grid.load_of_ok hresult] at hloaded
      exact ⟨request, outcome, [], hresult, (congrArg (·.2.grid) hloaded).symm⟩
    | error e =>
      rw [Grid.load_of_error hresult] at hloaded
      cases hloaded

theorem hoursCap_eq : opened.grid.hoursCap = c.settings.effectiveCap := by
  obtain ⟨request, outcome, events, -, hgrid⟩ := h.exists_outcome
  rw [hgrid]
  rfl

/-- Requests can be sent to a server from which a snapshot was obtained. -/
theorem exists_request {ask : Http.Ask} (hask : Http.IsApiPath ask.path) :
    ∃ r, client.request ask = .ok r := by
  obtain ⟨request, outcome, events, hobtained, -⟩ := h.exists_outcome
  by_contra hnone
  -- otherwise nothing could be sent, not even what has led to the snapshot
  have hunsent : ∀ other, Http.IsApiPath other.path → ∃ e, client.request other = .error e := by
    intro other hother
    cases hsent : client.request other with
    | ok r => exact absurd (Client.exists_request hother hask hsent) hnone
    | error e => exact ⟨e, rfl⟩
  exact ((client.supplies_nothing c.transport hunsent).acquire _ request trivial).2 outcome
    hobtained

end Opens

end

/-! ### Having a row -/

/-- A row that was looked for with success is held, and neither the weeks nor the cap have
changed. -/
theorem ensureRow_eq_ok {b : Backend (Connection τ)} {row : RowKey}
    (h : (ensureRow b row).outcome c s = (.ok (), s')) :
    (∃ a, s'.grid.roster.find? row = some a) ∧ s'.grid.axis = s.grid.axis ∧
      s'.grid.hoursCap = s.grid.hoursCap := by
  have hsome {x : Option Assignment} (hx : ¬ x.isNone = true) : ∃ a, x = some a :=
    Option.ne_none_iff_exists'.mp fun hnone ↦ hx (Option.isNone_iff_eq_none.mpr hnone)
  unfold ensureRow at h
  rw [Run.outcome_bind_of_ok Run.outcome_grid] at h
  split at h
  · obtain ⟨_, s₁, hfetched, h⟩ := Run.outcome_bind_eq_ok_iff.mp h
    rw [Run.discard_eq] at hfetched
    obtain ⟨_, _, hfetched, hunit⟩ := Run.outcome_bind_eq_ok_iff.mp hfetched
    cases hunit
    obtain ⟨out, err, hperformed⟩ :=
      Run.outcome_perform (fun g s ↦ g.expand b row.person s) c s
    have hs₁ : s₁.grid = (s.grid.expand b row.person s.connection).grid.drain.2 :=
      congrArg (·.2.grid) (hfetched.symm.trans hperformed)
    rw [Run.outcome_bind_of_ok Run.outcome_grid] at h
    split at h
    · cases h
    · next hheld =>
      cases h
      have hexpanded := s.grid.expand_grid b row.person s.connection
      refine ⟨hsome hheld, ?_, ?_⟩
      · rw [hs₁]
        exact congrArg (·.axis) hexpanded
      · rw [hs₁]
        exact congrArg (·.hoursCap) hexpanded
  · next hheld =>
    cases h
    exact ⟨hsome hheld, rfl, rfl⟩

end Cli

end AssignmentGrid
