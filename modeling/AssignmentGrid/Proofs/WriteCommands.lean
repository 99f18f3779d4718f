import AssignmentGrid.Http.Server
import AssignmentGrid.Proofs.CommitEnd
import AssignmentGrid.Proofs.WriteAttempts

/-!
# Commands that write

Four commands change assignments. Each of them first looks up what it is about: it loads the grid,
reads weeks, fetches rows and finds the row or the person. Up to there it writes no data. Then it
makes a single attempt to write, and it ends with the code of success if the attempt has succeeded.
Specification `SPEC_FULL.md:315–321`.
-/

namespace AssignmentGrid.Cli

open Http (Attempt Client Connection IsAccepted Recorded Request Response Transport)

variable {τ : Type}

/-! ### What the grid asks the backend for -/

section

variable (g : Grid) (client : Client) (t : Transport τ) {s : Connection (Recorded τ)}

theorem written_expand (p : PersonId) :
    (g.expand (client.backend t.recorded) p s).backend.written = s.written := by
  have hfetched : ((client.backend t.recorded).fetchRows p s).2.written = s.written :=
    client.written_fetchRows t p
  unfold Grid.expand Grid.refresh
  split
  · rfl
  · split
    · rfl
    · dsimp only
      split
      · next rows s' hanswer =>
        rw [hanswer] at hfetched
        exact hfetched
      · next e s' hanswer =>
        rw [hanswer] at hfetched
        exact hfetched

theorem attempt_assign (p : PersonId) (project : ProjectId) (hs : s.written = []) :
    let reply := g.assign (client.backend t.recorded) p project s
    Attempt (fun ask ↦ ask.method = .post ∧ ask.path = "/api/assignments/")
      (∃ id, reply.result = .ok id) reply.backend.written := by
  have hcreated := client.attempt_createRow t p project hs
  dsimp only at hcreated ⊢
  unfold Grid.assign
  split
  · rw [hs]
    exact .unsent nofun
  · split
    · next row s' hanswer =>
      rw [hanswer] at hcreated
      exact hcreated.of_iff (iff_of_true ⟨row.id, rfl⟩ ⟨row, rfl⟩)
    · next e s' hanswer =>
      rw [hanswer] at hcreated
      exact hcreated.of_iff (iff_of_false nofun nofun)

theorem attempt_unassign (id : AssignmentId) (hs : s.written = []) :
    let reply := g.unassign (client.backend t.recorded) id s
    Attempt (fun ask ↦ ask.method = .delete ∧ ask.path = Http.rowPath id)
      (∃ a, reply.result = .ok a) reply.backend.written := by
  have hdeleted := client.attempt_deleteRow t id hs
  dsimp only at hdeleted ⊢
  unfold Grid.unassign
  split
  · rw [hs]
    exact .unsent nofun
  · split
    · next a s' hanswer =>
      rw [hanswer] at hdeleted
      exact hdeleted.of_iff (iff_of_true ⟨(), rfl⟩ ⟨a, rfl⟩)
    · next e s' hanswer =>
      rw [hanswer] at hdeleted
      exact hdeleted.of_iff (iff_of_false nofun nofun)

end

/-! ### Looking things up -/

theorem loadRequest_code {settings : Settings} {limits : LoadLimits} {f : Failure}
    (h : loadRequest settings limits = .error f) : f.code ≠ ExitCode.success := by
  unfold loadRequest at h
  dsimp only at h
  split at h
  · cases h
    exact ExitCode.usage_ne_success
  · cases h

theorem readWeek_code {axis : WeekAxis} {raw : String} {f : Failure}
    (h : readWeek axis raw = .error f) : f.code ≠ ExitCode.success := by
  unfold readWeek at h
  split at h
  · cases h
    exact ExitCode.usage_ne_success
  · dsimp only at h
    split at h
    · cases h
    · cases h
      exact ExitCode.usage_ne_success

section

variable {c : Context (Recorded τ)} {s : Session (Recorded τ)}

theorem silent_connect : (connect : Run (Recorded τ) Client).Silent c := by
  unfold connect
  refine .bind .get fun s ↦ ?_
  split
  · exact .throw (Failure.ofBackend_ne_success _)
  · refine .bind .read fun context ↦ ?_
    split
    · exact .pure _
    · exact .pure _

theorem prints_tellStep (weeks : UInt32) (refusal? : Option BackendError) (step : LoadStep) :
    (tellStep weeks refusal? step : Run τ Unit).Prints := by
  cases step with
  | probeFailed e => exact .log _ _
  | askedForJobs =>
    cases refusal? with
    | none => exact .pure
    | some e => exact .log _ _
  | chose path => exact .log _ _
  | progress job => exact .tell _
  | jobFailed e => exact .log _ _

theorem prints_tellLoaded (g : Grid) (result : Except GridError LoadOutcome) :
    (tellLoaded g result : Run τ Unit).Prints := by
  cases result with
  | ok outcome => exact .log _ _
  | error e => exact .log _ _

theorem prints_tellReport (r : WriteReport) : (tellReport r : Run τ Unit).Prints :=
  .bind (.forM fun _ ↦ .log _ _) (.forM fun _ ↦ .log _ _)

variable (client : Client) (t : Transport τ)

theorem silent_loadGrid (limits : LoadLimits) :
    (loadGrid (client.backend t.recorded) limits).Silent c := by
  unfold loadGrid
  refine .bind .read fun context ↦ .bind (.liftM fun _ ↦ loadRequest_code) fun request ↦ ?_
  intro s hs
  refine .next Run.outcome_get ?_
  have hacquired :=
    ((client.supplies_written t []).acquire context.settings.loadConfig request hs).1
  refine Run.Silent.bind (.forM fun step ↦ .of_prints (prints_tellStep _ _ step)) (fun _ ↦ ?_) s hs
  dsimp only
  split
  case' isFalse => refine .bind (.of_prints (.tell _)) fun _ ↦ ?_
  -- whether a line was ended or not, the load is finished in the same way
  all_goals
    refine .bind (.call fun _ _ _ ↦ hacquired) fun loaded ↦ .bind .grid fun g ↦ ?_
    refine .bind (.of_prints (prints_tellLoaded g _)) fun _ ↦ ?_
    exact .bind .showEvents fun _ ↦ .discard (.orFail loaded)

theorem silent_expand (p : PersonId) :
    (Run.perform fun g s ↦ g.expand (client.backend t.recorded) p s).Silent c :=
  .perform fun g _ hs ↦ (written_expand g client t p).trans hs

theorem silent_expandCollapsed : (expandCollapsed (client.backend t.recorded)).Silent c := by
  unfold expandCollapsed
  exact .bind .grid fun g ↦ .forM fun p ↦ .discard (silent_expand client t p.id)

/-- After a row was found it is held. -/
theorem ensureRow_ends (row : RowKey) (hs : s.connection.written = []) :
    (ensureRow (client.backend t.recorded) row).Ends c s
      (fun _ s ↦ s.connection.written = [] ∧ (s.grid.roster.find? row).isSome)
      fun s ↦ s.connection.written = [] := by
  unfold ensureRow
  refine .next Run.outcome_grid ?_
  split
  · refine (Run.Silent.discard (silent_expand client t row.person) s hs).bind fun _ s' hs' ↦ ?_
    refine .next Run.outcome_grid ?_
    split
    · exact .of_error rfl (Failure.ofGrid_ne_success _) hs'
    · next hheld => exact .of_ok rfl ⟨hs', by simpa [Option.isSome_iff_ne_none] using hheld⟩
  · next hheld => exact .of_ok rfl ⟨hs, by simpa [Option.isSome_iff_ne_none] using hheld⟩

/-- Hours are typed into the cells that are selected from an anchor on, whose row is held: the row
is sent by itself, and the answer decides how the part ends. -/
theorem outcome_typeHours (b : Backend (Connection τ)) {s : Session τ} {anchor : Cell}
    (hcoherent : s.grid.IsCoherent) (hanchor : s.grid.selection.anchor? = some anchor)
    {a : Assignment} (ha : s.grid.roster.find? anchor.row = some a) (hours : String)
    (c : Context τ) :
    let written := a.hours.fill (s.grid.selection.cells.map Cell.week)
      (Hours.clamp s.grid.hoursCap (Hours.ofTyped s.grid.hoursCap hours))
    let answer := b.updateHours anchor.row.assignment written s.connection
    ∃ grid out err, (typeHours b hours).outcome c s =
      (checkReport (some (.ofAnswer anchor.row answer.1)),
        { s with grid, connection := answer.2, out, err }) := by
  intro written answer
  obtain ⟨hresult, hbackend⟩ := hcoherent.commit_typed hanchor ha hours b s.connection
  unfold typeHours
  rw [Run.outcome_bind_of_ok (Run.outcome_modifyGrid _),
    Run.outcome_bind_of_ok (Run.outcome_call _)]
  dsimp only
  rw [hresult, hbackend]
  obtain ⟨out, err, htold⟩ := prints_tellReport (.ofAnswer anchor.row answer.1) c _
  rw [Run.outcome_bind_of_ok htold]
  obtain ⟨out', err', hshown⟩ := Run.outcome_showEvents c _
  rw [Run.outcome_bind_of_ok hshown]
  exact ⟨_, _, _, Run.outcome_liftM _⟩

theorem typeHours_attempts (anchor : Cell) (hours : String) (hcoherent : s.grid.IsCoherent)
    (hanchor : s.grid.selection.anchor? = some anchor)
    (hheld : (s.grid.roster.find? anchor.row).isSome) (hs : s.connection.written = []) :
    (typeHours (client.backend t.recorded) hours).Attempts c s fun ask ↦
      ask.method = .patch ∧ ask.path = Http.rowPath anchor.row.assignment := by
  obtain ⟨a, ha⟩ := Option.isSome_iff_exists.mp hheld
  obtain ⟨grid, out, err, htyped⟩ :=
    outcome_typeHours (client.backend t.recorded) hcoherent hanchor ha hours c
  have hupdated := client.attempt_updateHours t anchor.row.assignment
    (a.hours.fill (s.grid.selection.cells.map Cell.week)
      (Hours.clamp s.grid.hoursCap (Hours.ofTyped s.grid.hoursCap hours))) hs
  generalize (client.backend t.recorded).updateHours anchor.row.assignment
    (a.hours.fill (s.grid.selection.cells.map Cell.week)
      (Hours.clamp s.grid.hoursCap (Hours.ofTyped s.grid.hoursCap hours))) s.connection = answer
    at htyped hupdated
  obtain ⟨answer, after⟩ := answer
  cases answer with
  | ok stored => exact .of_ok htyped (hupdated.of_iff (iff_of_true trivial ⟨stored, rfl⟩))
  | error e =>
    exact .of_error htyped ExitCode.rowsFailed_ne_success
      (hupdated.of_iff (iff_of_false id nofun))

/-! ### Attempts of the commands -/

theorem setHours_attempts (row : RowKey) (week hours : String) (hs : s.connection.written = []) :
    (setHours (client.backend t.recorded) row week hours).Attempts c s fun ask ↦
      ask.method = .patch ∧ ask.path = Http.rowPath row.assignment := by
  unfold setHours
  refine Run.Ends.next Run.outcome_grid ?_
  refine Run.Attempts.after (Run.Silent.liftM (fun _ ↦ readWeek_code) s hs) fun week s' hs' ↦ ?_
  refine Run.Attempts.after (ensureRow_ends client t row hs') fun _ s' hrow ↦ ?_
  refine Run.Ends.next (Run.outcome_modifyGrid _) ?_
  refine Run.Attempts.before_prints ?_ fun _ ↦ .of_grid fun g ↦ .tell _
  exact typeHours_attempts client t ⟨row, week⟩ hours (.pick _ _) rfl hrow.2 hrow.1

theorem fillHours_attempts (row : RowKey) (first last hours : String)
    (hs : s.connection.written = []) :
    (fillHours (client.backend t.recorded) row first last hours).Attempts c s fun ask ↦
      ask.method = .patch ∧ ask.path = Http.rowPath row.assignment := by
  unfold fillHours
  refine Run.Ends.next Run.outcome_grid ?_
  refine Run.Attempts.after (Run.Silent.liftM (fun _ ↦ readWeek_code) s hs) fun first s' hs' ↦ ?_
  refine Run.Attempts.after (Run.Silent.liftM (fun _ ↦ readWeek_code) s' hs') fun last s' hs' ↦ ?_
  refine Run.Attempts.after (ensureRow_ends client t row hs') fun _ s' hrow ↦ ?_
  refine Run.Ends.next (Run.outcome_modifyGrid _) (Run.Ends.next Run.outcome_grid ?_)
  refine Run.Attempts.before_prints ?_ fun _ ↦ .of_grid fun g ↦ .tell _
  obtain ⟨hcoherent, hanchor⟩ :=
    Selection.Coherent.dragged s'.grid.selection s'.grid.axis ⟨row, first⟩ ⟨row, last⟩
  exact typeHours_attempts client t ⟨row, first⟩ hours hcoherent hanchor hrow.2 hrow.1

theorem assign_attempts (person : PersonId) (project : ProjectId)
    (hs : s.connection.written = []) :
    (assign (client.backend t.recorded) person project).Attempts c s fun ask ↦
      ask.method = .post ∧ ask.path = "/api/assignments/" :=
  (Run.Attempts.perform (attempt_assign s.grid client t person project hs)).before_prints
    fun _ ↦ .printLine _

theorem unassign_attempts (id : AssignmentId) (hs : s.connection.written = []) :
    (unassign (client.backend t.recorded) id).Attempts c s fun ask ↦
      ask.method = .delete ∧ ask.path = Http.rowPath id := by
  unfold unassign
  refine Run.Ends.next Run.outcome_grid ?_
  dsimp only
  split
  case' isTrue =>
    refine Run.Attempts.after (silent_expandCollapsed client t s hs) fun _ s hs ↦ ?_
  -- whether rows were fetched or not, the assignment is looked for now
  all_goals
    refine Run.Ends.next Run.outcome_grid ?_
    split
    case' isTrue => refine Run.Attempts.after (Run.Silent.of_prints (.log _ _) s hs) fun _ s hs ↦ ?_
    all_goals
      refine Run.Attempts.before_prints ?_ fun _ ↦ .tell _
      exact .perform (attempt_unassign s.grid client t id hs)

theorem onGrid_attempts {asks : Http.Ask → Prop} (limits : LoadLimits)
    {next : Backend (Connection (Recorded τ)) → Run (Recorded τ) Unit}
    (hc : c.transport = t.recorded)
    (hnext : ∀ (client : Client) (s : Session (Recorded τ)), s.connection.written = [] →
      (next (client.backend t.recorded)).Attempts c s asks) (hs : s.connection.written = []) :
    (onGrid limits next).Attempts c s asks := by
  unfold onGrid
  refine Run.Attempts.after (silent_connect s hs) fun client s' hs' ↦ ?_
  refine Run.Ends.next Run.outcome_read ?_
  dsimp only
  rw [hc]
  exact Run.Attempts.after (silent_loadGrid client t limits s' hs') fun _ s' ↦ hnext client s'

end

/-! ### What a command has to find -/

/-- Whether a command is meant to change assignments. -/
def Command.writes : Command → Bool
  | .setHours .. | .fillHours .. | .assign .. | .unassign .. => true
  | .login _ | .logout | .view .. | .expand .. => false

/-- Whether a command may ask the server for a write. -/
def Command.Asks (command : Command) (ask : Http.Ask) : Prop :=
  match command with
  | .setHours _ row .. | .fillHours _ row .. =>
    ask.method = .patch ∧ ask.path = Http.rowPath row.assignment
  | .assign .. => ask.method = .post ∧ ask.path = "/api/assignments/"
  | .unassign _ id => ask.method = .delete ∧ ask.path = Http.rowPath id
  | .login _ | .logout | .view .. | .expand .. => False

/-- What a command that writes has to find before: the grid, the weeks on its axis, and the row or
the person, for which rows may have to be fetched. -/
def Command.lookup : Command → Run τ Unit
  | .setHours limits row week _ => onGrid limits fun b ↦ do
    let _ ← liftM (readWeek (← Run.grid).axis week)
    ensureRow b row
  | .fillHours limits row first last _ => onGrid limits fun b ↦ do
    let axis := (← Run.grid).axis
    let _ ← liftM (readWeek axis first)
    let _ ← liftM (readWeek axis last)
    ensureRow b row
  | .assign limits person _ => onGrid limits fun _ ↦ do
    if ((← Run.grid).roster.person? person).isNone then throw (.ofGrid (Grid.noPerson person))
  | .unassign limits id => onGrid limits fun b ↦ do
    if ((← Run.grid).roster.ownerOf? id).isNone then expandCollapsed b
    if ((← Run.grid).roster.ownerOf? id).isNone then throw (.ofGrid (Grid.noAssignment id))
  | .login _ | .logout | .view .. | .expand .. => pure ()

/-- What a run has to find before it writes. -/
def Invocation.lookup (i : Invocation) (w : Surroundings) : Run τ Unit := do
  w.tellFault
  i.command.lookup

section

variable {c : Context (Recorded τ)} (t : Transport τ)

theorem onGrid_silent (limits : LoadLimits) (hc : c.transport = t.recorded)
    {next : Backend (Connection (Recorded τ)) → Run (Recorded τ) Unit}
    (hnext : ∀ client : Client, (next (client.backend t.recorded)).Silent c) :
    (onGrid limits next).Silent c := by
  unfold onGrid
  refine .bind silent_connect fun client ↦ ?_
  intro s hs
  refine Run.Ends.next Run.outcome_read ?_
  dsimp only
  rw [hc]
  exact Run.Silent.bind (silent_loadGrid client t limits) (fun _ ↦ hnext client) s hs

/-- Nothing is written before everything was found. -/
theorem Command.silent_lookup (command : Command) (hc : c.transport = t.recorded) :
    (command.lookup : Run (Recorded τ) Unit).Silent c := by
  have hfound (client : Client) (row : RowKey) :
      (ensureRow (client.backend t.recorded) row).Silent c :=
    fun s hs ↦ (ensureRow_ends client t row hs).mono (fun _ _ h ↦ h.1) fun _ h ↦ h
  unfold Command.lookup
  cases command with
  | setHours limits row week hours =>
    dsimp only
    refine onGrid_silent t limits hc fun client ↦ .bind .grid fun g ↦ ?_
    exact .bind (.liftM fun _ ↦ readWeek_code) fun _ ↦ hfound client row
  | fillHours limits row first last hours =>
    refine onGrid_silent t limits hc fun client ↦ .bind .grid fun g ↦ ?_
    refine .bind (.liftM fun _ ↦ readWeek_code) fun _ ↦ ?_
    exact .bind (.liftM fun _ ↦ readWeek_code) fun _ ↦ hfound client row
  | assign limits person project =>
    refine onGrid_silent t limits hc fun client ↦ .bind .grid fun g ↦ ?_
    split
    · exact .throw (Failure.ofGrid_ne_success _)
    · exact .pure ()
  | unassign limits id =>
    have hcheck : (do
        if ((← Run.grid).roster.ownerOf? id).isNone then
          throw (.ofGrid (Grid.noAssignment id)) : Run (Recorded τ) Unit).Silent c := by
      refine .bind .grid fun g ↦ ?_
      split
      · exact .throw (Failure.ofGrid_ne_success _)
      · exact .pure ()
    refine onGrid_silent t limits hc fun client ↦ .bind .grid fun g ↦ ?_
    dsimp only
    split
    · exact .bind (silent_expandCollapsed client t) fun _ ↦ hcheck
    · exact hcheck
  | login token? => exact .pure ()
  | logout => exact .pure ()
  | view limits statuses json => exact .pure ()
  | expand limits people refresh => exact .pure ()

/-! ### Failing where something is not found -/

theorem onGrid_failsLike (limits : LoadLimits) {next lookup : Backend (Connection τ) → Run τ Unit}
    (h : ∀ b, (next b).FailsLike (lookup b)) :
    (onGrid limits next).FailsLike (onGrid limits lookup) :=
  .bind fun client ↦ .bind fun context ↦ .bind fun _ ↦ h (client.backend context.transport)

theorem assign_failsLike (b : Backend (Connection τ)) (person : PersonId) (project : ProjectId) :
    (Cli.assign b person project).FailsLike (do
      if ((← Run.grid).roster.person? person).isNone then
        throw (.ofGrid (Grid.noPerson person)) : Run τ Unit) := by
  refine .before ?_ _
  intro c s f s' hl
  rw [Run.outcome_bind, Run.outcome_grid] at hl
  dsimp only at hl
  split at hl
  case isFalse => cases hl
  case isTrue hnone =>
    cases hl
    apply Run.exists_outcome_perform
    unfold Grid.assign
    rw [Option.isNone_iff_eq_none.mp hnone]

theorem unassign_failsLike (b : Backend (Connection τ)) (id : AssignmentId) :
    (Cli.unassign b id).FailsLike (do
      if ((← Run.grid).roster.ownerOf? id).isNone then expandCollapsed b
      if ((← Run.grid).roster.ownerOf? id).isNone then
        throw (.ofGrid (Grid.noAssignment id)) : Run τ Unit) := by
  refine .bind fun g ↦ ?_
  dsimp only
  split
  case' isTrue => refine .bind fun _ ↦ ?_
  -- whether rows were fetched or not, the assignment is looked for now
  all_goals
    intro c s f s' hl
    rw [Run.outcome_bind, Run.outcome_grid] at hl ⊢
    dsimp only at hl ⊢
    split at hl
    case isFalse => cases hl
    case isTrue hnone =>
      cases hl
      rw [if_pos hnone]
      obtain ⟨out, err, htold⟩ := Run.Prints.log .warn
        s!"Remove requested for unknown assignment {Decimal.intText id.toInt}" c s
      have hremoved : s.grid.unassign b id s.connection =
          ⟨.error (Grid.noAssignment id), s.grid, s.connection⟩ := by
        unfold Grid.unassign
        rw [Option.isNone_iff_eq_none.mp hnone]
      obtain ⟨s'', h, hconnection⟩ :=
        Run.exists_outcome_perform (fun g s ↦ g.unassign b id s) c { s with out, err } hremoved
      refine ⟨s'', ?_, hconnection⟩
      rw [Run.outcome_bind_of_ok htold, Run.outcome_bind, h]

/-- A command that writes fails where it does not find what it has to find. -/
theorem Command.run_failsLike (command : Command) (hwrites : command.writes = true) :
    (command.run : Run τ Unit).FailsLike command.lookup := by
  unfold Command.run Command.lookup
  cases command with
  | setHours limits row week hours =>
    refine onGrid_failsLike limits fun b ↦ .bind fun g ↦ .bind fun week ↦ ?_
    exact (Run.FailsLike.refl (ensureRow b row)).before _
  | fillHours limits row first last hours =>
    refine onGrid_failsLike limits fun b ↦ .bind fun g ↦ .bind fun first ↦ .bind fun last ↦ ?_
    exact (Run.FailsLike.refl (ensureRow b row)).before _
  | assign limits person project =>
    exact onGrid_failsLike limits fun b ↦ assign_failsLike b person project
  | unassign limits id => exact onGrid_failsLike limits fun b ↦ unassign_failsLike b id
  | login _ | logout | view _ _ _ | expand _ _ _ => cases hwrites

end

/-- The attempt of a command that writes. -/
theorem Command.run_attempts (command : Command) (hwrites : command.writes = true)
    {c : Context (Recorded τ)} (t : Transport τ) (hc : c.transport = t.recorded)
    {s : Session (Recorded τ)} (hs : s.connection.written = []) :
    command.run.Attempts c s command.Asks := by
  unfold Command.run
  cases command with
  | setHours limits row week hours =>
    exact onGrid_attempts t limits hc
      (fun client s hs ↦ setHours_attempts client t row week hours hs) hs
  | fillHours limits row first last hours =>
    exact onGrid_attempts t limits hc
      (fun client s hs ↦ fillHours_attempts client t row first last hours hs) hs
  | assign limits person project =>
    exact onGrid_attempts t limits hc
      (fun client s hs ↦ assign_attempts client t person project hs) hs
  | unassign limits id =>
    exact onGrid_attempts t limits hc (fun client s hs ↦ unassign_attempts client t id hs) hs
  | login _ | logout | view _ _ _ | expand _ _ _ => cases hwrites

/-! ### Runs of the program -/

theorem Surroundings.prints_tellFault (w : Surroundings) : (w.tellFault : Run τ Unit).Prints := by
  unfold tellFault
  split
  · exact .log _ _
  · exact .pure

section

variable (i : Invocation) (w : Surroundings) (t : Transport τ) (network : τ)

/-- The data that a run has written. -/
def Ended.written (ended : Ended (Recorded τ)) : List (Request × Option Response) :=
  ended.network.exchanges.filter fun e ↦ e.1.writesData

/-- A run of a command that writes makes an attempt to write, which has succeeded if the run ends
with the code of success. -/
theorem Invocation.attempt_run (hwrites : i.command.writes = true) :
    let ended := i.run w t.recorded ⟨network, []⟩
    Attempt i.command.Asks (ended.code = ExitCode.success) ended.written := by
  intro ended
  have hbody : (i.body w).Attempts (w.context i t.recorded) (w.begin ⟨network, []⟩)
      i.command.Asks :=
    .after (Run.Silent.of_prints w.prints_tellFault _ rfl) fun _ _ hs ↦
      i.command.run_attempts hwrites t rfl hs
  have hresult : ended.result =
      ((i.body w).outcome (w.context i t.recorded) (w.begin ⟨network, []⟩)).1 := rfl
  have hwritten : ended.written = ((i.body w).outcome (w.context i t.recorded)
      (w.begin ⟨network, []⟩)).2.connection.written := rfl
  rw [hwritten]
  unfold Ended.code
  rw [hresult]
  unfold Run.Attempts Run.Ends at hbody
  split at hbody
  · next hend =>
    rw [hend]
    exact hbody.of_iff (iff_of_true rfl trivial)
  · next hend =>
    rw [hend]
    exact hbody.2.of_iff (iff_of_false hbody.1 id)

/-- Before everything was found no data are written. -/
theorem Invocation.silent_lookup :
    (i.lookup w : Run (Recorded τ) Unit).Silent (w.context i t.recorded) :=
  .bind (.of_prints w.prints_tellFault) fun _ ↦ i.command.silent_lookup t rfl

/-- A run fails where something is not found, and then no data are written. -/
theorem Invocation.run_of_lookup (hwrites : i.command.writes = true) {f : Failure}
    {s : Session (Recorded τ)}
    (h : (i.lookup w).outcome (w.context i t.recorded) (w.begin ⟨network, []⟩) = (.error f, s)) :
    let ended := i.run w t.recorded ⟨network, []⟩
    ended.result = .error f ∧ ended.written = [] := by
  intro ended
  have hfails : (i.body w : Run (Recorded τ) Unit).FailsLike (i.lookup w) :=
    .bind fun _ ↦ i.command.run_failsLike hwrites
  obtain ⟨s', hbody, hconnection⟩ := hfails _ _ f s h
  have hquiet := i.silent_lookup w t (w.begin ⟨network, []⟩) rfl
  unfold Run.Ends at hquiet
  rw [h] at hquiet
  constructor
  · exact congrArg Prod.fst hbody
  · have hwritten : ended.written = s'.connection.written :=
      congrArg (fun o ↦ o.2.connection.written) hbody
    rw [hwritten, hconnection]
    exact hquiet.2

end

/-- A run of a command that writes sends at most one request that writes data, and that is one for
which the command may ask. The run ends with the code of success if one was sent and accepted. If
something that the command has to find is not found, the run fails for this reason, and no data
are written. -/
theorem write_command_end (i : Invocation) (hwrites : i.command.writes = true) (w : Surroundings)
    (t : Transport τ) (network : τ) :
    let ended := i.run w t.recorded ⟨network, []⟩
    ended.written.length ≤ 1 ∧
    (ended.code = ExitCode.success ↔ ∃ e, ended.written = [e] ∧ IsAccepted e) ∧
    (∀ e ∈ ended.written, ∃ (client : Client) (ask : Http.Ask),
      i.command.Asks ask ∧ client.request ask = .ok e.1) ∧
    ∀ f s, (i.lookup w).outcome (w.context i t.recorded) (w.begin ⟨network, []⟩) = (.error f, s) →
      ended.result = .error f ∧ ended.written = [] := by
  intro ended
  have hattempt := i.attempt_run w t network hwrites
  refine ⟨hattempt.length_le_one, hattempt.succeeded_iff, fun e he ↦ hattempt.exists_ask he, ?_⟩
  exact fun f s h ↦ i.run_of_lookup w t network hwrites h

/-- Six hours are set, and the server takes them: one request writes data. -/
theorem write_command_end_of_set_hours :
    let i : Invocation := { command := .setHours {} ⟨7, 42⟩ "2024-01-01" "6" }
    let stored := Credentials.ofToken "secret" "http://[::1]"
    let w : Surroundings := { auth? := some ⟨String.ofList stored.text, Credentials.fileMode⟩ }
    let row := "\x7b\"id\": 42, \"person\": 7, \"project\": 1\x7d"
    let snapshot := "\x7b\"week_keys\": [\"2024-01-01\"], " ++
      "\"people\": [\x7b\"id\": 7\x7d], \"rows\": [" ++ row ++ "]\x7d"
    let server : Http.Server :=
      { answers := [some ⟨200, "\x7b\"count\": 1\x7d"⟩, some ⟨200, snapshot⟩, some ⟨200, row⟩] }
    let ended := i.run w Http.Server.transport.recorded ⟨server, []⟩
    i.command.writes = true ∧ ended.code = ExitCode.success ∧
      ∃ e, ended.written = [e] ∧ IsAccepted e ∧ e.1.method = .patch := by
  intro i stored w row snapshot server ended
  have hwrites : i.command.writes = true := rfl
  have hcode : ended.code = ExitCode.success := by decide +kernel
  obtain ⟨-, hsuccess, hasks, -⟩ := write_command_end i hwrites w Http.Server.transport server
  obtain ⟨e, he, haccepted⟩ := hsuccess.mp hcode
  obtain ⟨client, ask, hask, hrequest⟩ := hasks e (by rw [he]; exact List.mem_singleton_self e)
  exact ⟨hwrites, hcode, e, he, haccepted, (Client.eq_of_request hrequest).1.trans hask.1⟩

end AssignmentGrid.Cli
