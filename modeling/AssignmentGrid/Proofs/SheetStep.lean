import AssignmentGrid.Proofs.RecountedTotals

/-!
# What an action does to rows and totals

Rows and totals change in three ways only. A load shows a snapshot, rows of a person are fetched,
and the held rows change one by one: they are created, written and taken away. What an action does
of this can be said before it is performed, and it is all that the action does to rows, totals and
axis.
-/

namespace AssignmentGrid

variable {σ : Type}

/-- Something that is done to rows and totals. -/
inductive Effect where
  /-- A snapshot is shown. -/
  | shows (snapshot : Snapshot)
  /-- Rows come in place of those of a person. -/
  | fetches (person : PersonId) (rows : List Assignment)
  /-- Held rows change. -/
  | changes (change : RowChange)

namespace Effect

/-- The rows and totals after an effect. -/
def sheet (b : Backend σ) (g : Grid) (s : σ) : Effect → Sheet
  | shows snapshot => (g.applySnapshot snapshot).sheet
  | fetches p rows => (g.takeRows p rows).sheet
  | changes c => (c.action.perform b g s).1.sheet

/-- The axis after an effect. -/
def axis (g : Grid) : Effect → WeekAxis
  | shows snapshot => (g.applySnapshot snapshot).axis
  | fetches _ _ | changes _ => g.axis

/-- The snapshot that is shown. -/
def snapshot? : Effect → Option Snapshot
  | shows snapshot => some snapshot
  | fetches _ _ | changes _ => none

/-- What is done to rows and totals when a load finishes with what it obtained. -/
def ofObtained? (obtained : Except GridError LoadOutcome) : Option Effect :=
  obtained.toOption.map fun outcome ↦ .shows outcome.snapshot

/-- What is done to rows and totals when the rows of a person are fetched. -/
def ofFetch? (b : Backend σ) (p : PersonId) (s : σ) : Option Effect :=
  (b.fetchRows p s).1.toOption.map fun rows ↦ .fetches p rows

end Effect

/-- Whether an input commits an open edit. -/
def Input.commits : Input → Bool
  | key .enter | blur => true
  | _ => false

namespace Grid

/-- What a load does to rows and totals. -/
def loadEffect? (g : Grid) (b : Backend σ) (request : LoadRequest) (s : σ) : Option Effect :=
  Effect.ofObtained? (Load.acquire g.config b request s).result

/-- What a commit does to rows and totals: the typed hours are written if the cells pass the
check. -/
def commitEffect? (g : Grid) : Option Effect :=
  g.edit?.bind fun edit ↦ (g.commitCells edit).toOption.map fun cells ↦
    .changes (.apply cells (Hours.ofTyped g.hoursCap edit.raw))

end Grid

namespace Action

/-- What an action does to rows and totals. -/
def effect? (b : Backend σ) (g : Grid) (s : σ) : Action → Option Effect
  | operation (.load request) => g.loadEffect? b request s
  | operation .reload => g.loadEffect? b g.request s
  | operation (.setWeeks weeks) => g.loadEffect? b { g.request with weeks } s
  | operation (.setScope scope) => g.loadEffect? b { g.request with scope } s
  | operation (.expand p) =>
    if (g.roster.person? p).any fun q ↦ !q.isLoaded then Effect.ofFetch? b p s else none
  | operation (.refresh p) => Effect.ofFetch? b p s
  | operation (.assign p project) => some (.changes (.assign p project))
  | operation (.unassign id) => some (.changes (.unassign id))
  | operation (.apply cells value) => some (.changes (.apply cells value))
  | operation .commit => g.commitEffect?
  | operation (.input i) => if i.commits then g.commitEffect? else none
  | piece (.finishLoad ticket obtained) =>
    if g.isCurrent ticket then Effect.ofObtained? obtained else none
  | piece (.prepare cells value) => some (.changes (.prepare cells value))
  | piece (.settle w) => some (.changes (.settle w))
  | piece (.beginLoad _) | piece (.progress _ _) | gesture _ => none

/-- The snapshot that an action shows. -/
def shown? (b : Backend σ) (g : Grid) (s : σ) (a : Action) : Option Snapshot :=
  (a.effect? b g s).bind Effect.snapshot?

end Action

/-! ### One action -/

namespace Grid

variable (g : Grid) (b : Backend σ) (s : σ)

/-- A commit shows no snapshot. -/
theorem snapshot?_commitEffect? : g.commitEffect?.bind Effect.snapshot? = none := by
  unfold commitEffect?
  cases g.edit? with
  | none => rfl
  | some edit =>
    rw [Option.bind_some]
    cases g.commitCells edit with
    | error e => rfl
    | ok cells => rfl

/-- A key without an open edit leaves rows and totals alone. -/
theorem sheet_selectionKey (key : Key) : (g.selectionKey key).sheet = g.sheet := by
  cases key with
  | char c =>
    unfold selectionKey
    dsimp only
    split
    · exact g.sheet_gesture (.startTyped c)
    · rfl
  | enter => exact g.sheet_gesture .startEdit
  | arrow d shift =>
    unfold selectionKey arrow
    dsimp only
    split
    · exact g.sheet_gesture (.moveWeeks d.delta)
    · exact g.sheet_gesture (.extendWeeks d.delta)
    · exact g.sheet_gesture (.moveRows d.delta)
    · rfl
  | _ => rfl

/-- An input changes rows and totals by the commit that it is, or not at all. -/
theorem sheet_handle (i : Input) :
    (g.handle b i s).grid.sheet = if i.commits then (g.commit b s).grid.sheet else g.sheet := by
  cases i with
  | doubleClick cell => exact (g.select cell false).sheet_gesture .startEdit
  | key key =>
    unfold handle handleKey
    cases hedit : g.edit? with
    | some edit => cases key <;> rfl
    | none =>
      have hnothing : (g.commit b s).grid = g := by simp only [commit, hedit]
      rw [hnothing, ite_self]
      exact g.sheet_selectionKey key
  | _ => rfl

/-- Rows that the backend delivers are taken. -/
theorem refresh_of_ok {b : Backend σ} {p : PersonId} {s : σ} {rows : List Assignment}
    (h : (b.fetchRows p s).1 = .ok rows) :
    g.refresh b p s = ⟨.ok (), g.takeRows p rows, (b.fetchRows p s).2⟩ := by
  unfold refresh
  rw [show b.fetchRows p s = (.ok rows, (b.fetchRows p s).2) from Prod.ext h rfl]

/-- When the backend delivers no rows, the user is told and the grid stays as it is. -/
theorem refresh_of_error {b : Backend σ} {p : PersonId} {s : σ} {e : BackendError}
    (h : (b.fetchRows p s).1 = .error e) :
    g.refresh b p s = ⟨.error (.fetch e), g.complain s!"Could not load assignments: {e.message}",
      (b.fetchRows p s).2⟩ := by
  unfold refresh
  rw [show b.fetchRows p s = (.error e, (b.fetchRows p s).2) from Prod.ext h rfl]

/-- A gesture leaves the axis alone. -/
theorem axis_gesture (m : Gesture) : (m.perform g).axis = g.axis := by
  obtain ⟨_, _, _, _, hgesture⟩ := g.exists_gesture m
  rw [hgesture]

end Grid

/-- What becomes of rows, totals and axis when there is at most one effect. -/
structure Grid.Undergoes (b : Backend σ) (g : Grid) (s : σ) (effect? : Option Effect)
    (later : Grid) : Prop where
  sheet : later.sheet = (effect?.map (Effect.sheet b g s)).getD g.sheet
  axis : later.axis = (effect?.map (Effect.axis g)).getD g.axis

namespace Grid.Undergoes

variable {b : Backend σ} {g : Grid} {s : σ} {later : Grid}

/-- Beside the loads the axis stays. -/
theorem of_besideLoads {effect? : Option Effect} (h : g.BesideLoads later)
    (hsheet : later.sheet = (effect?.map (Effect.sheet b g s)).getD g.sheet)
    (hquiet : effect?.bind Effect.snapshot? = none) : g.Undergoes b s effect? later := by
  refine ⟨hsheet, h.axis.trans ?_⟩
  cases effect? with
  | none => rfl
  | some effect =>
    cases effect with
    | shows snapshot => cases hquiet
    | fetches p rows => rfl
    | changes c => rfl

theorem recordProgress (ticket : LoadTicket) (job : JobProgress) :
    g.Undergoes b s none (g.recordProgress ticket job) := by
  by_cases hcurrent : ticket.generation = g.generation
  · rw [recordProgress_of_eq hcurrent]
    exact ⟨rfl, rfl⟩
  · rw [recordProgress_of_ne hcurrent]
    exact ⟨rfl, rfl⟩

theorem finishLoad (ticket : LoadTicket) (obtained : Except GridError LoadOutcome) :
    g.Undergoes b s (if g.isCurrent ticket then Effect.ofObtained? obtained else none)
      (g.finishLoad ticket obtained).2 := by
  split
  · next hcurrent =>
    cases obtained with
    | ok outcome =>
      rw [finishLoad_ok_of_eq (isCurrent_iff.mp hcurrent)]
      exact ⟨rfl, rfl⟩
    | error e =>
      rw [finishLoad_error_of_eq (isCurrent_iff.mp hcurrent)]
      exact ⟨rfl, rfl⟩
  · next hcurrent =>
    rw [finishLoad_of_ne fun h ↦ hcurrent (isCurrent_iff.mpr h)]
    exact ⟨rfl, rfl⟩

theorem load (request : LoadRequest) :
    g.Undergoes b s (g.loadEffect? b request s) (g.load b request s).grid := by
  unfold loadEffect?
  cases hobtained : (Load.acquire g.config b request s).result with
  | ok outcome =>
    rw [load_of_ok hobtained]
    exact ⟨rfl, rfl⟩
  | error e =>
    rw [load_of_error hobtained]
    exact ⟨rfl, rfl⟩

theorem refresh (p : PersonId) :
    g.Undergoes b s (Effect.ofFetch? b p s) (g.refresh b p s).grid := by
  unfold Effect.ofFetch?
  cases hanswer : (b.fetchRows p s).1 with
  | ok rows =>
    rw [g.refresh_of_ok hanswer]
    exact ⟨rfl, rfl⟩
  | error e =>
    rw [g.refresh_of_error hanswer]
    exact ⟨rfl, rfl⟩

theorem expand (p : PersonId) :
    g.Undergoes b s
      (if (g.roster.person? p).any fun q ↦ !q.isLoaded then Effect.ofFetch? b p s else none)
      (g.expand b p s).grid := by
  unfold Grid.expand
  cases hperson : g.roster.person? p with
  | none => exact ⟨rfl, rfl⟩
  | some q =>
    cases hloaded : q.isLoaded with
    | true => simpa [hloaded] using (⟨rfl, rfl⟩ : g.Undergoes b s none g)
    | false => simpa [hloaded] using refresh p

theorem commit : g.Undergoes b s g.commitEffect? (g.commit b s).grid := by
  refine of_besideLoads (.commit b s g) ?_ g.snapshot?_commitEffect?
  unfold commitEffect? Grid.commit
  cases hedit : g.edit? with
  | none => rfl
  | some edit =>
    have hcells : g.cancelEdit.commitCells edit = g.commitCells edit := rfl
    simp only [hcells, Option.bind_some]
    cases g.commitCells edit with
    | error e => rfl
    | ok cells =>
      -- The edit is closed before the hours are written, and the write does not look at it.
      have hwritten := g.applyHours_eq_write b cells (Hours.ofTyped g.hoursCap edit.raw) s
      have hclosed := g.cancelEdit.applyHours_eq_write b cells
        (Hours.ofTyped g.hoursCap edit.raw) s
      have hsame := congrArg Prod.fst (hclosed.trans hwritten.symm)
      dsimp only
      split
      · exact hsame
      · exact hsame

theorem handle (i : Input) :
    g.Undergoes b s (if i.commits then g.commitEffect? else none) (g.handle b i s).grid := by
  have hbeside : g.BesideLoads (g.handle b i s).grid := .handle b s g i
  have hsheet := g.sheet_handle b s i
  split
  · next hcommits =>
    rw [if_pos hcommits] at hsheet
    exact of_besideLoads hbeside (hsheet.trans commit.sheet) g.snapshot?_commitEffect?
  · next hcommits =>
    rw [if_neg hcommits] at hsheet
    exact of_besideLoads hbeside hsheet rfl

end Grid.Undergoes

/-- An action does to rows, totals and axis what it was said to do. -/
theorem Action.undergoes_perform (a : Action) (b : Backend σ) (g : Grid) (s : σ) :
    g.Undergoes b s (a.effect? b g s) (a.perform b g s).1 := by
  cases a with
  | gesture m => exact ⟨g.sheet_gesture m, g.axis_gesture m⟩
  | piece x =>
    cases x with
    | beginLoad request => exact ⟨rfl, rfl⟩
    | progress ticket job => exact .recordProgress ticket job
    | finishLoad ticket obtained => exact .finishLoad ticket obtained
    | prepare cells value => exact ⟨rfl, rfl⟩
    | settle w => exact ⟨rfl, rfl⟩
  | operation o =>
    cases o with
    | load request => exact .load request
    | reload => exact .load g.request
    | setWeeks weeks => exact .load { g.request with weeks }
    | setScope scope => exact .load { g.request with scope }
    | expand p => exact .expand p
    | refresh p => exact .refresh p
    | assign p project => exact .of_besideLoads (.assign b s g p project) rfl rfl
    | unassign id => exact .of_besideLoads (.unassign b s g id) rfl rfl
    | apply cells value => exact .of_besideLoads (.applyHours b s g cells value) rfl rfl
    | commit => exact .commit
    | input i => exact .handle i

/-- A change of held rows has itself as its effect. -/
theorem RowChange.effect?_action (c : RowChange) (b : Backend σ) (g : Grid) (s : σ) :
    c.action.effect? b g s = some (.changes c) := by
  cases c <;> rfl

/-! ### How effects come about -/

/-- The actions that can have an effect. -/
inductive Action.Brings (b : Backend σ) (g : Grid) (s : σ) : Action → Effect → Prop
  /-- A load has obtained a snapshot. -/
  | shown (a : Action) (snapshot : Snapshot) : Brings b g s a (.shows snapshot)
  /-- The rows of anybody are fetched anew. -/
  | refreshed {p : PersonId} {rows : List Assignment} (hanswer : (b.fetchRows p s).1 = .ok rows) :
      Brings b g s (.operation (.refresh p)) (.fetches p rows)
  /-- The rows of a person who is shown are fetched for the first time. -/
  | expanded {p : PersonId} {q : PersonRow} {rows : List Assignment}
      (hperson : g.roster.person? p = some q) (hnew : q.isLoaded = false)
      (hanswer : (b.fetchRows p s).1 = .ok rows) :
      Brings b g s (.operation (.expand p)) (.fetches p rows)
  /-- Held rows are changed. -/
  | changed (c : RowChange) : Brings b g s c.action (.changes c)
  /-- An edit is committed. -/
  | committed (a : Action) (cells : List Cell) (value : Float) :
      Brings b g s a (.changes (.apply cells value))

namespace Action.Brings

variable {b : Backend σ} {g : Grid} {s : σ} {a : Action} {effect : Effect}

theorem of_finish {obtained : Except GridError LoadOutcome}
    (h : Effect.ofObtained? obtained = some effect) : a.Brings b g s effect := by
  cases obtained with
  | ok outcome =>
    obtain rfl := Option.some.inj h
    exact shown a outcome.snapshot
  | error e => cases h

theorem of_commit (h : g.commitEffect? = some effect) : a.Brings b g s effect := by
  unfold Grid.commitEffect? at h
  obtain ⟨edit, -, h⟩ := Option.bind_eq_some_iff.mp h
  obtain ⟨cells, -, rfl⟩ := Option.map_eq_some_iff.mp h
  exact committed a cells _

theorem exists_rows {p : PersonId} (h : Effect.ofFetch? b p s = some effect) :
    ∃ rows, (b.fetchRows p s).1 = .ok rows ∧ effect = .fetches p rows := by
  unfold Effect.ofFetch? at h
  cases hanswer : (b.fetchRows p s).1 with
  | ok rows =>
    rw [hanswer] at h
    exact ⟨rows, rfl, (Option.some.inj h).symm⟩
  | error e =>
    rw [hanswer] at h
    cases h

end Action.Brings

/-- Whatever has an effect is one of the actions that can have it. -/
theorem Action.brings_of_effect? {a : Action} {b : Backend σ} {g : Grid} {s : σ} {effect : Effect}
    (h : a.effect? b g s = some effect) : a.Brings b g s effect := by
  cases a with
  | gesture m => cases h
  | piece x =>
    cases x with
    | beginLoad request => cases h
    | progress ticket job => cases h
    | finishLoad ticket obtained => exact .of_finish (Option.ite_none_right_eq_some.mp h).2
    | prepare cells value => exact Option.some.inj h ▸ .changed (.prepare cells value)
    | settle w => exact Option.some.inj h ▸ .changed (.settle w)
  | operation o =>
    cases o with
    | load request => exact .of_finish h
    | reload => exact .of_finish h
    | setWeeks weeks => exact .of_finish h
    | setScope scope => exact .of_finish h
    | expand p =>
      obtain ⟨hcollapsed, hfetched⟩ := Option.ite_none_right_eq_some.mp h
      obtain ⟨rows, hanswer, rfl⟩ := Brings.exists_rows hfetched
      obtain ⟨q, hperson, hnew⟩ := (Option.any_eq_true _ _).mp hcollapsed
      exact .expanded hperson (by simpa using hnew) hanswer
    | refresh p =>
      obtain ⟨rows, hanswer, rfl⟩ := Brings.exists_rows h
      exact .refreshed hanswer
    | assign p project => exact Option.some.inj h ▸ .changed (.assign p project)
    | unassign id => exact Option.some.inj h ▸ .changed (.unassign id)
    | apply cells value => exact Option.some.inj h ▸ .changed (.apply cells value)
    | commit => exact .of_commit h
    | input i => exact .of_commit (Option.ite_none_right_eq_some.mp h).2

/-! ### Runs -/

/-- The snapshot that a run shows last. -/
def Action.lastShown? (b : Backend σ) : List Action → Grid × σ → Option Snapshot
  | [], _ => none
  | a :: rest, x => (lastShown? b rest (a.perform b x.1 x.2)).or (a.shown? b x.1 x.2)

end AssignmentGrid
