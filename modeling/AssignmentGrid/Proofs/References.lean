import AssignmentGrid.Proofs.HeldRows
import AssignmentGrid.Proofs.Reachable
import AssignmentGrid.Proofs.CommitEnd

/-!
# References into the roster

The selection and the open edit name rows by their keys, and rows come and go below them. As long as
the user points at held rows and what the backend delivers keeps every assignment to one person and
to one row, each row that is named is a held one. Specification `SPEC_FULL.md:180–181,194–195`.
-/

namespace AssignmentGrid

/-! ### Selections -/

namespace Selection

variable {axis : WeekAxis} {s : Selection} {held : RowKey → Prop}

/-- Whether all selected cells lie in rows with a property. -/
def LiesIn (s : Selection) (held : RowKey → Prop) : Prop := ∀ c ∈ s.cells, held c.row

namespace LiesIn

theorem pick (s : Selection) {cell : Cell} (hcell : held cell.row) :
    (s.pick cell).LiesIn held := by
  intro c hc
  rw [List.mem_singleton.mp hc]
  exact hcell

/-- A range lies in the row of its anchor. -/
theorem stretchFrom (h : s.LiesIn held) {anchor : Cell} (hanchor : held anchor.row)
    (cell : Cell) : (s.stretchFrom axis anchor cell).LiesIn held := by
  unfold Selection.stretchFrom
  split
  · next cells hblock =>
    intro c hc
    rw [(block?_eq_some_iff.mp hblock).row_eq hc]
    exact hanchor
  · exact h

theorem stretch (h : s.LiesIn held) (hs : s.Coherent axis) {cell : Cell}
    (hcell : held cell.row) : (s.stretch axis cell).LiesIn held := by
  unfold Selection.stretch
  split
  · next anchor hanchor => exact h.stretchFrom (h anchor (hs.anchor_mem hanchor)) cell
  · exact pick s hcell

theorem select (h : s.LiesIn held) (hs : s.Coherent axis) {cell : Cell} (hcell : held cell.row)
    (extend : Bool) : (s.select axis cell extend).LiesIn held := by
  cases extend with
  | false => exact pick s hcell
  | true => exact h.stretch hs hcell

theorem dragTo (h : s.LiesIn held) (hs : s.Coherent axis) (cell : Cell) :
    (s.dragTo axis cell).LiesIn held := by
  unfold Selection.dragTo
  split
  · next anchor _ hanchor => exact h.stretchFrom (h anchor (hs.anchor_mem hanchor)) cell
  · exact h

/-- A horizontal move stays in the row of the focus. -/
theorem target (h : s.LiesIn held) (hs : s.Coherent axis) {delta : Int64} {cell : Cell}
    (hcell : s.target axis delta = .ok (some cell)) : held cell.row := by
  unfold Selection.target at hcell
  split at hcell
  · next focus hfocus =>
    obtain ⟨week?, -, hweek⟩ := Halt.map_eq_ok_iff.mp hcell
    obtain ⟨week, -, rfl⟩ := Option.map_eq_some_iff.mp hweek
    exact h focus (hs.focus_mem hfocus)
  · cases hcell

theorem moveBy (h : s.LiesIn held) (hs : s.Coherent axis) (delta : Int64) :
    (Halt.stateAfter s (s.moveBy axis delta)).LiesIn held := by
  rcases s.stateAfter_moveBy axis delta with hstays | ⟨cell, hcell, hmoves⟩
  · rwa [hstays]
  · rw [hmoves]
    exact pick s (h.target hs hcell)

theorem extendBy (h : s.LiesIn held) (hs : s.Coherent axis) (delta : Int64) :
    (Halt.stateAfter s (s.extendBy axis delta)).LiesIn held := by
  rcases s.stateAfter_extendBy axis delta with hstays | ⟨cell, hcell, hstretches⟩
  · rwa [hstays]
  · rw [hstretches]
    exact h.stretch hs (h.target hs hcell)

end LiesIn

end Selection

/-! ### What an action points at and brings in -/

/-- The cell at which a gesture points. -/
def Gesture.cell? : Gesture → Option Cell
  | select cell _ | beginDrag cell | dragTo cell => some cell
  | _ => none

/-- The cell at which an input points. -/
def Input.cell? : Input → Option Cell
  | click cell | shiftClick cell | mouseDown cell | mouseEnter cell | doubleClick cell => some cell
  | _ => none

/-- The cell at which an action points. -/
def Action.cell? : Action → Option Cell
  | gesture m => m.cell?
  | operation (.input i) => i.cell?
  | _ => none

/-- Whether a row is found. -/
def Roster.Holds (r : Roster) (key : RowKey) : Prop := (r.find? key).isSome

instance (r : Roster) (key : RowKey) : Decidable (r.Holds key) :=
  inferInstanceAs (Decidable ((r.find? key).isSome = true))

/-- Whether an answer, if there is one, has a property. -/
def Delivers {ε α : Type} (answer : Except ε α) (P : α → Prop) : Prop :=
  ∀ a, answer = .ok a → P a

instance {ε α : Type} (answer : Except ε α) (P : α → Prop) [DecidablePred P] :
    Decidable (Delivers answer P) :=
  match answer with
  | .ok a => decidable_of_iff (P a) ⟨fun h _ he ↦ Except.ok.inj he ▸ h, fun h ↦ h a rfl⟩
  | .error _ => isTrue nofun

/-- Whether no number comes twice in what a load obtained. -/
abbrev LoadsDistinct (obtained : Except GridError LoadOutcome) : Prop :=
  Delivers obtained fun outcome ↦ (outcome.snapshot.rows.map Assignment.id).Nodup

/-- Whether what an action brings in leaves every assignment to one person and to one row. -/
def Action.BringsDistinct {σ : Type} (b : Backend σ) (g : Grid) (s : σ) : Action → Prop
  | operation (.load request) => LoadsDistinct (Load.acquire g.config b request s).result
  | operation .reload => LoadsDistinct (Load.acquire g.config b g.request s).result
  | operation (.setWeeks weeks) =>
    LoadsDistinct (Load.acquire g.config b { g.request with weeks } s).result
  | operation (.setScope scope) =>
    LoadsDistinct (Load.acquire g.config b { g.request with scope } s).result
  | operation (.expand p) | operation (.refresh p) =>
    Delivers (b.fetchRows p s).1 (g.roster.CanTake p)
  | operation (.assign p project) =>
    Delivers (b.createRow p project s).1 fun row ↦ g.roster.IsFresh row.id
  | piece (.finishLoad _ obtained) => LoadsDistinct obtained
  | _ => True

instance {σ : Type} (b : Backend σ) (g : Grid) (s : σ) :
    (a : Action) → Decidable (a.BringsDistinct b g s)
  | .operation (.load _) | .operation .reload | .operation (.setWeeks _)
  | .operation (.setScope _) | .operation (.expand _) | .operation (.refresh _)
  | .operation (.assign _ _) | .piece (.finishLoad _ _) =>
    inferInstanceAs (Decidable (Delivers _ _))
  | .operation (.unassign _) | .operation (.apply _ _) | .operation .commit
  | .operation (.input _) | .piece (.beginLoad _) | .piece (.progress _ _)
  | .piece (.prepare _ _) | .piece (.settle _) | .gesture _ => isTrue trivial

namespace Grid

/-- The grids to which actions lead from a new one while they point at held rows and bring in
nothing twice, each of them with some backend. -/
inductive ReachableInOrder : Grid → Prop
  | new (config : LoadConfig) (hoursCap : Float) : ReachableInOrder { config, hoursCap }
  | perform {g : Grid} {σ : Type} (b : Backend σ) (s : σ) (a : Action) (h : ReachableInOrder g)
      (cell : ∀ c, a.cell? = some c → g.roster.Holds c.row) (brings : a.BringsDistinct b g s) :
      ReachableInOrder (a.perform b g s).1

/-- Whether all actions of a run point at held rows and bring in nothing twice. -/
def RunsInOrder {σ : Type} (b : Backend σ) : List Action → Grid × σ → Prop
  | [], _ => True
  | a :: rest, x =>
    (∀ c ∈ a.cell?, x.1.roster.Holds c.row) ∧ a.BringsDistinct b x.1 x.2 ∧
      RunsInOrder b rest (a.perform b x.1 x.2)

instance {σ : Type} (b : Backend σ) : (actions : List Action) → (x : Grid × σ) →
    Decidable (RunsInOrder b actions x)
  | [], _ => isTrue trivial
  | a :: rest, x =>
    have := instDecidableRunsInOrder b rest (a.perform b x.1 x.2)
    inferInstanceAs (Decidable (_ ∧ _ ∧ _))

theorem ReachableInOrder.run {g : Grid} {σ : Type} {b : Backend σ} (h : g.ReachableInOrder)
    (actions : List Action) (s : σ) (hrun : RunsInOrder b actions (g, s)) :
    (Action.run b actions (g, s)).1.ReachableInOrder := by
  induction actions generalizing g s with
  | nil => exact h
  | cons a rest ih =>
    obtain ⟨hcell, hbrings, hrest⟩ := hrun
    exact ih (.perform b s a h hcell hbrings) _ hrest

/-- Rows are filed well, and those that the selection and the edit name are held. -/
structure Refers (g : Grid) : Prop where
  filed : g.roster.IsWellFiled
  shape : g.IsCoherent
  selected : g.selection.LiesIn g.roster.Holds
  edited : ∀ e, g.edit? = some e → g.roster.Holds e.cell.row

namespace Refers

variable {g : Grid}

/-! ### Fields -/

theorem of_selection (h : g.Refers) {selection : Selection} (hshape : selection.Coherent g.axis)
    (hselected : selection.LiesIn g.roster.Holds) : ({ g with selection } : Grid).Refers :=
  ⟨h.filed, hshape, hselected, h.edited⟩

theorem of_edit (h : g.Refers) {edit? : Option CellEdit}
    (hedited : ∀ e, edit? = some e → g.roster.Holds e.cell.row) :
    ({ g with edit? } : Grid).Refers :=
  ⟨h.filed, h.shape, h.selected, hedited⟩

/-- New hours let go of nothing. -/
theorem of_revise (h : g.Refers) {sheet : Sheet} {f : RowKey → Hours → Hours}
    (hroster : sheet.roster = g.roster.revise f) : ({ g with sheet } : Grid).Refers := by
  have hkeep (key : RowKey) (hkey : g.roster.Holds key) : sheet.roster.Holds key := by
    rw [hroster, Roster.Holds, Roster.isSome_find?_revise]
    exact hkey
  have hfiled : sheet.roster.IsWellFiled := hroster ▸ h.filed.revise f
  exact ⟨hfiled, h.shape, fun c hc ↦ hkeep _ (h.selected c hc),
    fun e he ↦ hkeep _ (h.edited e he)⟩

theorem emit (h : g.Refers) (e : Event) : (g.emit e).Refers :=
  ⟨h.filed, h.shape, h.selected, h.edited⟩

theorem complain (h : g.Refers) (message : String) : (g.complain message).Refers := h.emit _

/-- Letting go of dangling references makes up for whatever rows have gone. -/
theorem dropDangling (hfiled : g.roster.IsWellFiled) (hshape : g.IsCoherent) :
    g.dropDangling.Refers where
  filed := hfiled
  shape := (BesideLoads.dropDangling g).selection hshape
  selected := by
    unfold Grid.dropDangling
    dsimp only
    split
    · next hall =>
      intro c hc
      exact List.all_eq_true.mp hall c hc
    · exact fun _ ↦ nofun
  edited := by
    intro e he
    obtain ⟨-, hheld⟩ := Option.filter_eq_some_iff.mp he
    exact hheld

/-! ### Gestures -/

theorem select (h : g.Refers) {cell : Cell} (hcell : g.roster.Holds cell.row) (extend : Bool) :
    (g.select cell extend).Refers :=
  h.of_selection (h.shape.select cell extend) (h.selected.select h.shape hcell extend)

theorem beginDrag (h : g.Refers) {cell : Cell} (hcell : g.roster.Holds cell.row) :
    (g.beginDrag cell).Refers :=
  h.of_selection (.begun cell true) (Selection.LiesIn.pick {} hcell)

theorem dragTo (h : g.Refers) (cell : Cell) : (g.dragTo cell).Refers :=
  h.of_selection (h.shape.dragTo cell) (h.selected.dragTo h.shape cell)

theorem endDrag (h : g.Refers) : g.endDrag.Refers := h.of_selection h.shape.endDrag h.selected

theorem moveWeeks (h : g.Refers) (delta : Int64) :
    (Halt.stateAfter g (g.moveWeeks delta)).Refers := by
  rw [g.stateAfter_moveWeeks]
  exact h.of_selection (h.shape.moveBy delta) (h.selected.moveBy h.shape delta)

theorem extendWeeks (h : g.Refers) (delta : Int64) :
    (Halt.stateAfter g (g.extendWeeks delta)).Refers := by
  rw [g.stateAfter_extendWeeks]
  exact h.of_selection (h.shape.extendBy delta) (h.selected.extendBy h.shape delta)

/-- A vertical move arrives at a row that is held. -/
theorem moveRows (h : g.Refers) (delta : Int64) :
    (Halt.stateAfter g (g.moveRows delta)).Refers := by
  rcases g.stateAfter_moveRows delta with hstays | ⟨_, row, hrow, hmoves⟩
  · rwa [hstays]
  · rw [hmoves]
    exact h.of_selection (.pick _ _) (.pick _ (h.filed.isSome_find?_of_neighbor hrow))

theorem clearSelection (h : g.Refers) : g.clearSelection.Refers :=
  h.of_selection .nothing fun _ ↦ nofun

/-- An edit is opened on the focus. -/
theorem startEdit (h : g.Refers) : g.startEdit.2.Refers := by
  unfold Grid.startEdit
  split
  · exact h
  · next cell hfocus =>
    apply h.of_edit
    intro e he
    cases he
    exact h.selected cell (h.shape.focus_mem hfocus)

/-- An edit is opened on the one selected cell. -/
theorem startTyped (h : g.Refers) (c : Char) : (g.startTyped c).2.Refers := by
  unfold Grid.startTyped
  split
  · next cell _ hcell =>
    split
    · next edit hedit =>
      apply h.of_edit
      intro e he
      cases he
      unfold CellEdit.startTyped? at hedit
      split at hedit
      · cases hedit
        exact h.selected cell (Selection.mem_cells_of_cell? hcell)
      · cases hedit
    · exact h
  · exact h

/-- What is typed into an edit does not move it. -/
theorem modifyEdit (h : g.Refers) {f : CellEdit → CellEdit} (hf : ∀ e, (f e).cell = e.cell) :
    (g.modifyEdit f).Refers := by
  apply h.of_edit
  intro e he
  obtain ⟨e', he', rfl⟩ := Option.map_eq_some_iff.mp he
  rw [hf]
  exact h.edited e' he'

theorem cancelEdit (h : g.Refers) : g.cancelEdit.Refers := h.of_edit fun _ ↦ nofun

theorem gesture (h : g.Refers) (m : Gesture)
    (hcell : ∀ c, m.cell? = some c → g.roster.Holds c.row) :
    (m.perform g).Refers := by
  cases m with
  | select cell extend => exact h.select (hcell cell rfl) extend
  | beginDrag cell => exact h.beginDrag (hcell cell rfl)
  | dragTo cell => exact h.dragTo cell
  | endDrag => exact h.endDrag
  | moveWeeks delta => exact h.moveWeeks delta
  | extendWeeks delta => exact h.extendWeeks delta
  | moveRows delta => exact h.moveRows delta
  | clearSelection => exact h.clearSelection
  | startEdit => exact h.startEdit
  | startTyped c => exact h.startTyped c
  | setText text => exact h.modifyEdit fun _ ↦ rfl
  | cancelEdit => exact h.cancelEdit
  | setFilter filter => exact ⟨h.filed, h.shape, h.selected, h.edited⟩
  | drain => exact ⟨h.filed, h.shape, h.selected, h.edited⟩

/-! ### Writes -/

theorem prepareHours (h : g.Refers) (cells : List Cell) (value : Float) :
    (g.prepareHours cells value).2.Refers :=
  h.of_revise (Sheet.roster_prepare g.sheet cells (Hours.clamp g.hoursCap value))

theorem settleHours (h : g.Refers) (w : SentWrite) : (g.settleHours w).2.Refers := by
  have hsheet := h.of_revise (w.roster_settle g.sheet)
  exact ⟨hsheet.filed, hsheet.shape, hsheet.selected, hsheet.edited⟩

variable {σ : Type} (b : Backend σ) (s : σ)

theorem applyHours (h : g.Refers) (cells : List Cell) (value : Float) :
    (g.applyHours b cells value s).grid.Refers := by
  have hsheet : ({ g with sheet := (g.applyHours b cells value s).grid.sheet } : Grid).Refers :=
    h.of_revise (g.roster_applyHours b s cells value)
  rw [applyHours_grid]
  exact ⟨hsheet.filed, hsheet.shape, hsheet.selected, hsheet.edited⟩

/-- After a commit the selection moves on in the row of the edit. -/
theorem commit (h : g.Refers) : (g.commit b s).grid.Refers := by
  unfold Grid.commit
  split
  · exact h
  · next edit hedit =>
    dsimp only
    split
    · exact h.cancelEdit.complain _
    · next cells _ =>
      have hwritten := h.cancelEdit.applyHours b s cells (Hours.ofTyped g.hoursCap edit.raw)
      split
      · apply hwritten.select
        have hrow : (g.cancelEdit.cellAfter edit.cell).row = edit.cell.row := by
          unfold cellAfter
          split
          · rfl
          · rfl
        rw [Roster.Holds, roster_applyHours, Roster.isSome_find?_revise]
        exact hrow ▸ h.edited edit hedit
      · exact hwritten

/-! ### Input -/

theorem selectionKey (h : g.Refers) (key : Key) : (g.selectionKey key).Refers := by
  unfold Grid.selectionKey
  split
  · split
    · exact h.startTyped _
    · exact h
  · exact h
  · exact h.startEdit
  · exact h.clearSelection
  · next d shift =>
    unfold Grid.arrow
    split
    · exact h.moveWeeks d.delta
    · exact h.extendWeeks d.delta
    · exact h.moveRows d.delta
    · exact h

theorem handleKey (h : g.Refers) (key : Key) : (g.handleKey b key s).grid.Refers := by
  unfold Grid.handleKey
  split
  · cases key with
    | char c => exact h.modifyEdit fun _ ↦ rfl
    | backspace => exact h.modifyEdit fun _ ↦ rfl
    | enter => exact h.commit b s
    | escape => exact h.cancelEdit
    | arrow d shift => exact h
  · exact h.selectionKey key

theorem handle (h : g.Refers) (i : Input) (hcell : ∀ c, i.cell? = some c → g.roster.Holds c.row) :
    (g.handle b i s).grid.Refers := by
  cases i with
  | click cell => exact h.select (hcell cell rfl) false
  | shiftClick cell => exact h.select (hcell cell rfl) true
  | mouseDown cell => exact h.beginDrag (hcell cell rfl)
  | mouseEnter cell => exact h.dragTo cell
  | mouseUp => exact h.endDrag
  | doubleClick cell => exact (h.select (hcell cell rfl) false).startEdit
  | key key => exact h.handleKey b s key
  | blur => exact h.commit b s

/-! ### Rows -/

theorem refresh (h : g.Refers) {p : PersonId}
    (htake : Delivers (b.fetchRows p s).1 (g.roster.CanTake p)) :
    (g.refresh b p s).grid.Refers := by
  unfold Grid.refresh
  split
  · next rows _ hanswer =>
    have hrows := htake rows (congrArg Prod.fst hanswer)
    exact dropDangling (h.filed.replaceRows hrows) h.shape
  · exact h.complain _

theorem expand (h : g.Refers) {p : PersonId}
    (htake : Delivers (b.fetchRows p s).1 (g.roster.CanTake p)) :
    (g.expand b p s).grid.Refers := by
  unfold Grid.expand
  split
  · exact h
  · split
    · exact h
    · exact h.refresh b s htake

/-- A row that is added takes none away. -/
theorem takeCreated (h : g.Refers) (p : PersonId) {row : Assignment}
    (hfresh : g.roster.IsFresh row.id) : (g.takeCreated p row).Refers :=
  ⟨h.filed.push hfresh, h.shape, fun c hc ↦ h.filed.isSome_find?_push hfresh (h.selected c hc),
    fun e he ↦ h.filed.isSome_find?_push hfresh (h.edited e he)⟩

theorem assign (h : g.Refers) {p : PersonId} {project : ProjectId}
    (hfresh : Delivers (b.createRow p project s).1 fun row ↦ g.roster.IsFresh row.id) :
    (g.assign b p project s).grid.Refers := by
  unfold Grid.assign
  split
  · exact h
  · split
    · next row _ hanswer => exact h.takeCreated p (hfresh row (congrArg Prod.fst hanswer))
    · exact h.complain _

theorem unassign (h : g.Refers) (id : AssignmentId) : (g.unassign b id s).grid.Refers := by
  unfold Grid.unassign
  split
  · exact h
  · split
    · next p _ _ _ =>
      have hfiled : (g.roster.remove id).2.IsWellFiled := h.filed.remove id
      exact (dropDangling (g := { g with sheet := ⟨_, _⟩ }) hfiled h.shape).emit _
    · exact h.complain _

/-! ### Loads -/

theorem recordProgress (h : g.Refers) (ticket : LoadTicket) (job : JobProgress) :
    (g.recordProgress ticket job).Refers := by
  unfold Grid.recordProgress
  split
  · exact ⟨h.filed, h.shape, h.selected, h.edited⟩
  · exact h

/-- A new snapshot leaves nothing selected and nothing edited. -/
theorem finishLoad (h : g.Refers) (ticket : LoadTicket)
    {obtained : Except GridError LoadOutcome} (hobtained : LoadsDistinct obtained) :
    (g.finishLoad ticket obtained).2.Refers := by
  by_cases hcurrent : ticket.generation = g.generation
  · cases obtained with
    | ok outcome =>
      rw [finishLoad_ok_of_eq hcurrent]
      exact ⟨Roster.isWellFiled_ofSnapshot _ (hobtained outcome rfl), .nothing, fun _ ↦ nofun,
        fun _ ↦ nofun⟩
    | error e =>
      rw [finishLoad_error_of_eq hcurrent]
      exact ⟨h.filed, h.shape, h.selected, h.edited⟩
  · rw [finishLoad_of_ne hcurrent]
    exact h

theorem load (h : g.Refers) {request : LoadRequest}
    (hobtained : LoadsDistinct (Load.acquire g.config b request s).result) :
    (g.load b request s).grid.Refers := by
  have hnoted (ticket : LoadTicket) (jobs : List JobProgress) {g : Grid} (h : g.Refers) :
      (jobs.foldl (fun g job ↦ g.recordProgress ticket job) g).Refers :=
    List.foldlRecOn jobs _ h fun _ hnext job _ ↦ hnext.recordProgress ticket job
  have hbegun : (g.beginLoad request).2.Refers := ⟨h.filed, h.shape, h.selected, h.edited⟩
  exact (hnoted _ _ hbegun).finishLoad _ hobtained

/-- Every action that points at held rows and brings in nothing twice leaves it so. -/
theorem perform (h : g.Refers) (a : Action)
    (hcell : ∀ c, a.cell? = some c → g.roster.Holds c.row) (hbrings : a.BringsDistinct b g s) :
    (a.perform b g s).1.Refers := by
  cases a with
  | gesture m => exact h.gesture m hcell
  | piece p =>
    cases p with
    | beginLoad request => exact ⟨h.filed, h.shape, h.selected, h.edited⟩
    | progress ticket job => exact h.recordProgress ticket job
    | finishLoad ticket obtained => exact h.finishLoad ticket hbrings
    | prepare cells value => exact h.prepareHours cells value
    | settle w => exact h.settleHours w
  | operation o =>
    cases o with
    | load request => exact h.load b s hbrings
    | reload => exact h.load b s hbrings
    | setWeeks weeks => exact h.load b s hbrings
    | setScope scope => exact h.load b s hbrings
    | expand p => exact h.expand b s hbrings
    | refresh p => exact h.refresh b s hbrings
    | assign p project => exact h.assign b s hbrings
    | unassign id => exact h.unassign b s id
    | apply cells value => exact h.applyHours b s cells value
    | commit => exact h.commit b s
    | input i => exact h.handle b s i hcell

end Refers

theorem ReachableInOrder.refers {g : Grid} (h : g.ReachableInOrder) : g.Refers := by
  induction h with
  | new config hoursCap => exact ⟨Roster.isWellFiled_empty, .nothing, fun _ ↦ nofun, fun _ ↦ nofun⟩
  | perform b s a _ hcell hbrings ih => exact ih.perform b s a hcell hbrings

end Grid

/-- Every selected cell, the anchor, the focus and the cell of the open edit lie in rows that are
found. -/
theorem references_resolve {g : Grid} (h : g.ReachableInOrder) :
    (∀ c ∈ g.selection.cells, (g.roster.find? c.row).isSome) ∧
    (∀ c, g.selection.anchor? = some c → (g.roster.find? c.row).isSome) ∧
    (∀ c, g.selection.focus? = some c → (g.roster.find? c.row).isSome) ∧
    ∀ e, g.edit? = some e → (g.roster.find? e.cell.row).isSome := by
  have hrefers := h.refers
  refine ⟨hrefers.selected, ?_, ?_, hrefers.edited⟩
  · intro c hc
    exact hrefers.selected c (hrefers.shape.anchor_mem hc)
  · intro c hc
    exact hrefers.selected c (hrefers.shape.focus_mem hc)

/-- Row 42 is edited and row 43 selected when row 42 has gone from the server: the edit is closed,
and the selection stays. -/
theorem references_resolve_after_refresh :
    let gone : Cell := ⟨⟨7, 42⟩, ⟨"2024-01-01"⟩⟩
    let left : Cell := ⟨⟨7, 43⟩, ⟨"2024-01-01"⟩⟩
    let row : Assignment := { id := 43, person := 7, project := 1 }
    let script : Script :=
      { standing? := some
          { weeks := [gone.week]
            people := [⟨7, "Ada Park"⟩]
            rows := [{ id := 42, person := 7, project := 1 }, row] }
        details := [.ok [row]] }
    let actions : List Action :=
      [.operation (.load {}), .gesture (.select gone false), .gesture .startEdit,
        .gesture (.select left false), .operation (.refresh 7)]
    let g := (Action.run Script.backend actions ({}, script)).1
    g.ReachableInOrder ∧ (g.roster.find? gone.row).isNone ∧ g.edit? = none ∧
      g.selection.cells = [left] ∧ (g.roster.find? left.row).isSome := by
  intro gone left row script actions g
  have hreachable : g.ReachableInOrder :=
    .run (.new {} Hours.weekCap) actions script (by decide +kernel)
  have hselected : g.selection.cells = [left] := by decide +kernel
  have hheld := (references_resolve hreachable).1
  refine ⟨hreachable, by decide +kernel, by decide +kernel, hselected, ?_⟩
  exact hheld left (hselected ▸ List.mem_singleton_self left)

end AssignmentGrid
