import AssignmentGrid.Grid.Input
import AssignmentGrid.Grid.Load
import AssignmentGrid.Grid.Row

/-!
# Actions

Everything that can happen to a grid: operations that run from their beginning to their end, the
pieces into which a load or a write falls when others run beside it, and what the user does without
the backend. Runs are sequences of actions. Specification `SPEC_FULL.md:188–191`.
-/

namespace AssignmentGrid

/-- An operation that runs from its beginning to its end. -/
inductive Operation where
  | load (request : LoadRequest)
  | reload
  | setWeeks (weeks : UInt32)
  | setScope (scope : Scope)
  | expand (person : PersonId)
  | refresh (person : PersonId)
  | assign (person : PersonId) (project : ProjectId)
  | unassign (id : AssignmentId)
  | apply (cells : List Cell) (value : Float)
  | commit
  | input (input : Input)

/-- A piece of a load or of a write. -/
inductive Piece where
  | beginLoad (request : LoadRequest)
  | progress (ticket : LoadTicket) (job : JobProgress)
  | finishLoad (ticket : LoadTicket) (obtained : Except GridError LoadOutcome)
  | prepare (cells : List Cell) (value : Float)
  | settle (write : SentWrite)

/-- What is done to the grid without the backend. -/
inductive Gesture where
  | select (cell : Cell) (extend : Bool)
  | beginDrag (cell : Cell)
  | dragTo (cell : Cell)
  | endDrag
  | moveWeeks (delta : Int64)
  | extendWeeks (delta : Int64)
  | moveRows (delta : Int64)
  | clearSelection
  | startEdit
  | startTyped (c : Char)
  | setText (text : String)
  | cancelEdit
  | setFilter (filter : StatusFilter)
  | drain

/-- Anything that can happen to a grid. -/
inductive Action where
  | operation (o : Operation)
  | piece (p : Piece)
  | gesture (m : Gesture)

/-- The grid and the backend's state after an operation. -/
def Reply.state {σ α : Type} (r : Reply σ α) : Grid × σ := (r.grid, r.backend)

/-- The grid and the backend's state after an operation. -/
def Operation.perform {σ : Type} (b : Backend σ) (g : Grid) (s : σ) : Operation → Grid × σ
  | load request => (g.load b request s).state
  | reload => (g.reload b s).state
  | setWeeks weeks => (g.setWeeks b weeks s).state
  | setScope scope => (g.setScope b scope s).state
  | expand person => (g.expand b person s).state
  | refresh person => (g.refresh b person s).state
  | assign person project => (g.assign b person project s).state
  | unassign id => (g.unassign b id s).state
  | apply cells value => (g.applyHours b cells value s).state
  | commit => (g.commit b s).state
  | input i => (g.handle b i s).state

/-- The grid after a piece. -/
def Piece.perform (g : Grid) : Piece → Grid
  | beginLoad request => (g.beginLoad request).2
  | progress ticket job => g.recordProgress ticket job
  | finishLoad ticket obtained => (g.finishLoad ticket obtained).2
  | prepare cells value => (g.prepareHours cells value).2
  | settle write => (g.settleHours write).2

/-- The grid after a gesture. One that stops leaves the grid as it was. -/
def Gesture.perform (g : Grid) : Gesture → Grid
  | select cell extend => g.select cell extend
  | beginDrag cell => g.beginDrag cell
  | dragTo cell => g.dragTo cell
  | endDrag => g.endDrag
  | moveWeeks delta => Halt.stateAfter g (g.moveWeeks delta)
  | extendWeeks delta => Halt.stateAfter g (g.extendWeeks delta)
  | moveRows delta => Halt.stateAfter g (g.moveRows delta)
  | clearSelection => g.clearSelection
  | startEdit => g.startEdit.2
  | startTyped c => (g.startTyped c).2
  | setText text => g.setText text
  | cancelEdit => g.cancelEdit
  | setFilter filter => g.setFilter filter
  | drain => g.drain.2

/-- The grid and the backend's state after an action. -/
def Action.perform {σ : Type} (b : Backend σ) (g : Grid) (s : σ) : Action → Grid × σ
  | operation o => o.perform b g s
  | piece p => (p.perform g, s)
  | gesture m => (m.perform g, s)

/-- The grid and the backend's state after operations, one run to its end before the next. -/
def Operation.run {σ : Type} (b : Backend σ) (operations : List Operation) (x : Grid × σ) :
    Grid × σ :=
  operations.foldl (fun x o ↦ o.perform b x.1 x.2) x

/-- Rows and totals, and the backend's state, after a write that nothing interrupts. -/
def Sheet.write {σ : Type} (b : Backend σ) (cells : List Cell) (value : Float) (sheet : Sheet)
    (s : σ) : Sheet × σ :=
  let prepared := sheet.prepare cells value
  let sent := prepared.1.send b s
  (sent.1.settle prepared.2, sent.2)

/-! ### What an action means for rows and totals -/

namespace Grid

variable {σ : Type}

/-- A move along the weeks moves the selection. -/
theorem stateAfter_moveWeeks (g : Grid) (delta : Int64) :
    Halt.stateAfter g (g.moveWeeks delta) =
      { g with selection := Halt.stateAfter g.selection (g.selection.moveBy g.axis delta) } :=
  Halt.stateAfter_map (fun selection ↦ { g with selection }) g.selection _

/-- A stretch along the weeks stretches the selection. -/
theorem stateAfter_extendWeeks (g : Grid) (delta : Int64) :
    Halt.stateAfter g (g.extendWeeks delta) =
      { g with selection := Halt.stateAfter g.selection (g.selection.extendBy g.axis delta) } :=
  Halt.stateAfter_map (fun selection ↦ { g with selection }) g.selection _

/-- A vertical move selects the same week of another row, if anything. -/
theorem stateAfter_moveRows (g : Grid) (delta : Int64) :
    Halt.stateAfter g (g.moveRows delta) = g ∨
      ∃ (focus : Cell) (row : RowKey), g.roster.neighbor focus.row delta = .ok (some row) ∧
        Halt.stateAfter g (g.moveRows delta) =
          { g with selection := g.selection.pick { focus with row } } := by
  unfold moveRows
  split
  · next focus _ =>
    rcases Halt.stateAfter_elim g (g.roster.neighbor focus.row delta) fun row ↦
      { g with selection := g.selection.pick { focus with row } } with hstays | ⟨row, hrow, hmoves⟩
    · exact .inl hstays
    · exact .inr ⟨focus, row, hrow, hmoves⟩
  · exact .inl rfl

/-- A gesture changes nothing but what is selected, edited, limited to and told. -/
theorem exists_gesture (g : Grid) (m : Gesture) : ∃ selection edit? filter events,
    m.perform g = { g with selection, edit?, filter, events } := by
  cases m with
  | moveWeeks delta => exact ⟨_, _, _, _, g.stateAfter_moveWeeks delta⟩
  | extendWeeks delta => exact ⟨_, _, _, _, g.stateAfter_extendWeeks delta⟩
  | moveRows delta =>
    rcases g.stateAfter_moveRows delta with hstays | ⟨_, _, -, hmoves⟩
    · exact ⟨_, _, _, _, hstays⟩
    · exact ⟨_, _, _, _, hmoves⟩
  | startEdit =>
    simp only [Gesture.perform, startEdit]
    split
    · exact ⟨_, _, _, _, rfl⟩
    · exact ⟨_, _, _, _, rfl⟩
  | startTyped c =>
    simp only [Gesture.perform, startTyped]
    split
    · split
      · exact ⟨_, _, _, _, rfl⟩
      · exact ⟨_, _, _, _, rfl⟩
    · exact ⟨_, _, _, _, rfl⟩
  | _ => exact ⟨_, _, _, _, rfl⟩

/-- A gesture leaves rows and totals alone. -/
theorem sheet_gesture (g : Grid) (m : Gesture) : (m.perform g).sheet = g.sheet := by
  obtain ⟨_, _, _, _, hgesture⟩ := g.exists_gesture m
  rw [hgesture]

/-- An arrow key moves the selection, if anything. -/
theorem exists_arrow (g : Grid) (d : Direction) (shift : Bool) :
    ∃ selection, g.arrow d shift = { g with selection } := by
  unfold arrow
  split
  · exact ⟨_, g.stateAfter_moveWeeks d.delta⟩
  · exact ⟨_, g.stateAfter_extendWeeks d.delta⟩
  · rcases g.stateAfter_moveRows d.delta with hstays | ⟨_, _, -, hmoves⟩
    · exact ⟨g.selection, hstays⟩
    · exact ⟨_, hmoves⟩
  · exact ⟨g.selection, rfl⟩

/-- Writing hours is a write that nothing interrupts, also when no row is held. -/
theorem applyHours_eq_write (g : Grid) (b : Backend σ) (cells : List Cell) (value : Float)
    (s : σ) :
    ((g.applyHours b cells value s).grid.sheet, (g.applyHours b cells value s).backend) =
      g.sheet.write b cells (Hours.clamp g.hoursCap value) s := by
  unfold applyHours prepareHours Sheet.write
  dsimp only
  split
  · next hempty =>
    have hnone : (g.sheet.prepare cells (Hours.clamp g.hoursCap value)).1.plans = [] :=
      List.isEmpty_iff.mp hempty
    simp only [PreparedWrite.send, hnone, SentWrite.settle, SentWrite.settled, List.zip_nil_left,
      List.foldl_nil]
  · rfl

/-- Writing hours reports what settling reports, also when no row is held. -/
theorem result_applyHours (g : Grid) (b : Backend σ) (cells : List Cell) (value : Float) (s : σ) :
    (g.applyHours b cells value s).result =
      ((g.sheet.prepare cells (Hours.clamp g.hoursCap value)).1.send b s).1.report := by
  unfold applyHours prepareHours
  dsimp only
  split
  · next hempty =>
    have hnone : (g.sheet.prepare cells (Hours.clamp g.hoursCap value)).1.plans = [] :=
      List.isEmpty_iff.mp hempty
    simp only [PreparedWrite.send, hnone, SentWrite.report, SentWrite.settled, List.zip_nil_left,
      List.foldl_nil]
  · rfl

/-- A commit either leaves rows, totals and the backend alone or is a write. -/
theorem commit_eq_write (g : Grid) (b : Backend σ) (s : σ) :
    ((g.commit b s).grid.sheet, (g.commit b s).backend) = (g.sheet, s) ∨
      ∃ cells value, ((g.commit b s).grid.sheet, (g.commit b s).backend) =
        g.sheet.write b cells value s := by
  unfold commit
  split
  · exact .inl rfl
  · next edit _ =>
    dsimp only
    split
    · exact .inl rfl
    · next cells _ =>
      refine .inr ⟨cells, Hours.clamp g.hoursCap (Hours.ofTyped g.hoursCap edit.raw), ?_⟩
      rw [show g.sheet = g.cancelEdit.sheet from rfl,
        show g.hoursCap = g.cancelEdit.hoursCap from rfl, ← applyHours_eq_write]
      split
      · rfl
      · rfl

/-- An input without a commit leaves rows, totals and the backend alone. -/
theorem handle_eq_commit (g : Grid) (b : Backend σ) (i : Input) (s : σ) :
    ((g.handle b i s).grid.sheet, (g.handle b i s).backend) = (g.sheet, s) ∨
      ((g.handle b i s).grid.sheet, (g.handle b i s).backend) =
        ((g.commit b s).grid.sheet, (g.commit b s).backend) := by
  cases i with
  | blur => exact .inr rfl
  | doubleClick cell =>
    exact .inl (congrArg (·, s) ((g.select cell false).sheet_gesture .startEdit))
  | key key =>
    unfold handle handleKey
    dsimp only
    split
    · cases key with
      | enter => exact .inr rfl
      | _ => exact .inl rfl
    · cases key with
      | char c =>
        simp only [selectionKey]
        split
        · exact .inl (congrArg (·, s) (g.sheet_gesture (.startTyped c)))
        · exact .inl rfl
      | enter => exact .inl (congrArg (·, s) (g.sheet_gesture .startEdit))
      | arrow d shift =>
        simp only [selectionKey, arrow]
        split
        · exact .inl (congrArg (·, s) (g.sheet_gesture (.moveWeeks d.delta)))
        · exact .inl (congrArg (·, s) (g.sheet_gesture (.extendWeeks d.delta)))
        · exact .inl (congrArg (·, s) (g.sheet_gesture (.moveRows d.delta)))
        · exact .inl rfl
      | _ => exact .inl rfl
  | _ => exact .inl rfl

/-- An input either leaves rows, totals and the backend alone or is a write. -/
theorem handle_eq_write (g : Grid) (b : Backend σ) (i : Input) (s : σ) :
    ((g.handle b i s).grid.sheet, (g.handle b i s).backend) = (g.sheet, s) ∨
      ∃ cells value, ((g.handle b i s).grid.sheet, (g.handle b i s).backend) =
        g.sheet.write b cells value s := by
  rcases g.handle_eq_commit b i s with h | h
  · exact .inl h
  · rw [h]
    exact g.commit_eq_write b s

end Grid

end AssignmentGrid
