import AssignmentGrid.Proofs.Action
import AssignmentGrid.Proofs.SelectedBlock

/-!
# Beside the loads

What a load has brought and how far it has come changes only by the pieces of a load. Everything
else that can happen to a grid, selecting, editing and writing as well as single rows that are
fetched, created or deleted, goes on beside the loads: it leaves the axis, the projects and the
state of the load alone, tells nothing of a load, and keeps the selection in shape.
-/

namespace AssignmentGrid

/-- Whether an event tells of a load. -/
def Event.isOfLoad : Event → Bool
  | .progress _ _ | .loaded _ _ => true
  | .notice _ _ | .analyticsInvalidated => false

/-- No event of a report tells of a load. -/
theorem WriteReport.isOfLoad_of_mem_events {r : WriteReport} {e : Event} (h : e ∈ r.events) :
    e.isOfLoad = false := by
  rw [WriteReport.events, List.mem_append] at h
  rcases h with h | h
  · split at h
    · cases h
    · rw [List.mem_singleton.mp h]
      rfl
  · split at h
    · cases h
    · rw [List.mem_singleton.mp h]
      rfl

namespace Grid

/-- A later grid whose loads are as before. -/
structure BesideLoads (g later : Grid) : Prop where
  axis : later.axis = g.axis
  projects : later.projects = g.projects
  loadState : later.loadState = g.loadState
  generation : later.generation = g.generation
  request : later.request = g.request
  /-- Events have been put behind those in the queue, none of which tells of a load. -/
  events : ∃ new, later.events = g.events ++ new ∧ ∀ e ∈ new, e.isOfLoad = false
  /-- A selection in shape is still in shape. -/
  selection : g.selection.Coherent g.axis → later.selection.Coherent later.axis

namespace BesideLoads

variable {g : Grid}

@[refl] theorem refl (g : Grid) : g.BesideLoads g where
  axis := rfl
  projects := rfl
  loadState := rfl
  generation := rfl
  request := rfl
  events := ⟨[], (List.append_nil _).symm, nofun⟩
  selection := id

theorem trans {next later : Grid} (h : g.BesideLoads next) (h' : next.BesideLoads later) :
    g.BesideLoads later where
  axis := h'.axis.trans h.axis
  projects := h'.projects.trans h.projects
  loadState := h'.loadState.trans h.loadState
  generation := h'.generation.trans h.generation
  request := h'.request.trans h.request
  events := by
    obtain ⟨new, hnew, hquiet⟩ := h.events
    obtain ⟨more, hmore, hquiet'⟩ := h'.events
    refine ⟨new ++ more, by rw [hmore, hnew, List.append_assoc], ?_⟩
    intro e he
    rcases List.mem_append.mp he with he | he
    · exact hquiet e he
    · exact hquiet' e he
  selection := h'.selection ∘ h.selection

/-! ### Fields -/

theorem of_sheet (g : Grid) (sheet : Sheet) : g.BesideLoads { g with sheet } := { refl g with }

theorem of_edit (g : Grid) (edit? : Option CellEdit) : g.BesideLoads { g with edit? } :=
  { refl g with }

theorem of_selection {selection : Selection}
    (h : g.selection.Coherent g.axis → selection.Coherent g.axis) :
    g.BesideLoads { g with selection } :=
  { refl g with selection := h }

theorem emit {e : Event} (h : e.isOfLoad = false) : g.BesideLoads (g.emit e) :=
  { refl g with
    events := by
      refine ⟨[e], rfl, ?_⟩
      intro e' he'
      rw [List.mem_singleton.mp he']
      exact h }

theorem complain (g : Grid) (message : String) : g.BesideLoads (g.complain message) := emit rfl

theorem dropDangling (g : Grid) : g.BesideLoads g.dropDangling :=
  { refl g with
    selection := by
      intro h
      unfold Grid.dropDangling
      dsimp only
      split
      · exact h
      · exact .nothing }

/-! ### Gestures -/

theorem select (g : Grid) (cell : Cell) (extend : Bool) : g.BesideLoads (g.select cell extend) :=
  of_selection fun h ↦ h.select cell extend

theorem moveRows (g : Grid) (delta : Int64) :
    g.BesideLoads (Halt.stateAfter g (g.moveRows delta)) := by
  rcases g.stateAfter_moveRows delta with hstays | ⟨_, _, -, hmoves⟩
  · rw [hstays]
  · rw [hmoves]
    exact of_selection fun _ ↦ .pick _ _

theorem startEdit (g : Grid) : g.BesideLoads g.startEdit.2 := by
  unfold Grid.startEdit
  split
  · rfl
  · exact of_edit _ _

theorem startTyped (g : Grid) (c : Char) : g.BesideLoads (g.startTyped c).2 := by
  unfold Grid.startTyped
  split
  · split
    · exact of_edit _ _
    · rfl
  · rfl

/-- Every gesture but taking out the events goes on beside the loads. -/
theorem gesture (g : Grid) {m : Gesture} (h : m ≠ .drain) : g.BesideLoads (m.perform g) := by
  cases m with
  | select cell extend => exact select g cell extend
  | beginDrag cell => exact of_selection fun _ ↦ .begun cell true
  | dragTo cell => exact of_selection fun h ↦ h.dragTo cell
  | endDrag => exact of_selection Selection.Coherent.endDrag
  | moveWeeks delta =>
    rw [Gesture.perform, stateAfter_moveWeeks]
    exact of_selection fun h ↦ h.moveBy delta
  | extendWeeks delta =>
    rw [Gesture.perform, stateAfter_extendWeeks]
    exact of_selection fun h ↦ h.extendBy delta
  | moveRows delta => exact moveRows g delta
  | clearSelection => exact of_selection fun _ ↦ .nothing
  | startEdit => exact startEdit g
  | startTyped c => exact startTyped g c
  | setText text => exact of_edit _ _
  | cancelEdit => exact of_edit _ _
  | setFilter filter => exact { refl g with }
  | drain => exact absurd rfl h

/-! ### Writes -/

theorem prepareHours (g : Grid) (cells : List Cell) (value : Float) :
    g.BesideLoads (g.prepareHours cells value).2 :=
  of_sheet g _

theorem settleHours (g : Grid) (w : SentWrite) : g.BesideLoads (g.settleHours w).2 :=
  { refl g with events := ⟨w.report.events, rfl, fun _ ↦ WriteReport.isOfLoad_of_mem_events⟩ }

variable {σ : Type} (b : Backend σ) (s : σ)

theorem applyHours (g : Grid) (cells : List Cell) (value : Float) :
    g.BesideLoads (g.applyHours b cells value s).grid := by
  unfold Grid.applyHours
  dsimp only
  split
  · exact prepareHours g cells value
  · exact (prepareHours g cells value).trans (settleHours _ _)

theorem commit (g : Grid) : g.BesideLoads (g.commit b s).grid := by
  unfold Grid.commit
  split
  · rfl
  · next edit _ =>
    dsimp only
    have hclosed : g.BesideLoads g.cancelEdit := of_edit g none
    split
    · exact hclosed.trans (complain _ _)
    · next cells _ =>
      have hwritten := hclosed.trans
        (applyHours b s g.cancelEdit cells (Hours.ofTyped g.hoursCap edit.raw))
      split
      · exact hwritten.trans (select _ _ _)
      · exact hwritten

theorem selectionKey (g : Grid) (key : Key) : g.BesideLoads (g.selectionKey key) := by
  cases key with
  | char c =>
    unfold Grid.selectionKey
    dsimp only
    split
    · exact startTyped g c
    · rfl
  | backspace => rfl
  | enter => exact startEdit g
  | escape => exact gesture g (m := .clearSelection) nofun
  | arrow d shift =>
    unfold Grid.selectionKey Grid.arrow
    dsimp only
    split
    · exact gesture g (m := .moveWeeks d.delta) nofun
    · exact gesture g (m := .extendWeeks d.delta) nofun
    · exact moveRows g d.delta
    · rfl

theorem handleKey (g : Grid) (key : Key) : g.BesideLoads (g.handleKey b key s).grid := by
  unfold Grid.handleKey
  split
  · cases key with
    | char c => exact of_edit g _
    | backspace => exact of_edit g _
    | enter => exact commit b s g
    | escape => exact of_edit g _
    | arrow d shift => rfl
  · exact selectionKey g key

theorem handle (g : Grid) (input : Input) : g.BesideLoads (g.handle b input s).grid := by
  cases input with
  | click cell => exact select g cell false
  | shiftClick cell => exact select g cell true
  | mouseDown cell => exact gesture g (m := .beginDrag cell) nofun
  | mouseEnter cell => exact gesture g (m := .dragTo cell) nofun
  | mouseUp => exact gesture g (m := .endDrag) nofun
  | doubleClick cell => exact (select g cell false).trans (startEdit _)
  | key key => exact handleKey b s g key
  | blur => exact commit b s g

/-! ### Rows -/

theorem takeRows (g : Grid) (p : PersonId) (rows : List Assignment) :
    g.BesideLoads (g.takeRows p rows) :=
  (of_sheet g _).trans (dropDangling _)

theorem refresh (g : Grid) (p : PersonId) : g.BesideLoads (g.refresh b p s).grid := by
  unfold Grid.refresh
  split
  · exact takeRows g p _
  · exact complain g _

theorem expand (g : Grid) (p : PersonId) : g.BesideLoads (g.expand b p s).grid := by
  unfold Grid.expand
  split
  · rfl
  · split
    · rfl
    · exact refresh b s g p

theorem assign (g : Grid) (p : PersonId) (project : ProjectId) :
    g.BesideLoads (g.assign b p project s).grid := by
  unfold Grid.assign
  split
  · rfl
  · split
    · exact (of_sheet g _).trans (emit rfl)
    · exact complain g _

theorem unassign (g : Grid) (id : AssignmentId) : g.BesideLoads (g.unassign b id s).grid := by
  unfold Grid.unassign
  split
  · rfl
  · split
    · exact ((of_sheet g _).trans (dropDangling _)).trans (emit rfl)
    · exact complain g _

end BesideLoads

end Grid

end AssignmentGrid
