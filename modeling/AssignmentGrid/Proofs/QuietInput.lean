import AssignmentGrid.Proofs.CommitTargets
import AssignmentGrid.Proofs.SheetStep

/-!
# Inputs that write nothing

Pointer and keys move the selection and open, change and close an edit. Nothing else of the grid
changes by an input and the backend is not asked, except when an open edit is committed.
Specification `SPEC_FULL.md:115–122`.
-/

namespace AssignmentGrid

variable {σ : Type}

namespace Grid

/-- A later grid that differs in the selection and in the edit at most. -/
def KeepsData (g later : Grid) : Prop :=
  ∃ selection edit?, later = { g with selection, edit? }

namespace KeepsData

variable {g : Grid}

@[refl] theorem refl (g : Grid) : g.KeepsData g := ⟨g.selection, g.edit?, rfl⟩

theorem trans {next later : Grid} (h : g.KeepsData next) (h' : next.KeepsData later) :
    g.KeepsData later := by
  obtain ⟨_, _, rfl⟩ := h
  obtain ⟨selection, edit?, rfl⟩ := h'
  exact ⟨selection, edit?, rfl⟩

theorem of_selection (g : Grid) (selection : Selection) : g.KeepsData { g with selection } :=
  ⟨selection, g.edit?, rfl⟩

theorem of_edit (g : Grid) (edit? : Option CellEdit) : g.KeepsData { g with edit? } :=
  ⟨g.selection, edit?, rfl⟩

/-- Every cell shows the same hours. -/
theorem hours {later : Grid} (h : g.KeepsData later) (c : Cell) : later.hours c = g.hours c := by
  obtain ⟨_, _, rfl⟩ := h
  rfl

/-! ### Gestures -/

theorem arrow (g : Grid) (d : Direction) (shift : Bool) : g.KeepsData (g.arrow d shift) := by
  obtain ⟨selection, hselection⟩ := g.exists_arrow d shift
  rw [hselection]
  exact of_selection g selection

theorem startEdit (g : Grid) : g.KeepsData g.startEdit.2 := by
  unfold Grid.startEdit
  split
  · rfl
  · exact of_edit g _

theorem startTyped (g : Grid) (c : Char) : g.KeepsData (g.startTyped c).2 := by
  unfold Grid.startTyped
  split
  · split
    · exact of_edit g _
    · rfl
  · rfl

/-- A key without an open edit moves the selection or opens an edit. -/
theorem selectionKey (g : Grid) (key : Key) : g.KeepsData (g.selectionKey key) := by
  cases key with
  | char c =>
    unfold Grid.selectionKey
    dsimp only
    split
    · exact startTyped g c
    · rfl
  | backspace => rfl
  | enter => exact startEdit g
  | escape => exact of_selection g _
  | arrow d shift => exact arrow g d shift

end KeepsData

/-! ### One input -/

variable (g : Grid) (b : Backend σ) (s : σ)

/-- An input comes to a good end, asks the backend for nothing, and leaves all but the selection
and the edit alone. -/
structure Quiet (reply : Reply σ (Except GridError Unit)) : Prop where
  result : reply.result = .ok ()
  backend : reply.backend = s
  data : g.KeepsData reply.grid

/-- A key that does not commit the open edit writes nothing. -/
theorem quiet_editKey {key : Key} (h : key ≠ .enter) : g.Quiet s (g.editKey b key s) := by
  cases key with
  | enter => exact absurd rfl h
  | char c => exact ⟨rfl, rfl, .of_edit g _⟩
  | backspace => exact ⟨rfl, rfl, .of_edit g _⟩
  | escape => exact ⟨rfl, rfl, .of_edit g _⟩
  | arrow d shift => exact ⟨rfl, rfl, .refl g⟩

/-- When there is no edit, a commit does nothing. -/
theorem quiet_commitQuietly (h : g.edit? = none) : g.Quiet s (g.commitQuietly b s) := by
  have hnothing : g.commit b s = ⟨.ok none, g, s⟩ := by rw [commit, h]
  unfold commitQuietly
  rw [hnothing]
  exact ⟨rfl, rfl, .refl g⟩

/-- An input that does not commit an open edit writes nothing. -/
theorem quiet_handle {i : Input} (h : g.edit?.isSome = true → i.commits = false) :
    g.Quiet s (g.handle b i s) := by
  cases i with
  | doubleClick cell =>
    exact ⟨rfl, rfl, (KeepsData.of_selection g _).trans (.startEdit (g.select cell false))⟩
  | key key =>
    unfold handle handleKey
    dsimp only
    split
    · next hopen =>
      refine g.quiet_editKey b s ?_
      rintro rfl
      cases h hopen
    · exact ⟨rfl, rfl, .selectionKey g key⟩
  | blur =>
    refine g.quiet_commitQuietly b s (Option.not_isSome_iff_eq_none.mp fun hopen ↦ ?_)
    cases h hopen
  | _ => exact ⟨rfl, rfl, .of_selection g _⟩

/-- A key that belongs to an edit and does not commit it leaves the selection alone. -/
theorem selection_editKey {key : Key} (h : key ≠ .enter) :
    (g.editKey b key s).grid.selection = g.selection := by
  cases key with
  | enter => exact absurd rfl h
  | _ => rfl

variable {g} in
/-- A key that belongs to an open edit and does not end it leaves it on its cell. -/
theorem edit?_editKey {edit : CellEdit} (hedit : g.edit? = some edit) {key : Key}
    (henter : key ≠ .enter) (hescape : key ≠ .escape) :
    ∃ now, (g.editKey b key s).grid.edit? = some now ∧ now.cell = edit.cell := by
  cases key with
  | enter => exact absurd rfl henter
  | escape => exact absurd rfl hescape
  | char c => exact ⟨edit.push c, by rw [editKey, modifyEdit, hedit]; rfl, rfl⟩
  | backspace => exact ⟨edit.backspace, by rw [editKey, modifyEdit, hedit]; rfl, rfl⟩
  | arrow d shift => exact ⟨edit, hedit, rfl⟩

end Grid

/-! ### Inputs one after the other -/

/-- Inputs that commit nothing write nothing, however many there are. -/
theorem Input.keepsData_run (b : Backend σ) (g : Grid) (s : σ) {inputs : List Input}
    (h : ∀ i ∈ inputs, i.commits = false) :
    g.KeepsData (Input.run b inputs (g, s)).1 ∧ (Input.run b inputs (g, s)).2 = s := by
  induction inputs generalizing g with
  | nil => exact ⟨.refl g, rfl⟩
  | cons i rest ih =>
    have hquiet : g.Quiet s (g.handle b i s) :=
      g.quiet_handle b s fun _ ↦ h i List.mem_cons_self
    have hstep : Input.run b (i :: rest) (g, s) = Input.run b rest ((g.handle b i s).grid, s) :=
      congrArg (fun s' ↦ Input.run b rest ((g.handle b i s).grid, s')) hquiet.backend
    obtain ⟨hdata, hsame⟩ :=
      ih (g.handle b i s).grid fun j hj ↦ h j (List.mem_cons_of_mem i hj)
    rw [hstep]
    exact ⟨hquiet.data.trans hdata, hsame⟩

/-- Only a commit writes. An input that does not commit an open edit comes to a good end, calls
the backend not at all, and leaves everything but the selection and the edit alone: axis, rows,
totals, projects, the state of the load and the events. While an edit is open, a key other than
Enter and Escape leaves the selection alone too and the edit on its cell; Escape closes the edit
and keeps the selection, which it clears only when no edit is open. So no sequence of inputs
without Enter and without leaving the field calls the backend or changes the hours of a cell. -/
theorem only_commits_write (g : Grid) (b : Backend σ) (s : Logged σ) :
    (∀ i, (g.edit?.isSome = true → i.commits = false) → g.Quiet s (g.handle b.logged i s)) ∧
    (∀ edit, g.edit? = some edit → ∀ key, key ≠ .enter → key ≠ .escape →
      let later := (g.handle b.logged (.key key) s).grid
      later.selection = g.selection ∧ ∃ now, later.edit? = some now ∧ now.cell = edit.cell) ∧
    (g.handle b.logged (.key .escape) s).grid =
      (if g.edit?.isSome then { g with edit? := none } else { g with selection := {} }) ∧
    ∀ inputs : List Input, (∀ i ∈ inputs, i.commits = false) →
      let x := Input.run b.logged inputs (g, s)
      x.2 = s ∧ g.KeepsData x.1 ∧ ∀ c, x.1.hours c = g.hours c := by
  refine ⟨fun i h ↦ g.quiet_handle b.logged s h, ?_, ?_, ?_⟩
  · intro edit hedit key henter hescape
    have hkey : g.handle b.logged (.key key) s = g.editKey b.logged key s := by
      rw [Grid.handle, Grid.handleKey, hedit]
      rfl
    dsimp only
    rw [hkey]
    exact ⟨g.selection_editKey b.logged s henter,
      Grid.edit?_editKey b.logged s hedit henter hescape⟩
  · unfold Grid.handle Grid.handleKey
    dsimp only
    split
    · rfl
    · rfl
  · intro inputs h
    obtain ⟨hdata, hsame⟩ := Input.keepsData_run b.logged g s h
    exact ⟨hsame, hdata, hdata.hours⟩

/-- A cell is clicked and five hours are typed, an arrow and a click with shift come in between, and
Escape puts an end to the edit and then to the selection: nobody is called and the cell shows what
it showed before. -/
theorem only_commits_write_after_typing :
    let cell (week : String) : Cell := ⟨⟨7, 42⟩, ⟨week⟩⟩
    let script : Script :=
      { standing? := some
          { weeks := [⟨"2024-01-01"⟩, ⟨"2024-01-08"⟩]
            people := [⟨7, "Ada Park"⟩]
            rows := [{ id := 42, person := 7, project := 1
                       hours := (∅ : Hours).insert ⟨"2024-01-01"⟩ 8 }] } }
    let backend := Script.backend.logged
    let start := Action.run backend [.operation (.load {})] ({}, ⟨script, []⟩)
    let typed : List Input :=
      [.click (cell "2024-01-01"), .key (.char '5'), .key (.arrow .right false),
        .shiftClick (cell "2024-01-08")]
    let now := Input.run backend typed start
    let closed := (now.1.handle backend (.key .escape) now.2).grid
    now.1.edit? = some ⟨cell "2024-01-01", "5"⟩ ∧
      closed.edit? = none ∧ closed.selection = now.1.selection ∧
      (closed.handle backend (.key .escape) now.2).grid.selection = {} ∧
      now.2 = start.2 ∧ now.1.hours (cell "2024-01-01") = start.1.hours (cell "2024-01-01") := by
  intro cell script backend start typed now closed
  have hopen : now.1.edit?.isSome = true := by decide +kernel
  obtain ⟨-, -, -, hruns⟩ := only_commits_write start.1 Script.backend start.2
  obtain ⟨hcalls, -, hhours⟩ := hruns typed (by decide)
  have hclosed : closed = { now.1 with edit? := none } := by
    obtain ⟨-, -, hescape, -⟩ := only_commits_write now.1 Script.backend now.2
    rw [if_pos hopen] at hescape
    exact hescape
  obtain ⟨-, -, hcleared, -⟩ := only_commits_write closed Script.backend now.2
  rw [hclosed] at hcleared ⊢
  exact ⟨by decide +kernel, rfl, rfl, congrArg Grid.selection hcleared, hcalls, hhours _⟩

end AssignmentGrid
