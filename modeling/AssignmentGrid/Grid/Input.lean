import AssignmentGrid.Grid.Edit

/-!
# Input

Pointer and keyboard input. While an edit is open the keys belong to it, otherwise they move the
selection or open an edit. Specification `handle_input`, `SPEC_FULL.md:120–122,175–178,323–326`.
-/

namespace AssignmentGrid

/-- The direction of an arrow key. -/
inductive Direction where
  | left
  | right
  | up
  | down
  deriving DecidableEq, Repr

/-- Whether an arrow moves along the weeks. -/
def Direction.isHorizontal : Direction → Bool
  | left | right => true
  | up | down => false

/-- The number of weeks or rows that an arrow moves by. -/
def Direction.delta : Direction → Int64
  | left | up => -1
  | right | down => 1

/-- A key. -/
inductive Key where
  | char (c : Char)
  | backspace
  | enter
  | escape
  | arrow (direction : Direction) (shift : Bool)
  deriving DecidableEq, Repr

/-- An input of the user. Specification `GridInput`, `SPEC_FULL.md:175–178`. -/
inductive Input where
  | click (cell : Cell)
  | shiftClick (cell : Cell)
  | mouseDown (cell : Cell)
  | mouseEnter (cell : Cell)
  | mouseUp
  | doubleClick (cell : Cell)
  | key (key : Key)
  /-- The field of the edit has lost the focus. -/
  | blur
  deriving DecidableEq, Repr

namespace Grid

variable {σ : Type}

/-- An arrow key without an open edit. A range never stretches over rows, so that there is nothing
to do for shift with a vertical arrow. A step by one place does not stop in any list that fits into
memory. Specification `SPEC_FULL.md:103–105,324–326`. -/
def arrow (g : Grid) (d : Direction) (shift : Bool) : Grid :=
  match d.isHorizontal, shift with
  | true, false => Halt.stateAfter g (g.moveWeeks d.delta)
  | true, true => Halt.stateAfter g (g.extendWeeks d.delta)
  | false, false => Halt.stateAfter g (g.moveRows d.delta)
  | false, true => g

/-- Commit the open edit and keep only whether that failed. -/
def commitQuietly (g : Grid) (b : Backend σ) (s : σ) : Reply σ (Except GridError Unit) :=
  let reply := g.commit b s
  ⟨reply.result.map fun _ => (), reply.grid, reply.backend⟩

/-- A key while an edit is open. Specification `SPEC_FULL.md:122`. -/
def editKey (g : Grid) (b : Backend σ) (key : Key) (s : σ) : Reply σ (Except GridError Unit) :=
  match key with
  | .char c => ⟨.ok (), g.modifyEdit fun e => e.push c, s⟩
  | .backspace => ⟨.ok (), g.modifyEdit CellEdit.backspace, s⟩
  | .enter => g.commitQuietly b s
  | .escape => ⟨.ok (), g.cancelEdit, s⟩
  | .arrow _ _ => ⟨.ok (), g, s⟩

/-- A key while no edit is open. Specification `SPEC_FULL.md:120–122`. -/
def selectionKey (g : Grid) (key : Key) : Grid :=
  match key with
  | .char c => if Hours.isEntry c then (g.startTyped c).2 else g
  | .backspace => g
  | .enter => g.startEdit.2
  | .escape => g.clearSelection
  | .arrow d shift => g.arrow d shift

/-- A key. Operation `handle_key`, specification `SPEC_FULL.md:120–122,324–326`. -/
def handleKey (g : Grid) (b : Backend σ) (key : Key) (s : σ) : Reply σ (Except GridError Unit) :=
  if g.edit?.isSome then g.editKey b key s else ⟨.ok (), g.selectionKey key, s⟩

/-- An input. Specification `handle_input`, `SPEC_FULL.md:175–178`. -/
def handle (g : Grid) (b : Backend σ) (input : Input) (s : σ) : Reply σ (Except GridError Unit) :=
  match input with
  | .click cell => ⟨.ok (), g.select cell false, s⟩
  | .shiftClick cell => ⟨.ok (), g.select cell true, s⟩
  | .mouseDown cell => ⟨.ok (), g.beginDrag cell, s⟩
  | .mouseEnter cell => ⟨.ok (), g.dragTo cell, s⟩
  | .mouseUp => ⟨.ok (), g.endDrag, s⟩
  | .doubleClick cell => ⟨.ok (), (g.select cell false).startEdit.2, s⟩
  | .key key => g.handleKey b key s
  | .blur => g.commitQuietly b s

end Grid

end AssignmentGrid
