import AssignmentGrid.Proofs.CommandParts
import AssignmentGrid.Proofs.DataRequests

/-!
# Parts of a command and what they write

A part of a command may write no data at all, whether it succeeds or fails. Or it makes a single
attempt to write, and ends well if the attempt has succeeded. What comes before an attempt must
write nothing, and what comes after it may only print.
-/

namespace AssignmentGrid.Cli

open Http (Attempt Connection Recorded)

variable {τ α β : Type}

namespace Run

variable {c : Context (Recorded τ)} {s : Session (Recorded τ)}

/-! ### Parts that write no data -/

/-- Whether a part of a command writes no data, where none were written before it. -/
def Silent (m : Run (Recorded τ) α) (c : Context (Recorded τ)) : Prop :=
  ∀ s, s.connection.written = [] →
    m.Ends c s (fun _ s ↦ s.connection.written = []) fun s ↦ s.connection.written = []

namespace Silent

theorem written_eq_nil {m : Run (Recorded τ) α} {a : α} {s' : Session (Recorded τ)}
    (h : m.Silent c) (hs : s.connection.written = []) (hm : m.outcome c s = (.ok a, s')) :
    s'.connection.written = [] := by
  have hends := h s hs
  unfold Ends at hends
  rw [hm] at hends
  exact hends

theorem of_ok {m : Run (Recorded τ) α}
    (h : ∀ s, ∃ a s', m.outcome c s = (.ok a, s') ∧ s'.connection = s.connection) : m.Silent c := by
  intro s hs
  obtain ⟨a, s', hm, hconnection⟩ := h s
  exact .of_ok hm (hconnection ▸ hs)

theorem pure (a : α) : (Pure.pure a : Run (Recorded τ) α).Silent c :=
  of_ok fun s ↦ ⟨a, s, rfl, rfl⟩

theorem throw {f : Failure} (hcode : f.code ≠ ExitCode.success) :
    (MonadExcept.throw f : Run (Recorded τ) α).Silent c :=
  fun _ hs ↦ .of_error rfl hcode hs

theorem read : (MonadReader.read : Run (Recorded τ) (Context (Recorded τ))).Silent c :=
  of_ok fun s ↦ ⟨c, s, rfl, rfl⟩

theorem get : (MonadState.get : Run (Recorded τ) (Session (Recorded τ))).Silent c :=
  of_ok fun s ↦ ⟨s, s, rfl, rfl⟩

theorem grid : (Run.grid : Run (Recorded τ) Grid).Silent c :=
  of_ok fun s ↦ ⟨s.grid, s, rfl, rfl⟩

theorem liftM {e : Except Failure α} (hcode : ∀ f, e = .error f → f.code ≠ ExitCode.success) :
    (MonadLiftT.monadLift e : Run (Recorded τ) α).Silent c := by
  intro s hs
  cases e with
  | ok a => exact .of_ok (outcome_liftM _) hs
  | error f => exact .of_error (outcome_liftM _) (hcode f rfl) hs

theorem bind {m : Run (Recorded τ) α} {k : α → Run (Recorded τ) β} (hm : m.Silent c)
    (hk : ∀ a, (k a).Silent c) : (m >>= k).Silent c :=
  fun s hs ↦ (hm s hs).bind fun a s' hs' ↦ hk a s' hs'

theorem discard {m : Run (Recorded τ) α} (hm : m.Silent c) :
    (Functor.discard m).Silent c := by
  rw [discard_eq]
  exact hm.bind fun _ ↦ pure _

theorem of_prints {m : Run (Recorded τ) Unit} (hm : m.Prints) : m.Silent c := by
  refine of_ok fun s ↦ ?_
  obtain ⟨out, err, h⟩ := hm c s
  exact ⟨(), _, h, rfl⟩

theorem forM {xs : List α} {f : α → Run (Recorded τ) Unit} (hf : ∀ x, (f x).Silent c) :
    (xs.forM f).Silent c := by
  induction xs with
  | nil => exact pure ()
  | cons x rest ih => exact (hf x).bind fun _ ↦ ih

theorem showEvents : (Run.showEvents : Run (Recorded τ) Unit).Silent c := by
  refine of_ok fun s ↦ ?_
  obtain ⟨out, err, h⟩ := outcome_showEvents c s
  exact ⟨(), _, h, rfl⟩

theorem orFail (result : Except GridError α) :
    (Run.orFail result : Run (Recorded τ) α).Silent c := by
  cases result with
  | ok a => exact pure a
  | error e => exact throw (Failure.ofGrid_ne_success e)

theorem call {operation : Grid → Connection (Recorded τ) → Reply (Connection (Recorded τ)) α}
    (h : ∀ g s, s.written = [] → (operation g s).backend.written = []) :
    (Run.call operation).Silent c :=
  fun s hs ↦ .of_ok (outcome_call operation) (h s.grid s.connection hs)

theorem perform {operation : Grid → Connection (Recorded τ) →
      Reply (Connection (Recorded τ)) (Except GridError α)}
    (h : ∀ g s, s.written = [] → (operation g s).backend.written = []) :
    (Run.perform operation).Silent c :=
  (call h).bind fun result ↦ showEvents.bind fun _ ↦ orFail result

end Silent

/-! ### Parts that attempt to write -/

/-- Whether a part of a command that begins in a session makes at most one attempt to write, and
ends well if the attempt has succeeded. -/
def Attempts (m : Run (Recorded τ) α) (c : Context (Recorded τ)) (s : Session (Recorded τ))
    (asks : Http.Ask → Prop) : Prop :=
  m.Ends c s (fun _ s ↦ Attempt asks True s.connection.written)
    fun s ↦ Attempt asks False s.connection.written

namespace Attempts

variable {asks : Http.Ask → Prop} {m : Run (Recorded τ) α} {k : α → Run (Recorded τ) β}

/-- Before the attempt no data are written. -/
theorem after {done : α → Session (Recorded τ) → Prop}
    (hm : m.Ends c s done fun s ↦ s.connection.written = [])
    (hk : ∀ a s, done a s → (k a).Attempts c s asks) : (m >>= k).Attempts c s asks :=
  (hm.mono (fun _ _ h ↦ h) fun _ hs ↦ hs ▸ .unsent id).bind hk

/-- After the attempt something is printed. -/
theorem before_prints {k : α → Run (Recorded τ) Unit} (hm : m.Attempts c s asks)
    (hk : ∀ a, (k a).Prints) : (m >>= k).Attempts c s asks := by
  refine hm.bind fun a s' hs' ↦ ?_
  obtain ⟨out, err, h⟩ := hk a c s'
  exact .of_ok h hs'

/-- An operation of the grid that makes an attempt to write. -/
theorem perform {operation : Grid → Connection (Recorded τ) →
      Reply (Connection (Recorded τ)) (Except GridError α)}
    (h : Attempt asks (∃ a, (operation s.grid s.connection).result = .ok a)
      (operation s.grid s.connection).backend.written) :
    (Run.perform operation).Attempts c s asks := by
  obtain ⟨out, err, hperformed⟩ := outcome_perform operation c s
  -- the part ends well if the operation succeeds, and this it does if the attempt has succeeded
  cases hresult : (operation s.grid s.connection).result with
  | ok a =>
    rw [hresult] at h hperformed
    exact .of_ok hperformed (h.of_iff (iff_of_true trivial ⟨a, rfl⟩))
  | error e =>
    rw [hresult] at h hperformed
    exact .of_error hperformed (Failure.ofGrid_ne_success e)
      (h.of_iff (iff_of_false id nofun))

end Attempts

end Run

end AssignmentGrid.Cli
