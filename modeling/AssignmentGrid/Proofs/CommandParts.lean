import AssignmentGrid.Cli.Program

/-!
# Parts of a command

A command is made of parts that follow each other until one of them fails. What holds after a part
is said once for its value and once for its failure; both are handed on from part to part.
-/

namespace AssignmentGrid.Cli

variable {τ α β : Type}

/-! ### Codes -/

theorem ExitCode.usage_ne_success : usage ≠ success := by decide

theorem ExitCode.rowsFailed_ne_success : rowsFailed ≠ success := by decide

theorem backendCode_ne_success (e : BackendError) : backendCode e ≠ ExitCode.success := by
  unfold backendCode
  split
  case h_2 =>
    split
    · decide
    · decide
  all_goals decide

namespace Failure

theorem ofBackend_ne_success (e : BackendError) : (ofBackend e).code ≠ ExitCode.success :=
  backendCode_ne_success e

theorem ofGrid_ne_success (e : GridError) : (ofGrid e).code ≠ ExitCode.success := by
  change gridCode e ≠ ExitCode.success
  unfold gridCode
  split
  case h_3 e => exact backendCode_ne_success e
  case h_4 e => exact backendCode_ne_success e
  all_goals decide

end Failure

namespace Run

/-- What comes of a part of a command in a session, and the session after it. -/
def outcome (m : Run τ α) (c : Context τ) (s : Session τ) : Except Failure α × Session τ :=
  (m.run c).run.run s

variable {c : Context τ} {s : Session τ}

/-! ### Outcomes -/

theorem outcome_bind (m : Run τ α) (k : α → Run τ β) :
    (m >>= k).outcome c s =
      match m.outcome c s with
      | (.ok a, s) => (k a).outcome c s
      | (.error f, s) => (.error f, s) := by
  change (ExceptT.bindCont (fun a ↦ (k a).run c) (m.outcome c s).1).run (m.outcome c s).2 = _
  rcases m.outcome c s with ⟨f | a, s'⟩
  · rfl
  · rfl

/-- A part that succeeds is followed by the next one. -/
theorem outcome_bind_of_ok {m : Run τ α} {a : α} {s' : Session τ} (h : m.outcome c s = (.ok a, s'))
    (k : α → Run τ β) : (m >>= k).outcome c s = (k a).outcome c s' := by
  rw [outcome_bind, h]

/-- A part that succeeds has been followed to its end. -/
theorem outcome_bind_eq_ok_iff {m : Run τ α} {k : α → Run τ β} {b : β} {s' : Session τ} :
    (m >>= k).outcome c s = (.ok b, s') ↔
      ∃ a s₁, m.outcome c s = (.ok a, s₁) ∧ (k a).outcome c s₁ = (.ok b, s') := by
  rw [outcome_bind]
  constructor
  · intro h
    split at h
    · next a s₁ hm => exact ⟨a, s₁, hm, h⟩
    · cases h
  · rintro ⟨a, s₁, hm, hk⟩
    rw [hm]
    exact hk

@[simp] theorem outcome_read : (read : Run τ (Context τ)).outcome c s = (.ok c, s) := rfl

@[simp] theorem outcome_get : (get : Run τ (Session τ)).outcome c s = (.ok s, s) := rfl

@[simp] theorem outcome_grid : (grid : Run τ Grid).outcome c s = (.ok s.grid, s) := rfl

@[simp] theorem outcome_liftM (e : Except Failure α) :
    (liftM e : Run τ α).outcome c s = (e, s) := by
  cases e with
  | ok a => rfl
  | error f => rfl

theorem outcome_liftM_of_ok {e : Except Failure α} {a : α} (h : e = .ok a) :
    (liftM e : Run τ α).outcome c s = (.ok a, s) := by
  rw [outcome_liftM, h]

@[simp] theorem outcome_modifyGrid (f : Grid → Grid) :
    (modifyGrid f : Run τ Unit).outcome c s = (.ok (), { s with grid := f s.grid }) := rfl

theorem discard_eq (m : Run τ α) : discard m = m >>= fun _ ↦ pure PUnit.unit := by
  unfold discard
  rw [map_const, Function.comp_apply, map_eq_pure_bind]

theorem outcome_call (operation : Grid → Http.Connection τ → Reply (Http.Connection τ) α) :
    (call operation).outcome c s =
      (.ok (operation s.grid s.connection).result,
        { s with
          grid := (operation s.grid s.connection).grid
          connection := (operation s.grid s.connection).backend }) := rfl

/-! ### Ends -/

/-- Whether a part of a command ends in one of two ways: with a value and a session as `done` says,
or with a failure, whose code is not that of success, and a session as `failed` says. -/
def Ends (m : Run τ α) (c : Context τ) (s : Session τ) (done : α → Session τ → Prop)
    (failed : Session τ → Prop) : Prop :=
  match m.outcome c s with
  | (.ok a, s) => done a s
  | (.error f, s) => f.code ≠ ExitCode.success ∧ failed s

namespace Ends

variable {m : Run τ α} {k : α → Run τ β} {s' : Session τ} {done : α → Session τ → Prop}
  {later : β → Session τ → Prop} {failed : Session τ → Prop}

theorem of_ok {a : α} (h : m.outcome c s = (.ok a, s')) (hdone : done a s') :
    m.Ends c s done failed := by
  unfold Ends
  rw [h]
  exact hdone

theorem of_error {f : Failure} (h : m.outcome c s = (.error f, s'))
    (hcode : f.code ≠ ExitCode.success) (hfailed : failed s') : m.Ends c s done failed := by
  unfold Ends
  rw [h]
  exact ⟨hcode, hfailed⟩

theorem mono {done' : α → Session τ → Prop} {failed' : Session τ → Prop}
    (h : m.Ends c s done failed) (hdone : ∀ a s, done a s → done' a s)
    (hfailed : ∀ s, failed s → failed' s) : m.Ends c s done' failed' := by
  unfold Ends at h ⊢
  split at h
  · exact hdone _ _ h
  · exact ⟨h.1, hfailed _ h.2⟩

/-- A part that ends is followed by another one unless it fails. -/
theorem bind (h : m.Ends c s done failed)
    (hk : ∀ a s, done a s → (k a).Ends c s later failed) : (m >>= k).Ends c s later failed := by
  unfold Ends at h
  unfold Ends
  rw [outcome_bind]
  split at h
  · exact hk _ _ h
  · exact h

/-- A part whose outcome is known is followed by the next one. -/
theorem next {a : α} (h : m.outcome c s = (.ok a, s')) (hk : (k a).Ends c s' later failed) :
    (m >>= k).Ends c s later failed := by
  unfold Ends
  rw [outcome_bind_of_ok h]
  exact hk

end Ends

/-! ### What is printed -/

/-- Whether a part of a command does nothing but print. -/
def Prints (m : Run τ Unit) : Prop :=
  ∀ c s, ∃ out err, m.outcome c s = (.ok (), { s with out, err })

namespace Prints

theorem pure : (Pure.pure () : Run τ Unit).Prints := fun _ s ↦ ⟨s.out, s.err, rfl⟩

theorem tell (text : String) : (Run.tell text : Run τ Unit).Prints := fun _ _ ↦ ⟨_, _, rfl⟩

theorem printLine (line : String) : (Run.printLine line : Run τ Unit).Prints :=
  fun _ _ ↦ ⟨_, _, rfl⟩

theorem bind {m : Run τ Unit} {k : Unit → Run τ Unit} (hm : m.Prints) (hk : (k ()).Prints) :
    (m >>= k).Prints := by
  intro c s
  obtain ⟨out, err, hfirst⟩ := hm c s
  obtain ⟨out', err', hrest⟩ := hk c { s with out, err }
  exact ⟨out', err', (outcome_bind_of_ok hfirst _).trans hrest⟩

theorem of_grid {k : Grid → Run τ Unit} (hk : ∀ g, (k g).Prints) : (grid >>= k).Prints := by
  intro c s
  rw [outcome_bind_of_ok outcome_grid]
  exact hk s.grid c s

theorem log (level : LogLevel) (message : String) :
    (Run.log level message : Run τ Unit).Prints := by
  intro c s
  unfold Run.log
  rw [outcome_bind_of_ok outcome_read]
  split
  · exact tell _ c s
  · exact pure c s

theorem forM {xs : List α} {f : α → Run τ Unit} (h : ∀ x, (f x).Prints) : (xs.forM f).Prints := by
  induction xs with
  | nil => exact pure
  | cons x rest ih => exact (h x).bind ih

/-- What is printed after a part is not sent. -/
theorem connection_bind {m : Run τ α} {k : α → Run τ Unit} (hk : ∀ a, (k a).Prints)
    (c : Context τ) (s : Session τ) :
    ((m >>= k).outcome c s).2.connection = (m.outcome c s).2.connection := by
  rw [outcome_bind]
  split
  · next a s' hm =>
    obtain ⟨out, err, h⟩ := hk a c s'
    rw [h, hm]
  · next f s' hm => rw [hm]

end Prints

/-- Showing the events takes them out of the grid. -/
theorem outcome_showEvents (c : Context τ) (s : Session τ) :
    ∃ out err, (showEvents : Run τ Unit).outcome c s =
      (.ok (), { s with grid := s.grid.drain.2, out, err }) := by
  unfold showEvents
  rw [outcome_bind_of_ok outcome_grid]
  dsimp only
  rw [outcome_bind_of_ok (outcome_modifyGrid _)]
  exact Prints.forM (fun line ↦ Prints.tell _) c _

/-- Whether an operation succeeds, the session holds what it gives, and its events are taken out. -/
theorem outcome_perform (operation : Grid → Http.Connection τ →
      Reply (Http.Connection τ) (Except GridError α)) (c : Context τ) (s : Session τ) :
    let reply := operation s.grid s.connection
    ∃ out err, (perform operation).outcome c s =
      (reply.result.mapError Failure.ofGrid,
        { s with grid := reply.grid.drain.2, connection := reply.backend, out, err }) := by
  intro reply
  obtain ⟨out, err, hshown⟩ := outcome_showEvents c
    { s with grid := reply.grid, connection := reply.backend }
  refine ⟨out, err, ?_⟩
  unfold perform
  rw [outcome_bind_of_ok (outcome_call operation), outcome_bind_of_ok hshown]
  rw [show (operation s.grid s.connection).result = reply.result from rfl]
  cases reply.result with
  | ok a => rfl
  | error e => rfl

/-- An operation that fails without the backend fails the command, and nothing is sent. -/
theorem exists_outcome_perform (operation : Grid → Http.Connection τ →
      Reply (Http.Connection τ) (Except GridError α)) (c : Context τ) (s : Session τ)
    {e : GridError} (h : operation s.grid s.connection = ⟨.error e, s.grid, s.connection⟩) :
    ∃ s', (perform operation).outcome c s = (.error (.ofGrid e), s') ∧
      s'.connection = s.connection := by
  obtain ⟨out, err, hperformed⟩ := outcome_perform operation c s
  rw [h] at hperformed
  exact ⟨_, hperformed, rfl⟩

/-! ### Failing alike -/

/-- Whether a part of a command fails wherever another one does, for the same reason and with the
same requests sent. -/
def FailsLike (m : Run τ α) (l : Run τ β) : Prop :=
  ∀ c s f s', l.outcome c s = (.error f, s') →
    ∃ s'', m.outcome c s = (.error f, s'') ∧ s''.connection = s'.connection

namespace FailsLike

theorem refl (m : Run τ α) : m.FailsLike m := fun _ _ _ s' h ↦ ⟨s', h, rfl⟩

theorem before {m : Run τ α} {l : Run τ β} {γ : Type} (h : m.FailsLike l) (k : α → Run τ γ) :
    (m >>= k).FailsLike l := by
  intro c s f s' hl
  obtain ⟨s'', hm, hs⟩ := h c s f s' hl
  refine ⟨s'', ?_, hs⟩
  rw [outcome_bind, hm]

theorem bind {m : Run τ α} {γ : Type} {k : α → Run τ β} {l : α → Run τ γ}
    (h : ∀ a, (k a).FailsLike (l a)) : (m >>= k).FailsLike (m >>= l) := by
  intro c s f s' hl
  rw [outcome_bind] at hl ⊢
  split at hl
  · next a s₁ hm => exact h a c s₁ f s' hl
  · next f' s₁ hm =>
    cases hl
    exact ⟨s', rfl, rfl⟩

end FailsLike

end Run

end AssignmentGrid.Cli
