import Mathlib.Data.List.Induction
import AssignmentGrid.Proofs.IndependentWrites
import AssignmentGrid.Proofs.WriteEnd

/-!
# Writes under way to a server

Several writes are prepared, sent and settled side by side, and a server answers what is sent. For
the rows and totals it makes no difference when a write is sent: a run with a server is a run of
writes whose outcomes are those that the server gives in the end.
-/

namespace AssignmentGrid

/-- A value for cells. -/
structure CellWrite where
  cells : List Cell
  value : Float

/-- A step of one of several writes, the round trip to the server included. -/
inductive Leg (n : Nat) where
  | prepare (i : Fin n)
  | send (i : Fin n)
  | settle (i : Fin n)
  deriving DecidableEq

namespace Leg

variable {n : Nat}

/-- The write that takes a step. -/
def write : Leg n → Fin n
  | prepare i | send i | settle i => i

/-- How many steps of its write come before. -/
def rank : Leg n → Nat
  | prepare _ => 0
  | send _ => 1
  | settle _ => 2

/-- The step that the grid takes, if it is not only the server's. -/
def stage? : Leg n → Option (Stage n)
  | prepare i => some (.prepare i)
  | send _ => none
  | settle i => some (.settle i)

/-- The write that is sent, if one is. -/
def sent? : Leg n → Option (Fin n)
  | send i => some i
  | prepare _ | settle _ => none

@[simp] theorem write_prepare (i : Fin n) : (prepare i).write = i := rfl

@[simp] theorem write_send (i : Fin n) : (send i).write = i := rfl

@[simp] theorem write_settle (i : Fin n) : (settle i).write = i := rfl

end Leg

/-- Rows, totals and the server while writes are under way. -/
structure Traffic (σ : Type) (n : Nat) where
  sheet : Sheet
  backend : σ
  /-- The writes that were prepared. -/
  prepared? : Fin n → Option PreparedWrite := fun _ ↦ none
  /-- The writes that were sent. -/
  sent? : Fin n → Option SentWrite := fun _ ↦ none

/-- The steps of the grid among the steps of a run with a server. -/
def stagesOf {n : Nat} (legs : List (Leg n)) : List (Stage n) := legs.filterMap Leg.stage?

/-- The step of a run with a server that a step of the grid is. -/
def Stage.leg {n : Nat} : Stage n → Leg n
  | prepare i => .prepare i
  | settle i => .settle i

/-- Whether each write is prepared, sent and settled, once and in this order. -/
def IsSchedule {n : Nat} (legs : List (Leg n)) : Prop :=
  ∀ i, (legs.filter fun x ↦ x.write = i) = [.prepare i, .send i, .settle i]

namespace Traffic

variable {σ : Type} {n : Nat}

/-- The state after a step. What was not prepared is not sent, and what was not sent is not
settled. -/
def step (b : Backend σ) (writes : Fin n → CellWrite) (t : Traffic σ n) : Leg n → Traffic σ n
  | .prepare i =>
    let prepared := t.sheet.prepare (writes i).cells (writes i).value
    { t with
      sheet := prepared.2
      prepared? := Function.update t.prepared? i (some prepared.1) }
  | .send i =>
    match t.prepared? i with
    | none => t
    | some w =>
      let sent := w.send b t.backend
      { t with backend := sent.2, sent? := Function.update t.sent? i (some sent.1) }
  | .settle i =>
    match t.sent? i with
    | none => t
    | some w => { t with sheet := w.settle t.sheet }

/-- The state after steps. -/
def run (b : Backend σ) (writes : Fin n → CellWrite) (legs : List (Leg n)) (s : Sheet)
    (state : σ) : Traffic σ n :=
  legs.foldl (step b writes) { sheet := s, backend := state }

/-- The outcome of a row in one of the writes. -/
def outcome? (t : Traffic σ n) (i : Fin n) (row : RowKey) : Option RowOutcome :=
  (t.sent? i).bind fun w ↦ w.outcome? row

/-- Whether a write was taken for a row. -/
def takes (t : Traffic σ n) (row : RowKey) (i : Fin n) : Bool :=
  match t.outcome? i row with
  | some (.committed _) => true
  | _ => false

/-- A write as it is prepared in a run. -/
def planned (b : Backend σ) (writes : Fin n → CellWrite) (legs : List (Leg n)) (s : Sheet)
    (state : σ) (i : Fin n) : PreparedWrite :=
  ((run b writes (stepsBefore legs (.prepare i)) s state).sheet.prepare (writes i).cells
    (writes i).value).1

/-- The write that was taken last for a row among those sent in some steps. -/
def lastTaken? (t : Traffic σ n) (legs : List (Leg n)) (row : RowKey) : Option (Fin n) :=
  ((legs.filterMap Leg.sent?).filter (t.takes row)).getLast?

/-- The writes with the outcomes that they have had. -/
def fixed (t : Traffic σ n) (writes : Fin n → CellWrite) (i : Fin n) : FixedWrite :=
  ⟨(writes i).cells, (writes i).value, fun row ↦ (t.outcome? i row).getD (.failed "")⟩

end Traffic

/-! ### Schedules -/

section Schedules

variable {n : Nat} {legs : List (Leg n)}

theorem mem_stagesOf {x : Stage n} : x ∈ stagesOf legs ↔ x.leg ∈ legs := by
  unfold stagesOf
  rw [List.mem_filterMap]
  constructor
  · rintro ⟨y, hy, hstage⟩
    cases y <;> cases hstage <;> exact hy
  · intro h
    cases x <;> exact ⟨_, h, rfl⟩

/-- The grid's steps of a schedule are an interleaving. -/
theorem IsSchedule.isInterleaving (h : IsSchedule legs) : IsInterleaving (stagesOf legs) := by
  intro i
  have hstages : (stagesOf legs).filter (fun x ↦ x.write = i) =
      (legs.filter fun x ↦ x.write = i).filterMap Leg.stage? := by
    unfold stagesOf
    rw [List.filter_filterMap, List.filterMap_filter]
    congr 1
    ext x : 1
    cases x with
    | prepare j => rfl
    | send j => exact (ite_self _).symm
    | settle j => rfl
  rw [hstages, h i]
  rfl

/-- Every write takes all of its steps. -/
theorem IsSchedule.mem (h : IsSchedule legs) (i : Fin n) :
    .prepare i ∈ legs ∧ .send i ∈ legs ∧ .settle i ∈ legs := by
  have hmem (x : Leg n) (hx : x ∈ [Leg.prepare i, .send i, .settle i]) : x ∈ legs := by
    rw [← h i] at hx
    exact (List.mem_filter.mp hx).1
  exact ⟨hmem _ (by simp), hmem _ (by simp), hmem _ (by simp)⟩

/-- No step of a schedule is taken twice. -/
theorem IsSchedule.nodup (h : IsSchedule legs) : legs.Nodup := by
  rw [List.nodup_iff_count_le_one]
  intro x
  have hcount : legs.count x = (legs.filter fun y ↦ y.write = x.write).count x :=
    (List.count_filter (by simp)).symm
  rw [hcount, h x.write]
  cases x <;> simp

/-- A step of a schedule is not taken before. -/
theorem IsSchedule.not_mem_before {pre post : List (Leg n)} {x : Leg n}
    (h : IsSchedule (pre ++ x :: post)) : x ∉ pre := by
  have hnodup := h.nodup
  rw [List.nodup_middle, List.nodup_cons, List.mem_append, not_or] at hnodup
  exact hnodup.1.1

/-- A step of a schedule is taken once. -/
theorem IsSchedule.split {pre post : List (Leg n)} (h : IsSchedule (pre ++ post)) {x : Leg n}
    (hx : x ∈ pre) : ∃ before after, pre = before ++ x :: after ∧ x ∉ before ∧ x ∉ after := by
  obtain ⟨before, after, rfl⟩ := List.append_of_mem hx
  have hnodup := (List.nodup_append.mp h.nodup).1
  rw [List.nodup_middle, List.nodup_cons, List.mem_append, not_or] at hnodup
  exact ⟨before, after, rfl, hnodup.1⟩

/-- The steps of a write are taken in their order. -/
theorem IsSchedule.mem_before {pre post : List (Leg n)} {x y : Leg n}
    (h : IsSchedule (pre ++ y :: post)) (hwrite : x.write = y.write) (hrank : x.rank < y.rank) :
    x ∈ pre := by
  have hsteps := h y.write
  have hx : x ∈ (pre ++ y :: post).filter fun z ↦ z.write = y.write := by
    rw [hsteps, ← hwrite]
    cases x <;> simp
  have hsorted : ((pre ++ y :: post).filter fun z ↦ z.write = y.write).Pairwise
      fun z z' ↦ z.rank < z'.rank := by
    rw [hsteps]
    simp [Leg.rank]
  rw [List.filter_append, List.filter_cons_of_pos (by simp)] at hx hsorted
  obtain ⟨-, hlater, -⟩ := List.pairwise_append.mp hsorted
  rw [List.mem_append, List.mem_cons] at hx
  rcases hx with hpre | rfl | hpost
  · exact (List.mem_filter.mp hpre).1
  · exact absurd hrank (lt_irrefl _)
  · exact absurd hrank ((List.rel_of_pairwise_cons hlater hpost).asymm)

/-- When a write is sent, it has been prepared. -/
theorem IsSchedule.before_send {pre post : List (Leg n)} {i : Fin n}
    (h : IsSchedule (pre ++ .send i :: post)) : .prepare i ∈ pre :=
  h.mem_before rfl Nat.zero_lt_one

/-- When a write is settled, it has been prepared and sent. -/
theorem IsSchedule.before_settle {pre post : List (Leg n)} {i : Fin n}
    (h : IsSchedule (pre ++ .settle i :: post)) : .prepare i ∈ pre ∧ .send i ∈ pre :=
  ⟨h.mem_before rfl Nat.zero_lt_two, h.mem_before rfl Nat.one_lt_two⟩

end Schedules

/-! ### What was sent -/

/-- What is sent has an outcome for each planned row. -/
theorem PreparedWrite.send_fst_eq {σ : Type} {w : PreparedWrite} (b : Backend σ) (s : σ)
    (hrows : (w.plans.map RowPlan.row).Nodup) :
    (w.send b s).1 =
      ⟨w, w.plans.map fun p ↦ ((w.send b s).1.outcome? p.row).getD (.failed "")⟩ := by
  obtain ⟨outcome, hsend⟩ : ∃ outcome : RowPlan → RowOutcome,
      (w.send b s).1 = ⟨w, w.plans.map outcome⟩ := by
    rw [send_fst]
    split
    · exact ⟨_, rfl⟩
    · exact ⟨_, rfl⟩
  have hsettled : (w.send b s).1.settled = w.plans.map fun p ↦ (p, outcome p) := by
    rw [hsend, List.map_prod_left_eq_zip]
    rfl
  have hnodup : ((w.send b s).1.settled.map fun e ↦ e.1.row).Nodup := by
    rw [hsettled, List.map_map]
    exact hrows
  have houtcome : ∀ p ∈ w.plans, (w.send b s).1.outcome? p.row = some (outcome p) := by
    intro p hp
    have he : (p, outcome p) ∈ (w.send b s).1.settled := by
      rw [hsettled]
      exact List.mem_map_of_mem hp
    exact SentWrite.outcome?_of_mem hnodup he
  refine hsend.trans (congrArg (SentWrite.mk w) ?_)
  apply List.map_congr_left
  intro p hp
  rw [houtcome p hp]
  rfl

namespace Traffic

variable {σ : Type} {n : Nat} {b : Backend σ} {writes : Fin n → CellWrite} {s : Sheet} {state : σ}

theorem run_append_singleton (b : Backend σ) (writes : Fin n → CellWrite) (pre : List (Leg n))
    (x : Leg n) (s : Sheet) (state : σ) :
    run b writes (pre ++ [x]) s state = (run b writes pre s state).step b writes x := by
  simp [run]

/-- A write that is sent is the last one if it is taken; no other step counts. -/
theorem lastTaken?_append_singleton (t : Traffic σ n) (pre : List (Leg n)) (x : Leg n)
    (row : RowKey) :
    t.lastTaken? (pre ++ [x]) row =
      match x.sent? with
      | some i => if t.takes row i then some i else t.lastTaken? pre row
      | none => t.lastTaken? pre row := by
  unfold lastTaken?
  rw [List.filterMap_append, List.filter_append]
  cases x with
  | prepare i => exact congrArg List.getLast? (List.append_nil _)
  | settle i => exact congrArg List.getLast? (List.append_nil _)
  | send i =>
    rw [show [Leg.send i].filterMap Leg.sent? = [i] from rfl]
    by_cases h : t.takes row i
    · simp [Leg.sent?, h]
    · simp [Leg.sent?, h]

/-- Only its preparation changes what is prepared of a write. -/
theorem prepared?_step_of_ne {t : Traffic σ n} {x : Leg n} {i : Fin n} (h : .prepare i ≠ x) :
    (t.step b writes x).prepared? i = t.prepared? i := by
  cases x with
  | prepare j =>
    have hij : i ≠ j := fun hij ↦ h (congrArg Leg.prepare hij)
    exact Function.update_of_ne hij ..
  | send j =>
    dsimp only [step]
    split
    · rfl
    · rfl
  | settle j =>
    dsimp only [step]
    split
    · rfl
    · rfl

/-- Only its sending changes what is sent of a write. -/
theorem sent?_step_of_ne {t : Traffic σ n} {x : Leg n} {i : Fin n} (h : .send i ≠ x) :
    (t.step b writes x).sent? i = t.sent? i := by
  cases x with
  | prepare j => rfl
  | send j =>
    have hij : i ≠ j := fun hij ↦ h (congrArg Leg.send hij)
    dsimp only [step]
    split
    · rfl
    · exact Function.update_of_ne hij ..
  | settle j =>
    dsimp only [step]
    split
    · rfl
    · rfl

/-- A write stays as it was prepared until it is prepared again. -/
theorem prepared?_run {pre mid : List (Leg n)} {i : Fin n} (h : .prepare i ∉ mid) :
    (run b writes (pre ++ .prepare i :: mid) s state).prepared? i =
      some ((run b writes pre s state).sheet.prepare (writes i).cells (writes i).value).1 := by
  induction mid using List.reverseRecOn with
  | nil =>
    rw [run_append_singleton]
    exact Function.update_self ..
  | append_singleton mid x ih =>
    rw [List.mem_append, List.mem_singleton, not_or] at h
    rw [← List.cons_append, ← List.append_assoc, run_append_singleton, prepared?_step_of_ne h.2,
      ih h.1]

/-- A write stays as it was sent until it is sent again. -/
theorem sent?_run_append (pre : List (Leg n)) {post : List (Leg n)} {i : Fin n}
    (h : .send i ∉ post) :
    (run b writes (pre ++ post) s state).sent? i = (run b writes pre s state).sent? i := by
  induction post using List.reverseRecOn with
  | nil => rw [List.append_nil]
  | append_singleton post x ih =>
    rw [List.mem_append, List.mem_singleton, not_or] at h
    rw [← List.append_assoc, run_append_singleton, sent?_step_of_ne h.2, ih h.1]

section

variable (b : Backend σ) (writes : Fin n → CellWrite) (s : Sheet) (state : σ)

/-- What has been prepared of a write. -/
theorem prepared?_of_mem {pre post : List (Leg n)} {i : Fin n} (h : IsSchedule (pre ++ post))
    (hi : .prepare i ∈ pre) :
    (run b writes pre s state).prepared? i = some (planned b writes (pre ++ post) s state i) := by
  obtain ⟨before, after, rfl, hbefore, hafter⟩ := h.split hi
  unfold planned
  rw [List.append_assoc, List.cons_append, stepsBefore_append hbefore, prepared?_run hafter]

/-- What has been sent of a write. -/
theorem sent?_of_mem {pre post : List (Leg n)} {i : Fin n} (h : IsSchedule (pre ++ post))
    (hi : .send i ∈ pre) :
    (run b writes pre s state).sent? i =
      some ((planned b writes (pre ++ post) s state i).send b
        (run b writes (stepsBefore (pre ++ post) (.send i)) s state).backend).1 := by
  obtain ⟨before, after, rfl, hbefore, hafter⟩ := h.split hi
  rw [List.append_assoc, List.cons_append] at h ⊢
  have hprepared := prepared?_of_mem b writes s state h h.before_send
  rw [stepsBefore_append hbefore, ← List.singleton_append, ← List.append_assoc,
    sent?_run_append _ hafter, run_append_singleton]
  simp only [step, hprepared, Function.update_self]

variable {legs : List (Leg n)}

/-- The outcome of a row is what the server has answered. -/
theorem outcome?_run (horder : IsSchedule legs) (i : Fin n) (row : RowKey) :
    (run b writes legs s state).outcome? i row =
      ((planned b writes legs s state i).send b
        (run b writes (stepsBefore legs (.send i)) s state).backend).1.outcome? row := by
  have hall : IsSchedule (legs ++ []) := by rwa [List.append_nil]
  have hsent := sent?_of_mem b writes s state hall (horder.mem i).2.1
  rw [List.append_nil] at hsent
  unfold outcome?
  rw [hsent]
  rfl

/-- With the outcomes that it has had, a write is sent as the server has answered it. -/
theorem sent_fixed (horder : IsSchedule legs) (i : Fin n) :
    ((run b writes legs s state).fixed writes i).sent (planned b writes legs s state i) =
      ((planned b writes legs s state i).send b
        (run b writes (stepsBefore legs (.send i)) s state).backend).1 := by
  have hrows : ((planned b writes legs s state i).plans.map RowPlan.row).Nodup :=
    Sheet.nodup_rows_plans _ _ _
  rw [PreparedWrite.send_fst_eq b _ hrows]
  simp only [FixedWrite.sent, fixed, outcome?_run b writes s state horder]

/-- The server's steps aside, a run is one of writes with the outcomes that the server has given. -/
theorem run_eq_flight (horder : IsSchedule legs) {pre post : List (Leg n)}
    (hsplit : legs = pre ++ post) :
    (run b writes pre s state).sheet =
        (Flight.run ((run b writes legs s state).fixed writes) (stagesOf pre) s).sheet ∧
      (run b writes pre s state).prepared? =
        (Flight.run ((run b writes legs s state).fixed writes) (stagesOf pre) s).prepared? := by
  induction pre using List.reverseRecOn generalizing post with
  | nil => exact ⟨rfl, rfl⟩
  | append_singleton pre x ih =>
    rw [List.append_assoc, List.singleton_append] at hsplit
    obtain ⟨hsheet, hprepared⟩ := ih hsplit
    have hstages : stagesOf (pre ++ [x]) = stagesOf pre ++ stagesOf [x] := List.filterMap_append
    rw [run_append_singleton, hstages]
    cases x with
    | prepare i =>
      rw [show stagesOf [Leg.prepare i] = [Stage.prepare i] from rfl, Flight.run_append_singleton]
      simp only [step, Flight.step, hsheet, hprepared]
      exact ⟨rfl, rfl⟩
    | send i =>
      rw [show stagesOf [Leg.send i] = [] from rfl, List.append_nil]
      simp only [step]
      split
      · exact ⟨hsheet, hprepared⟩
      · exact ⟨hsheet, hprepared⟩
    | settle i =>
      rw [show stagesOf [Leg.settle i] = [Stage.settle i] from rfl, Flight.run_append_singleton]
      have hpre : IsSchedule (pre ++ .settle i :: post) := hsplit ▸ horder
      have hp := prepared?_of_mem b writes s state hpre hpre.before_settle.1
      have hs := sent?_of_mem b writes s state hpre hpre.before_settle.2
      rw [← hsplit] at hp hs
      rw [hprepared] at hp
      simp only [step, Flight.step, hs, hp, sent_fixed b writes s state horder]
      exact ⟨by rw [hsheet], hprepared⟩

end

end Traffic

end AssignmentGrid
