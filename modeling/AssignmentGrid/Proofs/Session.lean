import Mathlib.Logic.Relation
import AssignmentGrid.Proofs.HoursBounds
import AssignmentGrid.Proofs.RowServer

/-!
# Sessions

A session is a grid in use, with what is on its way: snapshots that loads have obtained, writes
that are in the rows and not sent yet, and writes that were sent and not settled yet. Loads and
writes fall into pieces, and between the pieces of one anything else may happen. Whatever is on its
way may arrive at any time, more than once or never.
-/

namespace AssignmentGrid

/-- A grid in use, the backend with all calls made to it, and what is on its way. -/
structure Session (σ : Type) where
  grid : Grid
  backend : Logged σ
  /-- What the loads have obtained. -/
  obtained : List (Except GridError LoadOutcome) := []
  /-- The writes that were prepared. -/
  prepared : List PreparedWrite := []
  /-- The writes that were sent. -/
  sent : List SentWrite := []

namespace Session

variable {σ : Type}

/-- A new grid and a backend that has not been called. -/
def new (config : LoadConfig) (hoursCap : Float) (s : σ) : Session σ where
  grid := { config, hoursCap }
  backend := ⟨s, []⟩

/-- What can happen next in a session. -/
inductive Step (b : Backend σ) : Session σ → Session σ → Prop
  | operation (x : Session σ) (o : Operation) :
      Step b x { x with
        grid := (o.perform b.logged x.grid x.backend).1
        backend := (o.perform b.logged x.grid x.backend).2 }
  | gesture (x : Session σ) (m : Gesture) : Step b x { x with grid := m.perform x.grid }
  | beginLoad (x : Session σ) (request : LoadRequest) :
      Step b x { x with grid := (x.grid.beginLoad request).2 }
  | acquire (x : Session σ) (config : LoadConfig) (request : LoadRequest) :
      Step b x { x with
        backend := (Load.acquire config b.logged request x.backend).backend
        obtained := (Load.acquire config b.logged request x.backend).result :: x.obtained }
  | progress (x : Session σ) (ticket : LoadTicket) (job : JobProgress) :
      Step b x { x with grid := x.grid.recordProgress ticket job }
  | finishLoad (x : Session σ) (ticket : LoadTicket) (obtained : Except GridError LoadOutcome)
      (h : obtained ∈ x.obtained) :
      Step b x { x with grid := (x.grid.finishLoad ticket obtained).2 }
  | prepare (x : Session σ) (cells : List Cell) (value : Float) :
      Step b x { x with
        grid := (x.grid.prepareHours cells value).2
        prepared := (x.grid.prepareHours cells value).1 :: x.prepared }
  | send (x : Session σ) (w : PreparedWrite) (h : w ∈ x.prepared) :
      Step b x { x with
        backend := (w.send b.logged x.backend).2
        sent := (w.send b.logged x.backend).1 :: x.sent }
  | settle (x : Session σ) (w : SentWrite) (h : w ∈ x.sent) :
      Step b x { x with grid := (x.grid.settleHours w).2 }

/-- Whether all hours in the grid, on their way and in the calls made are within the bounds, and
the backend is in one of its states. -/
structure Within (cap : Float) (I : σ → Prop) (x : Session σ) : Prop where
  grid : x.grid.Within cap
  backend : x.backend.Within cap I
  obtained : ∀ outcome, .ok outcome ∈ x.obtained → outcome.snapshot.Within cap
  prepared : ∀ w ∈ x.prepared, w.Within cap
  sent : ∀ w ∈ x.sent, w.Within cap

variable {b : Backend σ} {cap : Float} {I : σ → Prop}

theorem within_new (config : LoadConfig) (cap : Float) {s : σ} (hs : I s) :
    (new config cap s).Within cap I where
  grid := ⟨rfl, .empty⟩
  backend := ⟨hs, nofun⟩
  obtained := nofun
  prepared := nofun
  sent := nofun

/-- Whatever happens next, nothing leaves the bounds. -/
theorem Within.step (hfinite : cap.isFinite = true) (hpos : 0 < cap)
    (hb : b.DeliversWithin cap I) {x y : Session σ} (h : x.Within cap I) (hstep : Step b x y) :
    y.Within cap I := by
  cases hstep with
  | operation o =>
    obtain ⟨hgrid, hbackend⟩ := h.grid.operation hfinite hpos hb.logged h.backend o
    exact { h with grid := hgrid, backend := hbackend }
  | gesture m => exact { h with grid := h.grid.gesture m }
  | beginLoad request => exact { h with grid := ⟨h.grid.hoursCap, h.grid.rows⟩ }
  | acquire config request =>
    obtain ⟨hbackend, hobtained⟩ := hb.logged.supplies.acquire config request h.backend
    refine { h with backend := hbackend, obtained := ?_ }
    intro outcome houtcome
    rcases List.mem_cons.mp houtcome with heq | houtcome
    · exact hobtained outcome heq.symm
    · exact h.obtained outcome houtcome
  | progress ticket job => exact { h with grid := h.grid.recordProgress ticket job }
  | finishLoad ticket obtained hmem =>
    have hobtained : ∀ outcome, obtained = .ok outcome → outcome.snapshot.Within cap := by
      rintro outcome rfl
      exact h.obtained outcome hmem
    exact { h with grid := h.grid.finishLoad ticket hobtained }
  | prepare cells value =>
    obtain ⟨hplans, hgrid⟩ := h.grid.prepareHours hfinite hpos cells value
    exact { h with grid := hgrid, prepared := List.forall_mem_cons.mpr ⟨hplans, h.prepared⟩ }
  | send w hmem =>
    obtain ⟨hsent, hbackend⟩ := (h.prepared w hmem).send hb.logged h.backend
    exact { h with backend := hbackend, sent := List.forall_mem_cons.mpr ⟨hsent, h.sent⟩ }
  | settle w hmem => exact { h with grid := h.grid.settleHours (h.sent w hmem) }

end Session

/-- In every session whose backend delivers hours within the bounds all hours are within them:
those in the rows, those that are kept to be put back or are on their way, and those in every
request. -/
theorem hours_stay_in_bounds {σ : Type} {b : Backend σ} {cap : Float} {I : σ → Prop}
    (hfinite : cap.isFinite = true) (hpos : 0 < cap) (hb : b.DeliversWithin cap I)
    {config : LoadConfig} {s : σ} (hs : I s) {x : Session σ}
    (h : Relation.ReflTransGen (Session.Step b) (.new config cap s) x) :
    (∀ p, ∀ a ∈ x.grid.roster.rowsFor p, a.hours.Within cap) ∧
    (∀ w ∈ x.prepared, ∀ p ∈ w.plans, p.Within cap) ∧
    (∀ w ∈ x.sent, ∀ p ∈ w.prepared.plans, p.Within cap) ∧
    ∀ c ∈ x.backend.calls, c.Within cap := by
  have hwithin : x.Within cap I := by
    induction h with
    | refl => exact Session.within_new config cap hs
    | tail _ hstep ih => exact ih.step hfinite hpos hb hstep
  exact ⟨hwithin.grid.rows, hwithin.prepared, fun w hw ↦ (hwithin.sent w hw).prepared,
    hwithin.backend.calls⟩

/-! ### A server within the bounds -/

namespace RowServer

variable {cap : Float}

/-- Whether all hours that a server keeps are within the bounds. -/
def Within (cap : Float) (s : RowServer) : Prop := ∀ a ∈ s.rows, a.hours.Within cap

theorem Within.setHours {s : RowServer} (hs : s.Within cap) {f : AssignmentId → Option Hours}
    (hf : ∀ id hours, f id = some hours → hours.Within cap) : (s.setHours f).Within cap := by
  intro a ha
  obtain ⟨kept, hkept, rfl⟩ := List.mem_map.mp ha
  cases hid : f kept.id with
  | none =>
    exact hs kept hkept
  | some hours =>
    exact hf kept.id hours hid

/-- A server that keeps hours within the bounds delivers them within the bounds. -/
theorem deliversWithin (cap : Float) : backend.DeliversWithin cap (Within cap) where
  supplies := {
    fetchSnapshot := by
      intro weeks scope s hs
      refine ⟨hs, ?_⟩
      intro snapshot hsnapshot
      cases hsnapshot
      exact fun a ha ↦ hs a (List.mem_of_mem_filter ha)
    submitJob := fun _ _ _ hs ↦ hs
    pollJob := by
      intro job s hs
      refine ⟨hs, ?_⟩
      intro status snapshot hstatus
      cases hstatus
    countPeople := fun _ _ hs ↦ hs
    runsJobs := fun _ hs ↦ hs }
  fetchRows := by
    intro p s hs
    refine ⟨hs, ?_⟩
    intro rows hrows
    cases hrows
    exact fun a ha ↦ hs a (List.mem_of_mem_filter ha)
  createRow := by
    intro p project s hs
    have hempty : Hours.Within cap ∅ := by
      intro week value hvalue
      simp at hvalue
    show (create p project s).2.Within cap ∧ ∀ row, (create p project s).1 = .ok row → _
    unfold create
    dsimp only
    split
    · refine ⟨hs, ?_⟩
      intro row hrow
      cases hrow
    · refine ⟨List.forall_mem_cons.mpr ⟨hempty, hs⟩, ?_⟩
      intro row hrow
      cases hrow
      exact hempty
  deleteRow := by
    intro id s hs
    show (delete id s).2.Within cap
    unfold delete
    split
    · exact hs
    · exact fun a ha ↦ hs a (List.mem_of_mem_filter ha)
  updateHours := by
    intro id hours s hs hhours
    show (update id hours s).2.Within cap ∧ ∀ row, (update id hours s).1 = .ok row → _
    unfold update
    have hrefused (e : BackendError) (row : Assignment) :
        (.error e : Answer Assignment) ≠ .ok row := by
      intro h
      cases h
    split
    · exact ⟨hs, fun row hrow ↦ absurd hrow (hrefused _ row)⟩
    · split
      · exact ⟨hs, fun row hrow ↦ absurd hrow (hrefused _ row)⟩
      · refine ⟨hs.setHours ?_, ?_⟩
        · intro other sent hsent
          split at hsent
          · cases hsent
            exact hhours
          · cases hsent
        · intro row hrow
          cases hrow
          exact hhours
  updateMany := by
    intro updates s hs hupdates
    apply hs.setHours
    intro id hours hhours
    unfold accepted? at hhours
    split at hhours
    · cases hhours
    · obtain ⟨u, hu, rfl⟩ := Option.map_eq_some_iff.mp hhours
      exact hupdates u (List.mem_of_find?_eq_some hu)

end RowServer

/-- A thousand hours are sent as a whole week, and a number that is none as no hours. -/
theorem hours_stay_in_bounds_of_any_number :
    let week : WeekKey := ⟨"2024-01-01"⟩
    let server : RowServer :=
      { rows := [{ id := 42, person := 7, project := 1 }], nodup := by decide, shown := [7] }
    ∃ x, Relation.ReflTransGen (Session.Step RowServer.backend) (.new {} 168 server) x ∧
      (∃ id hours, .updateHours id hours ∈ x.backend.calls ∧ hours[week]? = some 168) ∧
      (∃ id hours, .updateHours id hours ∈ x.backend.calls ∧ hours[week]? = some 0) ∧
      ∀ call ∈ x.backend.calls, call.Within 168 := by
  intro week server
  let c : Cell := ⟨⟨7, 42⟩, week⟩
  let loaded :=
    (Operation.load {}).perform RowServer.backend.logged { hoursCap := 168 } ⟨server, []⟩
  let many := loaded.1.prepareHours [c] 1000
  let none := many.2.prepareHours [c] (0 / 0)
  let first := many.1.send RowServer.backend.logged loaded.2
  let second := none.1.send RowServer.backend.logged first.2
  let x : Session RowServer :=
    { grid := none.2, backend := second.2, prepared := [none.1, many.1],
      sent := [second.1, first.1] }
  have hloaded := Relation.ReflTransGen.single
    (Session.Step.operation (b := RowServer.backend) (.new {} 168 server) (.load {}))
  have hprepared := (hloaded.tail (.prepare _ [c] 1000)).tail (.prepare _ [c] (0 / 0))
  have hrun : Relation.ReflTransGen (Session.Step RowServer.backend) (.new {} 168 server) x :=
    (hprepared.tail (.send _ many.1 (List.mem_cons_of_mem _ List.mem_cons_self))).tail
      (.send _ none.1 List.mem_cons_self)
  have hsent (value : Float) (h : (x.backend.calls.any fun
      | .updateHours _ hours => decide (hours[week]? = some value)
      | _ => false) = true) :
      ∃ id hours, .updateHours id hours ∈ x.backend.calls ∧ hours[week]? = some value := by
    obtain ⟨call, hcall, hvalue⟩ := List.any_eq_true.mp h
    cases call with
    | updateHours id hours => exact ⟨id, hours, hcall, of_decide_eq_true hvalue⟩
    | _ => cases hvalue
  have hserver : server.Within 168 := by
    intro a ha week value hvalue
    rw [List.mem_singleton.mp ha] at hvalue
    simp at hvalue
  refine ⟨x, hrun, hsent 168 (by decide +kernel), hsent 0 (by decide +kernel), ?_⟩
  exact (hours_stay_in_bounds (by decide +kernel) (by decide +kernel)
    (RowServer.deliversWithin 168) hserver hrun).2.2.2

end AssignmentGrid
