import AssignmentGrid.Http.Client
import AssignmentGrid.Proofs.Acquisition
import AssignmentGrid.Proofs.JsonObjects

/-!
# Requests that write data

Of the requests that a client sends few are meant to change assignments. The way to a snapshot and
the look-up of a person's rows send none of them; a write of a row sends one, if it can be sent at
all, and succeeds if the server accepts it.
-/

namespace AssignmentGrid.Http

variable {τ α : Type}

/-- Whether a request begins a job that builds a snapshot. No other request is posted with a number
of weeks. -/
def Request.beginsJob (r : Request) : Bool :=
  r.method == .post && r.body?.any fun j ↦ (j.member? "weeks").isSome

/-- Whether a request is meant to change the assignments on the server. -/
def Request.writesData (r : Request) : Bool := r.method.writes && !r.beginsJob

/-- The exchanges of requests that write data, in order. -/
def Connection.written (s : Connection (Recorded τ)) : List (Request × Option Response) :=
  s.network.exchanges.filter fun e ↦ e.1.writesData

/-- Where a row is found on the server. -/
def rowPath (id : AssignmentId) : String :=
  s!"/api/assignments/{Decimal.intText id.toInt}/"

/-- Whether a write was accepted: a success came back, and it holds an assignment unless one was
deleted. -/
def IsAccepted (e : Request × Option Response) : Prop :=
  ∃ response, e.2 = some response ∧ response.isSuccess = true ∧
    (e.1.method ≠ .delete → ∃ a, Client.bodyValue Assignment.ofJson response = .ok a)

/-- What an attempt to write data leaves among the exchanges: nothing, if no request could be sent,
or the exchange of a request that asks for the write, and the attempt has succeeded if this was
accepted. -/
inductive Attempt (asks : Ask → Prop) (succeeded : Prop) : List (Request × Option Response) → Prop
  | unsent (h : ¬ succeeded) : Attempt asks succeeded []
  | sent {c : Client} {ask : Ask} {e : Request × Option Response} (hask : asks ask)
      (hrequest : c.request ask = .ok e.1) (h : succeeded ↔ IsAccepted e) :
      Attempt asks succeeded [e]

namespace Attempt

variable {asks asks' : Ask → Prop} {succeeded succeeded' : Prop}
  {written : List (Request × Option Response)}

theorem length_le_one (h : Attempt asks succeeded written) : written.length ≤ 1 := by
  cases h with
  | unsent _ => exact Nat.zero_le 1
  | sent _ _ _ => exact Nat.le_refl 1

/-- An attempt has succeeded if it was one exchange, and the write was accepted. -/
theorem succeeded_iff (h : Attempt asks succeeded written) :
    succeeded ↔ ∃ e, written = [e] ∧ IsAccepted e := by
  cases h with
  | unsent h =>
    refine iff_of_false h ?_
    rintro ⟨e, heq, -⟩
    cases heq
  | sent _ _ h =>
    rw [h]
    constructor
    · exact fun haccepted ↦ ⟨_, rfl, haccepted⟩
    · rintro ⟨e, heq, haccepted⟩
      cases heq
      exact haccepted

/-- What is sent is what was asked for. -/
theorem exists_ask (h : Attempt asks succeeded written) {e : Request × Option Response}
    (he : e ∈ written) : ∃ (c : Client) (ask : Ask), asks ask ∧ c.request ask = .ok e.1 := by
  cases h with
  | unsent _ => cases he
  | sent hask hrequest _ =>
    cases List.mem_singleton.mp he
    exact ⟨_, _, hask, hrequest⟩

theorem of_iff (h : Attempt asks succeeded written) (hsucceeded : succeeded' ↔ succeeded) :
    Attempt asks succeeded' written := by
  cases h with
  | unsent h => exact .unsent fun hs ↦ h (hsucceeded.mp hs)
  | sent hask hrequest h => exact .sent hask hrequest (hsucceeded.trans h)

theorem mono (h : Attempt asks succeeded written) (hasks : ∀ ask, asks ask → asks' ask) :
    Attempt asks' succeeded written := by
  cases h with
  | unsent h => exact .unsent h
  | sent hask hrequest h => exact .sent (hasks _ hask) hrequest h

end Attempt

namespace Client

variable (c : Client) (t : Transport τ) {ask : Ask} {read : Response → Answer α}
  {s : Connection (Recorded τ)}

/-- A request is sent with the method and the body that are asked for. -/
theorem eq_of_request {c : Client} {r : Request} (h : c.request ask = .ok r) :
    r.method = ask.method ∧ r.body? = ask.body? := by
  unfold request at h
  split at h
  · cases h
  · cases h
  · dsimp only at h
    split at h
    · cases h
    · split at h
      · cases h
        exact ⟨rfl, rfl⟩
      · cases h

/-- What is asked for cannot be sent, or it is sent once and the response is the answer. -/
theorem exchange_recorded (ask : Ask) (read : Response → Answer α) (s : Connection (Recorded τ)) :
    (∃ e, c.request ask = .error e ∧ c.exchange t.recorded ask read s = (.error e, s)) ∨
      ∃ r response? network, c.request ask = .ok r ∧
        (c.exchange t.recorded ask read s).2 =
          { s with network := ⟨network, s.network.exchanges ++ [(r, response?)]⟩ } ∧
        ∀ a, (c.exchange t.recorded ask read s).1 = .ok a ↔
          ∃ response, response? = some response ∧ response.isSuccess = true ∧
            read response = .ok a := by
  unfold exchange send
  cases hrequest : c.request ask with
  | error e => exact .inl ⟨e, rfl, rfl⟩
  | ok r =>
    refine .inr ⟨r, (t.send r s.network.network).1, (t.send r s.network.network).2, rfl, ?_⟩
    unfold Transport.recorded
    dsimp only
    cases (t.send r s.network.network).1 with
    | none => simp
    | some response =>
      by_cases hsuccess : response.isSuccess = true
      · simp [hsuccess]
      · simp [hsuccess]

/-- A request that can be sent is sent once. -/
theorem exchanges_of_request {c : Client} {r : Request} (hr : c.request ask = .ok r) :
    ∃ response?, (c.exchange t.recorded ask read s).2.network.exchanges =
      s.network.exchanges ++ [(r, response?)] := by
  rcases c.exchange_recorded t ask read s with ⟨e, he, -⟩ | ⟨r', response?, network, hr', h, -⟩
  · cases hr.symm.trans he
  · cases hr.symm.trans hr'
    exact ⟨response?, congrArg (·.network.exchanges) h⟩

theorem writesData_of_request {c : Client} {r : Request} (h : c.request ask = .ok r) :
    r.writesData = (ask.method.writes &&
      !(ask.method == .post && ask.body?.any fun j ↦ (j.member? "weeks").isSome)) := by
  rw [Request.writesData, Request.beginsJob, (eq_of_request h).1, (eq_of_request h).2]

/-! ### Calls that write no data -/

/-- A request that writes no data leaves what was written. -/
theorem written_exchange (hquiet : ∀ r, c.request ask = .ok r → r.writesData = false) :
    (c.exchange t.recorded ask read s).2.written = s.written := by
  rcases c.exchange_recorded t ask read s with ⟨e, -, h⟩ | ⟨r, response?, network, hr, h, -⟩
  · rw [h]
  · rw [h]
    unfold Connection.written
    rw [List.filter_append]
    simp [hquiet r hr]

theorem written_get (ask : Ask) (read : Response → Answer α) (s : Connection (Recorded τ))
    (hget : ask.method = .get) :
    (c.exchange t.recorded ask read s).2.written = s.written := by
  apply written_exchange
  intro r hr
  rw [writesData_of_request hr, hget]
  rfl

theorem written_runsJobs : (c.runsJobs t.recorded s).2.written = s.written := by
  unfold runsJobs
  split
  · rfl
  · have hasked := c.written_get t { path := "/api/capabilities/" } capability s rfl
    generalize c.exchange t.recorded { path := "/api/capabilities/" } capability s = asked
      at hasked ⊢
    exact hasked

theorem written_submitJob (weeks : UInt32) (scope : Scope) :
    ((c.backend t.recorded).submitJob weeks scope s).2.written = s.written := by
  apply written_exchange
  intro r hr
  rw [writesData_of_request hr]
  dsimp only
  rw [Option.any_some, Json.isSome_member?_ofMembers (by simp)]
  rfl

theorem written_fetchRows (p : PersonId) :
    ((c.backend t.recorded).fetchRows p s).2.written = s.written :=
  c.written_get t _ rowList s rfl

/-- No data are written on the way to a snapshot. -/
theorem supplies_written (written : List (Request × Option Response)) :
    (c.backend t.recorded).Supplies (fun s ↦ s.written = written) (fun _ ↦ True) where
  fetchSnapshot _ _ _ hs := ⟨(c.written_get t _ _ _ rfl).trans hs, fun _ _ ↦ trivial⟩
  submitJob weeks scope _ hs := (c.written_submitJob t weeks scope).trans hs
  pollJob _ _ hs := ⟨(c.written_get t _ _ _ rfl).trans hs, fun _ _ _ _ _ ↦ trivial⟩
  countPeople _ _ hs := (c.written_get t _ _ _ rfl).trans hs
  runsJobs _ hs := (c.written_runsJobs t).trans hs

/-! ### Calls that write data -/

/-- A request that writes data, where none were written before. What is read from the response is
an assignment unless one is deleted. -/
theorem attempt_exchange (hwrites : ∀ r, c.request ask = .ok r → r.writesData = true)
    (hread : ∀ response, (∃ a, read response = .ok a) ↔
      (ask.method ≠ .delete → ∃ a, bodyValue Assignment.ofJson response = .ok a))
    (hs : s.written = []) :
    Attempt (· = ask) (∃ a, (c.exchange t.recorded ask read s).1 = .ok a)
      (c.exchange t.recorded ask read s).2.written := by
  rcases c.exchange_recorded t ask read s with ⟨e, -, h⟩ | ⟨r, response?, network, hr, h, hanswer⟩
  · rw [h]
    dsimp only
    rw [hs]
    exact .unsent fun ⟨_, ha⟩ ↦ nomatch ha
  · have hwritten : (c.exchange t.recorded ask read s).2.written = [(r, response?)] := by
      rw [h, Connection.written, List.filter_append]
      change s.written ++ _ = _
      rw [hs]
      simp [hwrites r hr]
    rw [hwritten]
    refine .sent rfl hr ?_
    unfold IsAccepted
    dsimp only
    rw [(eq_of_request hr).1]
    constructor
    · rintro ⟨a, ha⟩
      obtain ⟨response, hresponse, hsuccess, hbody⟩ := (hanswer a).mp ha
      exact ⟨response, hresponse, hsuccess, (hread response).mp ⟨a, hbody⟩⟩
    · rintro ⟨response, hresponse, hsuccess, hbody⟩
      obtain ⟨a, ha⟩ := (hread response).mpr hbody
      exact ⟨a, (hanswer a).mpr ⟨response, hresponse, hsuccess, ha⟩⟩

theorem attempt_updateHours (id : AssignmentId) (hours : Hours) (hs : s.written = []) :
    let reply := (c.backend t.recorded).updateHours id hours s
    Attempt (fun ask ↦ ask.method = .patch ∧ ask.path = rowPath id) (∃ a, reply.1 = .ok a)
      reply.2.written := by
  refine (c.attempt_exchange t ?_ ?_ hs).mono ?_
  · intro r hr
    rw [writesData_of_request hr]
    rfl
  · intro response
    exact ⟨fun h _ ↦ h, fun h ↦ h nofun⟩
  · rintro _ rfl
    exact ⟨rfl, rfl⟩

theorem attempt_createRow (p : PersonId) (q : ProjectId) (hs : s.written = []) :
    let reply := (c.backend t.recorded).createRow p q s
    Attempt (fun ask ↦ ask.method = .post ∧ ask.path = "/api/assignments/")
      (∃ a, reply.1 = .ok a) reply.2.written := by
  refine (c.attempt_exchange t ?_ ?_ hs).mono ?_
  · intro r hr
    rw [writesData_of_request hr]
    dsimp only
    rw [Option.any_some, Json.isSome_member?_ofMembers (by simp)]
    rfl
  · intro response
    exact ⟨fun h _ ↦ h, fun h ↦ h nofun⟩
  · rintro _ rfl
    exact ⟨rfl, rfl⟩

theorem attempt_deleteRow (id : AssignmentId) (hs : s.written = []) :
    let reply := (c.backend t.recorded).deleteRow id s
    Attempt (fun ask ↦ ask.method = .delete ∧ ask.path = rowPath id) (∃ a, reply.1 = .ok a)
      reply.2.written := by
  refine (c.attempt_exchange t ?_ ?_ hs).mono ?_
  · intro r hr
    rw [writesData_of_request hr]
    rfl
  · intro response
    exact ⟨fun _ h ↦ absurd rfl h, fun _ ↦ ⟨(), rfl⟩⟩
  · rintro _ rfl
    exact ⟨rfl, rfl⟩

end Client

end AssignmentGrid.Http
