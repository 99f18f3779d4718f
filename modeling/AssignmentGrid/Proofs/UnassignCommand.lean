import AssignmentGrid.Proofs.FailedCalls
import AssignmentGrid.Proofs.OpenedGrid
import AssignmentGrid.Proofs.RosterFiling
import AssignmentGrid.Proofs.SheetStep

/-!
# Unassigning

The command that takes an assignment away looks for it in the loaded grid. If it is not there, the
rows of all collapsed people are fetched one after the other, up to the first failure. Fetching the
rows of a collapsed person takes no assignment from anybody, so in the end the grid holds the
assignment if the snapshot or one of the fetched lists does. Only then it is deleted. Specification
`SPEC_FULL.md:316,319–320`.
-/

namespace AssignmentGrid

/-! ### Collapsed people -/

namespace Roster

/-- Whether a person is shown without rows, which can be fetched. -/
structure IsCollapsed (r : Roster) (p : PersonId) : Prop where
  mem : p ∈ r.ids
  isLoaded : r.isLoaded p = false
  rowsFor : r.rowsFor p = []

variable {r : Roster} {p o : PersonId}

/-- In a snapshot, whoever is not loaded has no rows. -/
theorem isCollapsed_ofSnapshot {people : List Person} {rows : List Assignment} {q : PersonRow}
    (hq : q ∈ (ofSnapshot people rows).people) (hloaded : q.isLoaded = false) :
    (ofSnapshot people rows).IsCollapsed q.id := by
  have hnone : (ofSnapshot people rows).isLoaded q.id = false := by
    rw [isLoaded, person?_of_mem hq]
    exact hloaded
  refine ⟨List.mem_map_of_mem hq, hnone, ?_⟩
  rw [isLoaded_ofSnapshot, List.any_eq_false] at hnone
  rw [rowsFor_ofSnapshot, List.filter_eq_nil_iff]
  exact hnone

/-- The rows of a snapshot tell which assignments belong to somebody. -/
theorem isSome_ownerOf?_ofSnapshot (people : List Person) (rows : List Assignment)
    (id : AssignmentId) :
    ((ofSnapshot people rows).ownerOf? id).isSome ↔ ∃ a ∈ rows, a.id = id := by
  rw [ownerOf?_ofSnapshot, Option.isSome_map, List.find?_isSome]
  simp

namespace IsCollapsed

/-- A person stays collapsed when rows of somebody else are replaced. -/
theorem replaceRows (h : r.IsCollapsed o) (hne : o ≠ p) (rows : List Assignment) :
    (r.replaceRows p rows).IsCollapsed o where
  mem := by
    rw [ids_replaceRows]
    split
    · exact h.mem
    · exact List.mem_append_left _ h.mem
  isLoaded := by rw [isLoaded_replaceRows, if_neg hne, h.isLoaded]
  rowsFor := by rw [rowsFor_replaceRows, if_neg hne, h.rowsFor]

/-- Rows for a collapsed person take no assignment from anybody. -/
theorem isSome_ownerOf?_replaceRows (h : r.IsCollapsed p) (rows : List Assignment)
    (id : AssignmentId) :
    ((r.replaceRows p rows).ownerOf? id).isSome ↔
      (r.ownerOf? id).isSome ∨ ∃ a ∈ rows, a.id = id := by
  rw [ownerOf?_replaceRows, h.rowsFor, List.map_nil, if_neg List.not_mem_nil, ← List.mem_map]
  by_cases hid : id ∈ rows.map Assignment.id
  · simp [hid]
  · simp [hid]

end IsCollapsed

end Roster

/-- Expanding a collapsed person fetches the rows. -/
theorem Grid.expand_of_isCollapsed {g : Grid} {p : PersonId} (h : g.roster.IsCollapsed p)
    {σ : Type} (b : Backend σ) (s : σ) :
    g.expand b p s =
      ⟨(g.refresh b p s).result.map fun _ ↦ true, (g.refresh b p s).grid,
        (g.refresh b p s).backend⟩ := by
  obtain ⟨q, hq⟩ := Option.isSome_iff_exists.mp ((g.roster.isSome_person? p).mpr h.mem)
  have hloaded : q.isLoaded = false := by
    have hnone := h.isLoaded
    rwa [Roster.isLoaded, hq] at hnone
  exact g.expand_of_collapsed b s hq hloaded

/-! ### Answers -/

namespace Http

/-- The path of the rows of a person. -/
def rowsPath (p : PersonId) : String := s!"/api/assignments/by_person/{Decimal.intText p.toInt}/"

theorem isApiPath_rowsPath (p : PersonId) : IsApiPath (rowsPath p) :=
  ⟨s!"assignments/by_person/{Decimal.intText p.toInt}", rfl⟩

/-- The request for the rows of a person. -/
def rowsAsk (p : PersonId) : Ask := { path := rowsPath p }

/-- The request to delete an assignment. -/
def deleteAsk (id : AssignmentId) : Ask := { method := .delete, path := rowPath id }

namespace Client

variable {α τ : Type}

/-- What a client makes of what came back for a request. -/
def reading (read : Response → Answer α) (e : Request × Option Response) : Answer α :=
  match e.2 with
  | none => .error (.network s!"error sending request for url ({e.1.address.text})")
  | some response => if response.isSuccess then read response else .error (refusal response)

/-- A request is sent, and the answer is what the client makes of what comes back. -/
theorem exists_exchange {c : Client} {ask : Ask} {r : Request} (h : c.request ask = .ok r)
    (t : Transport τ) (read : Response → Answer α) (s : Connection (Recorded τ)) :
    ∃ response? network, c.exchange t.recorded ask read s =
      (reading read (r, response?),
        { s with network := ⟨network, s.network.exchanges ++ [(r, response?)]⟩ }) := by
  refine ⟨(t.send r s.network.network).1, (t.send r s.network.network).2, ?_⟩
  unfold exchange send reading
  rw [h]
  unfold Transport.recorded
  dsimp only
  cases (t.send r s.network.network).1 with
  | none => rfl
  | some response =>
    dsimp only
    cases response.isSuccess with
    | true => rfl
    | false => rfl

/-- The rows that a fetch has brought. -/
def fetchedRows (e : Request × Option Response) : Answer (List Assignment) := reading rowList e

end Client

end Http

namespace Cli

open Http (Client Connection Recorded Request Response Transport)

variable {τ : Type}

/-! ### Fetching -/

/-- Whether a fetch has brought a row with a number. -/
def Brings (e : Request × Option Response) (id : AssignmentId) : Prop :=
  ∃ rows, Client.fetchedRows e = .ok rows ∧ ∃ a ∈ rows, a.id = id

/-- Whether the rows of people were fetched in their order, up to the first failure. -/
structure FetchesInOrder (client : Client) (people : List PersonId)
    (fetches : List (Request × Option Response)) : Prop where
  /-- The requests are the first of those for the people, -/
  asked : (fetches.map fun e ↦ (.ok e.1 : Answer Request)) <+:
    people.map fun p ↦ client.request (Http.rowsAsk p)
  /-- all of them if none has failed, -/
  complete : (∀ e ∈ fetches, ∃ rows, Client.fetchedRows e = .ok rows) →
    fetches.length = people.length
  /-- and none behind one that has failed. -/
  stopped : ∀ before e after failure, fetches = before ++ e :: after →
    Client.fetchedRows e = .error failure → after = []

namespace FetchesInOrder

variable {client : Client} {p : PersonId} {people : List PersonId}
  {fetches : List (Request × Option Response)} {e : Request × Option Response}

theorem nil : FetchesInOrder client [] [] where
  asked := List.prefix_rfl
  complete _ := rfl
  stopped _ _ _ _ h := by simp at h

/-- Behind a fetch that has succeeded come those for the other people. -/
theorem cons (hasked : client.request (Http.rowsAsk p) = .ok e.1) {rows : List Assignment}
    (hrows : Client.fetchedRows e = .ok rows) (h : FetchesInOrder client people fetches) :
    FetchesInOrder client (p :: people) (e :: fetches) where
  asked := by
    rw [List.map_cons, List.map_cons, hasked, List.prefix_cons_inj]
    exact h.asked
  complete hall := by
    rw [List.length_cons, List.length_cons,
      h.complete fun other hother ↦ hall other (List.mem_cons_of_mem e hother)]
  stopped before other after failure hsplit hfailed := by
    rcases List.append_eq_cons_iff.mp hsplit.symm with ⟨-, hhead⟩ | ⟨more, -, hrest⟩
    · cases hhead
      cases hrows.symm.trans hfailed
    · exact h.stopped more other after failure hrest hfailed

/-- Behind a fetch that has failed comes nothing. -/
theorem failed (hasked : client.request (Http.rowsAsk p) = .ok e.1) {failure : BackendError}
    (hfailed : Client.fetchedRows e = .error failure) :
    FetchesInOrder client (p :: people) [e] where
  asked := by
    rw [List.map_cons, List.map_cons, hasked, List.prefix_cons_inj]
    exact List.nil_prefix
  complete hall := by
    obtain ⟨rows, hrows⟩ := hall e (List.mem_singleton_self e)
    cases hrows.symm.trans hfailed
  stopped before other after _ hsplit _ := by
    rcases List.append_eq_cons_iff.mp hsplit.symm with ⟨-, hhead⟩ | ⟨more, -, hrest⟩
    · exact (List.cons.inj hhead).2
    · simp at hrest

end FetchesInOrder

variable {limits : LoadLimits} {t : Transport τ} {c : Context (Recorded τ)}
  {s opened : Session (Recorded τ)} {client : Client} {p : PersonId} {id : AssignmentId}

/-- Fetch the rows of a person who is collapsed. -/
def fetchPerson (b : Backend (Connection τ)) (p : PersonId) : Run τ Unit :=
  discard (Run.perform fun g s ↦ g.expand b p s)

/-- Fetching rows is expanding, and whether it was needed does not matter. -/
theorem outcome_fetchPerson (b : Backend (Connection τ)) (p : PersonId) (c : Context τ)
    (s : Session τ) :
    let reply := s.grid.expand b p s.connection
    ∃ out err, (fetchPerson b p).outcome c s =
      ((reply.result.map fun _ ↦ ()).mapError Failure.ofGrid,
        { s with grid := reply.grid.drain.2, connection := reply.backend, out, err }) := by
  intro reply
  obtain ⟨out, err, hperformed⟩ := Run.outcome_perform (fun g s ↦ g.expand b p s) c s
  refine ⟨out, err, ?_⟩
  unfold fetchPerson
  rw [Run.discard_eq, Run.outcome_bind, hperformed]
  cases (s.grid.expand b p s.connection).result with
  | ok fetched => rfl
  | error e => rfl

/-- Fetching the rows of a collapsed person sends one request. If it fails, the command fails, else
the grid has the rows in place of those of the person. -/
theorem outcome_fetch (hp : s.grid.roster.IsCollapsed p) {r : Request}
    (hr : client.request (Http.rowsAsk p) = .ok r) :
    let fetched := (fetchPerson (client.backend t.recorded) p).outcome c s
    ∃ response? s', s'.connection.network.exchanges =
        s.connection.network.exchanges ++ [(r, response?)] ∧
      (∀ e, Client.fetchedRows (r, response?) = .error e →
        fetched = (.error (.ofGrid (.fetch e)), s')) ∧
      ∀ rows, Client.fetchedRows (r, response?) = .ok rows →
        fetched = (.ok (), s') ∧ s'.grid.roster = s.grid.roster.replaceRows p rows := by
  intro fetched
  obtain ⟨response?, network, hexchange⟩ :=
    Client.exists_exchange hr t Client.rowList s.connection
  obtain ⟨out, err, hfetch⟩ := outcome_fetchPerson (client.backend t.recorded) p c s
  have hanswer : (client.backend t.recorded).fetchRows p s.connection =
      (Client.fetchedRows (r, response?), { s.connection with
        network := ⟨network, s.connection.network.exchanges ++ [(r, response?)]⟩ }) := hexchange
  rw [Grid.expand_of_isCollapsed hp] at hfetch
  refine ⟨response?, fetched.2, ?_⟩
  cases hrows : Client.fetchedRows (r, response?) with
  | error e =>
    rw [hrows] at hanswer
    rw [Grid.refresh_of_error _ (congrArg Prod.fst hanswer), hanswer] at hfetch
    rw [show fetched = _ from hfetch]
    refine ⟨rfl, fun failure hfailure ↦ ?_, nofun⟩
    cases hfailure
    rfl
  | ok rows =>
    rw [hrows] at hanswer
    rw [Grid.refresh_of_ok _ (congrArg Prod.fst hanswer), hanswer] at hfetch
    rw [show fetched = _ from hfetch]
    refine ⟨rfl, nofun, fun others hothers ↦ ?_⟩
    cases hothers
    exact ⟨rfl, rfl⟩

/-- What fetching the rows of people leaves behind, one after the other from a session on. -/
structure FetchEnd (client : Client) (people : List PersonId) (s : Session (Recorded τ))
    (outcome : Except Failure Unit × Session (Recorded τ))
    (fetches : List (Request × Option Response)) : Prop where
  sent : outcome.2.connection.network.exchanges = s.connection.network.exchanges ++ fetches
  inOrder : FetchesInOrder client people fetches
  /-- A fetch that fails is the failure of the command. -/
  failed : ∀ e ∈ fetches, ∀ failure, Client.fetchedRows e = .error failure →
    outcome.1 = .error (.ofGrid (.fetch failure))
  /-- If none fails, the grid holds in the end what it held before and what they have brought. -/
  done : (∀ e ∈ fetches, ∃ rows, Client.fetchedRows e = .ok rows) → outcome.1 = .ok () ∧
    ∀ id, (outcome.2.grid.roster.ownerOf? id).isSome ↔
      (s.grid.roster.ownerOf? id).isSome ∨ ∃ e ∈ fetches, Brings e id

/-- The rows of collapsed people are fetched one after the other. -/
theorem exists_fetchEnd (hsendable : ∀ p, ∃ r, client.request (Http.rowsAsk p) = .ok r)
    {people : List PersonRow} (hnodup : (people.map PersonRow.id).Nodup)
    (hcollapsed : ∀ q ∈ people, s.grid.roster.IsCollapsed q.id) :
    ∃ fetches, FetchEnd client (people.map PersonRow.id) s
      ((people.forM fun q ↦ fetchPerson (client.backend t.recorded) q.id).outcome c s)
      fetches := by
  let fetch (q : PersonRow) := fetchPerson (client.backend t.recorded) q.id
  induction people generalizing s with
  | nil =>
    have hnone (e : Request × Option Response) (he : e ∈ []) : False := List.not_mem_nil he
    refine ⟨[], (List.append_nil _).symm, .nil, fun e he ↦ (hnone e he).elim, fun _ ↦ ⟨rfl, ?_⟩⟩
    exact fun id ↦ (or_iff_left fun ⟨e, he, _⟩ ↦ hnone e he).symm
  | cons q rest ih =>
    have hsteps : (q :: rest).forM fetch = fetch q >>= fun _ ↦ rest.forM fetch := rfl
    rw [List.map_cons, List.nodup_cons] at hnodup
    obtain ⟨hq, hrest⟩ := List.forall_mem_cons.mp hcollapsed
    obtain ⟨r, hr⟩ := hsendable q.id
    obtain ⟨response?, s₁, hsent, hfailed, hdone⟩ := outcome_fetch (t := t) (c := c) hq hr
    cases hrows : Client.fetchedRows (r, response?) with
    | error failure =>
      refine ⟨[(r, response?)], ?_⟩
      rw [hsteps, Run.outcome_bind, hfailed failure hrows]
      refine ⟨hsent, .failed hr hrows, fun e he failure' hfailure ↦ ?_, fun hall ↦ ?_⟩
      · obtain rfl := List.mem_singleton.mp he
        cases hrows.symm.trans hfailure
        rfl
      · obtain ⟨rows, hok⟩ := hall _ (List.mem_singleton_self _)
        cases hrows.symm.trans hok
    | ok rows =>
      obtain ⟨hfetched, hroster⟩ := hdone rows hrows
      obtain ⟨fetches, h⟩ := ih (s := s₁) hnodup.2 fun other hother ↦ by
        rw [hroster]
        refine (hrest other hother).replaceRows ?_ rows
        exact fun heq ↦ hnodup.1 (heq ▸ List.mem_map_of_mem hother)
      refine ⟨(r, response?) :: fetches, ?_⟩
      rw [hsteps, Run.outcome_bind_of_ok hfetched]
      refine ⟨?_, .cons hr hrows h.inOrder, fun e he failure hfailure ↦ ?_, fun hall ↦ ?_⟩
      · rw [h.sent, hsent, List.append_assoc, List.singleton_append]
      · rcases List.mem_cons.mp he with rfl | he
        · cases hrows.symm.trans hfailure
        · exact h.failed e he failure hfailure
      · obtain ⟨hok, howner⟩ := h.done fun e he ↦ hall e (List.mem_cons_of_mem _ he)
        refine ⟨hok, fun id ↦ ?_⟩
        have hbrings : Brings (r, response?) id ↔ ∃ a ∈ rows, a.id = id := by
          unfold Brings
          rw [hrows]
          simp
        rw [howner, hroster, hq.isSome_ownerOf?_replaceRows, List.exists_mem_cons_iff, hbrings,
          or_assoc]

/-- The people whose rows are not in a snapshot, in the order in which they are shown. -/
def collapsedPeople (snapshot : Snapshot) : List PersonId :=
  ((Roster.ofSnapshot snapshot.people snapshot.rows).people.filter fun q ↦ !q.isLoaded).map
    PersonRow.id

/-- Nobody is shown twice. -/
theorem nodup_collapsedPeople (snapshot : Snapshot) : (collapsedPeople snapshot).Nodup :=
  (Roster.nodup_ids _).sublist (List.filter_sublist.map PersonRow.id)

/-- Where the grid shows a snapshot, the rows of its collapsed people are fetched. -/
theorem exists_fetchEnd_expandCollapsed {snapshot : Snapshot}
    (hroster : s.grid.roster = Roster.ofSnapshot snapshot.people snapshot.rows)
    (hsendable : ∀ p, ∃ r, client.request (Http.rowsAsk p) = .ok r) :
    ∃ fetches, FetchEnd client (collapsedPeople snapshot) s
      ((expandCollapsed (client.backend t.recorded)).outcome c s) fetches := by
  let people := (Roster.ofSnapshot snapshot.people snapshot.rows).people.filter fun q ↦ !q.isLoaded
  have hcollapsed : ∀ q ∈ people, s.grid.roster.IsCollapsed q.id := by
    intro q hq
    obtain ⟨hmem, hloaded⟩ := List.mem_filter.mp hq
    rw [hroster]
    exact Roster.isCollapsed_ofSnapshot hmem (by simpa using hloaded)
  have hloop : (expandCollapsed (client.backend t.recorded)).outcome c s =
      (people.forM fun q ↦ fetchPerson (client.backend t.recorded) q.id).outcome c s := by
    unfold people
    rw [← hroster]
    rfl
  rw [hloop]
  exact exists_fetchEnd hsendable (nodup_collapsedPeople snapshot) hcollapsed

/-! ### Deleting -/

/-- Delete an assignment, which the grid holds unless it was not found, and tell of it. -/
def deleteHeld (b : Backend (Connection τ)) (id : AssignmentId) : Run τ Unit := do
  let shown := Decimal.intText id.toInt
  if ((← Run.grid).roster.ownerOf? id).isNone then
    Run.log .warn s!"Remove requested for unknown assignment {shown}"
  Run.perform fun g s ↦ g.unassign b id s
  Run.tellLine s!"Removed assignment {shown}"

/-- Rows are fetched first if the assignment is not held. -/
theorem unassign_eq (b : Backend (Connection τ)) (id : AssignmentId) :
    (unassign b id : Run τ Unit) = (do
      let g ← Run.grid
      if (g.roster.ownerOf? id).isNone then do
        expandCollapsed b
        deleteHeld b id
      else deleteHeld b id) := rfl

/-- An assignment that is not held is not deleted. -/
theorem outcome_deleteHeld_of_none {s : Session τ} (h : s.grid.roster.ownerOf? id = none)
    (b : Backend (Connection τ)) (c : Context τ) :
    ∃ s', (deleteHeld b id).outcome c s = (.error (.ofGrid (Grid.noAssignment id)), s') ∧
      s'.connection = s.connection := by
  obtain ⟨out, err, htold⟩ := Run.Prints.log LogLevel.warn
    s!"Remove requested for unknown assignment {Decimal.intText id.toInt}" c s
  have hmissing : s.grid.unassign b id s.connection =
      ⟨.error (Grid.noAssignment id), s.grid, s.connection⟩ := by
    unfold Grid.unassign
    rw [h]
  obtain ⟨s', hfailed, hconnection⟩ := Run.exists_outcome_perform
    (fun g s ↦ g.unassign b id s) c { s with out, err } hmissing
  refine ⟨s', ?_, hconnection⟩
  unfold deleteHeld
  rw [Run.outcome_bind_of_ok Run.outcome_grid, if_pos (by rw [h]; rfl),
    Run.outcome_bind_of_ok htold, Run.outcome_bind, hfailed]

/-- One that is held is deleted with one request. -/
theorem exchanges_deleteHeld (h : (s.grid.roster.ownerOf? id).isSome) {r : Request}
    (hr : client.request (Http.deleteAsk id) = .ok r) :
    ∃ response?, ((deleteHeld (client.backend t.recorded) id).outcome c
      s).2.connection.network.exchanges = s.connection.network.exchanges ++ [(r, response?)] := by
  obtain ⟨p, hp⟩ := Option.isSome_iff_exists.mp h
  obtain ⟨out, err, hperformed⟩ :=
    Run.outcome_perform (fun g s ↦ g.unassign (client.backend t.recorded) id s) c s
  have hbackend : (s.grid.unassign (client.backend t.recorded) id s.connection).backend =
      ((client.backend t.recorded).deleteRow id s.connection).2 := by
    unfold Grid.unassign
    rw [hp]
    dsimp only
    split
    · next heq => rw [heq]
    · next heq => rw [heq]
  have hconnection : ((deleteHeld (client.backend t.recorded) id).outcome c s).2.connection =
      ((client.backend t.recorded).deleteRow id s.connection).2 := by
    unfold deleteHeld
    rw [Run.outcome_bind_of_ok Run.outcome_grid, if_neg (by rw [hp]; nofun)]
    refine (Run.Prints.connection_bind (fun _ ↦ .tell _) c s).trans ?_
    rw [hperformed]
    exact hbackend
  have hasked : (client.backend t.recorded).deleteRow id s.connection =
      client.exchange t.recorded (Http.deleteAsk id) (fun _ ↦ .ok ()) s.connection := rfl
  rw [hconnection, hasked]
  exact client.exchanges_of_request t hr

/-! ### Runs -/

/-- Whether a row with a number is in a snapshot, or in what was fetched without any failure. -/
def IsFound (snapshot : Snapshot) (fetches : List (Request × Option Response))
    (id : AssignmentId) : Prop :=
  (∃ a ∈ snapshot.rows, a.id = id) ∨
    (∀ e ∈ fetches, ∃ rows, Client.fetchedRows e = .ok rows) ∧ ∃ e ∈ fetches, Brings e id

/-- What a run that takes an assignment away leaves behind. It has loaded a snapshot, in the
exchanges `loaded`; `fetches` are those for the rows of people, and `deleted` those to delete. -/
structure UnassignEnd (client : Client) (snapshot : Snapshot) (id : AssignmentId)
    (loaded fetches deleted : List (Request × Option Response)) (ended : Ended (Recorded τ)) :
    Prop where
  sent : ended.network.exchanges = loaded ++ fetches ++ deleted
  /-- No rows are fetched if the snapshot has the assignment. -/
  unfetched : (∃ a ∈ snapshot.rows, a.id = id) → fetches = []
  /-- If it has not, those of all collapsed people are, each once, up to the first failure. -/
  fetched : (¬ ∃ a ∈ snapshot.rows, a.id = id) →
    (collapsedPeople snapshot).Nodup ∧ FetchesInOrder client (collapsedPeople snapshot) fetches
  /-- If a fetch fails nothing is deleted, and the run fails for its reason. -/
  failed : ∀ e ∈ fetches, ∀ failure, Client.fetchedRows e = .error failure →
    deleted = [] ∧ ended.result = .error (.ofGrid (.fetch failure)) ∧
      ended.code = backendCode failure
  /-- What was found is deleted once, -/
  found : IsFound snapshot fetches id →
    ∃ r response?, client.request (Http.deleteAsk id) = .ok r ∧ deleted = [(r, response?)]
  /-- and otherwise nothing is. -/
  spared : ¬ IsFound snapshot fetches id → deleted = []
  /-- If everything was fetched and it was not found, the run fails for this. -/
  missing : (∀ e ∈ fetches, ∃ rows, Client.fetchedRows e = .ok rows) →
    ¬ IsFound snapshot fetches id →
    ended.result = .error (.ofGrid (Grid.noAssignment id)) ∧ ended.code = ExitCode.notFound
  /-- No other request of the whole run deletes. -/
  deletes : (ended.network.exchanges.filter fun e ↦ e.1.method = .delete) = deleted

/-- What is fetched deletes nothing. -/
theorem FetchesInOrder.method_eq {people : List PersonId}
    {fetches : List (Request × Option Response)} (h : FetchesInOrder client people fetches)
    {e : Request × Option Response} (he : e ∈ fetches) : e.1.method = .get := by
  have hasked := h.asked.subset (List.mem_map_of_mem (f := fun e ↦ (.ok e.1 : Answer Request)) he)
  obtain ⟨p, -, hp⟩ := List.mem_map.mp hasked
  exact (Client.eq_of_request hp).1

/-- Where no data were written in `loaded`, and `fetches` only asks, what deletes is in
`deleted`. -/
theorem filter_delete {loaded fetches deleted : List (Request × Option Response)}
    (hloaded : (loaded.filter fun e ↦ e.1.writesData) = [])
    (hfetches : ∀ e ∈ fetches, e.1.method = .get)
    (hdeleted : ∀ e ∈ deleted, e.1.method = .delete) :
    ((loaded ++ fetches ++ deleted).filter fun e ↦ e.1.method = .delete) = deleted := by
  have hquiet : (loaded.filter fun e ↦ e.1.method = .delete) = [] := by
    rw [List.filter_eq_nil_iff] at hloaded ⊢
    intro e he hmethod
    refine hloaded e he ?_
    unfold Request.writesData Request.beginsJob
    rw [of_decide_eq_true hmethod]
    rfl
  have hasking : (fetches.filter fun e ↦ e.1.method = .delete) = [] := by
    rw [List.filter_eq_nil_iff]
    intro e he
    rw [hfetches e he]
    decide
  rw [List.filter_append, List.filter_append, hquiet, hasking, List.nil_append, List.nil_append,
    List.filter_eq_self]
  intro e he
  rw [hdeleted e he]
  rfl

/-- Whether a run has ended with what has come of its command. -/
structure Ended.Reports (ended : Ended τ) (outcome : Except Failure Unit × Session τ) : Prop where
  result : ended.result = outcome.1
  network : ended.network = outcome.2.connection.network

theorem Invocation.reports_run (i : Invocation) (w : Surroundings) (t : Transport τ) (network : τ) :
    (i.run w t network).Reports ((i.body w).outcome (w.context i t) (w.begin network)) :=
  ⟨rfl, rfl⟩

theorem Ended.code_of_error {ended : Ended τ} {f : Failure} (h : ended.result = .error f) :
    ended.code = f.code := by
  unfold Ended.code
  rw [h]

section

variable {snapshot : Snapshot} {ended : Ended (Recorded τ)} {r : Request}
  {fetches : List (Request × Option Response)} {response? : Option Response}
  (hquiet : opened.connection.written = [])
include hquiet

/-- The assignment is in the snapshot. -/
theorem unassignEnd_of_held (hheld : ∃ a ∈ snapshot.rows, a.id = id)
    (hr : client.request (Http.deleteAsk id) = .ok r)
    (hsent : ended.network.exchanges =
      opened.connection.network.exchanges ++ [(r, response?)]) :
    UnassignEnd client snapshot id opened.connection.network.exchanges [] [(r, response?)]
      ended where
  sent := by rw [hsent, List.append_nil]
  unfetched _ := rfl
  fetched hnone := absurd hheld hnone
  failed e he := absurd he List.not_mem_nil
  found _ := ⟨r, response?, hr, rfl⟩
  spared hnone := absurd (.inl hheld) hnone
  missing _ hnone := absurd (.inl hheld) hnone
  deletes := by
    rw [hsent, ← List.append_nil opened.connection.network.exchanges]
    refine filter_delete hquiet (fun e he ↦ absurd he List.not_mem_nil) fun e he ↦ ?_
    rw [List.mem_singleton.mp he]
    exact (Client.eq_of_request hr).1

variable (hnone : ¬ ∃ a ∈ snapshot.rows, a.id = id)
  (horder : FetchesInOrder client (collapsedPeople snapshot) fetches)
include hnone horder

/-- The assignment is in a fetched list. -/
theorem unassignEnd_of_brought
    (hall : ∀ e ∈ fetches, ∃ rows, Client.fetchedRows e = .ok rows)
    (hbrings : ∃ e ∈ fetches, Brings e id) (hr : client.request (Http.deleteAsk id) = .ok r)
    (hsent : ended.network.exchanges =
      opened.connection.network.exchanges ++ fetches ++ [(r, response?)]) :
    UnassignEnd client snapshot id opened.connection.network.exchanges fetches [(r, response?)]
      ended where
  sent := hsent
  unfetched hheld := absurd hheld hnone
  fetched _ := ⟨nodup_collapsedPeople snapshot, horder⟩
  failed e he failure hfailure := by
    obtain ⟨rows, hrows⟩ := hall e he
    cases hrows.symm.trans hfailure
  found _ := ⟨r, response?, hr, rfl⟩
  spared hmissing := absurd (.inr ⟨hall, hbrings⟩) hmissing
  missing _ hmissing := absurd (.inr ⟨hall, hbrings⟩) hmissing
  deletes := by
    rw [hsent]
    refine filter_delete hquiet (fun e he ↦ horder.method_eq he) fun e he ↦ ?_
    rw [List.mem_singleton.mp he]
    exact (Client.eq_of_request hr).1

/-- Nothing is deleted. -/
theorem unassignEnd_of_spared (hspared : ¬ IsFound snapshot fetches id)
    (hfailed : ∀ e ∈ fetches, ∀ failure, Client.fetchedRows e = .error failure →
      ended.result = .error (.ofGrid (.fetch failure)))
    (hmissing : (∀ e ∈ fetches, ∃ rows, Client.fetchedRows e = .ok rows) →
      ended.result = .error (.ofGrid (Grid.noAssignment id)))
    (hsent : ended.network.exchanges = opened.connection.network.exchanges ++ fetches) :
    UnassignEnd client snapshot id opened.connection.network.exchanges fetches [] ended where
  sent := by rw [hsent, List.append_nil]
  unfetched hheld := absurd hheld hnone
  fetched _ := ⟨nodup_collapsedPeople snapshot, horder⟩
  failed e he failure hfailure := by
    have hresult := hfailed e he failure hfailure
    exact ⟨rfl, hresult, Ended.code_of_error hresult⟩
  found hfound := absurd hfound hspared
  spared _ := rfl
  missing hall _ := ⟨hmissing hall, Ended.code_of_error (hmissing hall)⟩
  deletes := by
    rw [hsent, ← List.append_nil (_ ++ fetches)]
    exact filter_delete hquiet (fun e he ↦ horder.method_eq he) fun e he ↦
      absurd he List.not_mem_nil

end

/-- The grid shows a snapshot without the assignment, and the rows of all collapsed people were
fetched from there. -/
theorem exists_unassignEnd_of_fetchEnd {snapshot : Snapshot} {ended : Ended (Recorded τ)}
    {r : Request} {fetches : List (Request × Option Response)}
    (hquiet : opened.connection.written = []) (hnone : ¬ ∃ a ∈ snapshot.rows, a.id = id)
    (howner : opened.grid.roster.ownerOf? id = none)
    (hr : client.request (Http.deleteAsk id) = .ok r)
    (hfetch : FetchEnd client (collapsedPeople snapshot) opened
      ((expandCollapsed (client.backend t.recorded)).outcome c opened) fetches)
    (hended : ended.Reports ((expandCollapsed (client.backend t.recorded) >>= fun _ ↦
      deleteHeld (client.backend t.recorded) id).outcome c opened)) :
    ∃ deleted, UnassignEnd client snapshot id opened.connection.network.exchanges fetches
      deleted ended := by
  rw [Run.outcome_bind] at hended
  generalize (expandCollapsed (client.backend t.recorded)).outcome c opened = expanded
    at hfetch hended
  obtain ⟨result, s⟩ := expanded
  obtain ⟨hsent, horder, hfailed, hdone⟩ := hfetch
  dsimp only at hsent
  by_cases hall : ∀ e ∈ fetches, ∃ rows, Client.fetchedRows e = .ok rows
  · obtain ⟨rfl, howners⟩ := hdone hall
    have hresult := hended.result
    have hexchanges := congrArg Recorded.exchanges hended.network
    have hlater : (s.grid.roster.ownerOf? id).isSome ↔ ∃ e ∈ fetches, Brings e id := by
      rw [howners, howner, Option.isSome_none, or_iff_right Bool.false_ne_true]
    by_cases hbrings : ∃ e ∈ fetches, Brings e id
    · obtain ⟨response?, hdeleted⟩ :=
        exchanges_deleteHeld (t := t) (c := c) (hlater.mpr hbrings) hr
      dsimp only at hexchanges
      rw [hdeleted, hsent] at hexchanges
      exact ⟨_, unassignEnd_of_brought hquiet hnone horder hall hbrings hr hexchanges⟩
    · have hmissing : s.grid.roster.ownerOf? id = none := by
        rw [← Option.not_isSome_iff_eq_none, hlater]
        exact hbrings
      obtain ⟨s', hunsent, hconnection⟩ :=
        outcome_deleteHeld_of_none hmissing (client.backend t.recorded) c
      dsimp only at hresult hexchanges
      rw [hunsent] at hresult hexchanges
      rw [hconnection, hsent] at hexchanges
      refine ⟨[], unassignEnd_of_spared hquiet hnone horder ?_ ?_ (fun _ ↦ hresult) hexchanges⟩
      · exact fun hfound ↦ hfound.elim hnone fun hbrought ↦ hbrings hbrought.2
      · intro e he failure hfailure
        obtain ⟨rows, hrows⟩ := hall e he
        cases hrows.symm.trans hfailure
  · push Not at hall
    obtain ⟨e, he, hnotOk⟩ := hall
    have hincomplete : ¬ ∀ e ∈ fetches, ∃ rows, Client.fetchedRows e = .ok rows := by
      intro hall
      obtain ⟨rows, hrows⟩ := hall e he
      exact hnotOk rows hrows
    cases hfailure : Client.fetchedRows e with
    | ok rows => exact absurd hfailure (hnotOk rows)
    | error failure =>
      obtain rfl := hfailed e he failure hfailure
      have hexchanges := (congrArg Recorded.exchanges hended.network).trans hsent
      refine ⟨[], unassignEnd_of_spared hquiet hnone horder ?_ ?_ ?_ hexchanges⟩
      · exact fun hfound ↦ hfound.elim hnone fun hbrought ↦ hincomplete hbrought.1
      · exact fun e he failure hfailure ↦ hended.result.trans (hfailed e he failure hfailure)
      · exact fun hall ↦ absurd hall hincomplete

/-- A run whose command finds a snapshot in its grid, where requests can be sent. -/
theorem exists_unassignEnd {snapshot : Snapshot} {ended : Ended (Recorded τ)}
    (hroster : opened.grid.roster = Roster.ofSnapshot snapshot.people snapshot.rows)
    (hsendable : ∀ ask : Http.Ask, Http.IsApiPath ask.path → ∃ r, client.request ask = .ok r)
    (hquiet : opened.connection.written = [])
    (hended : ended.Reports ((unassign (client.backend t.recorded) id).outcome c opened)) :
    ∃ fetches deleted, UnassignEnd client snapshot id opened.connection.network.exchanges fetches
      deleted ended := by
  have howner : (opened.grid.roster.ownerOf? id).isSome ↔ ∃ a ∈ snapshot.rows, a.id = id := by
    rw [hroster]
    exact Roster.isSome_ownerOf?_ofSnapshot snapshot.people snapshot.rows id
  obtain ⟨r, hr⟩ := hsendable (Http.deleteAsk id) (Http.isApiPath_rowPath id)
  rw [unassign_eq, Run.outcome_bind_of_ok Run.outcome_grid] at hended
  by_cases hheld : ∃ a ∈ snapshot.rows, a.id = id
  · have hsome := howner.mpr hheld
    rw [if_neg (by rw [Option.isNone_eq_false_iff.mpr hsome]; nofun)] at hended
    obtain ⟨response?, hdeleted⟩ := exchanges_deleteHeld (t := t) (c := c) hsome hr
    have hsent := (congrArg Recorded.exchanges hended.network).trans hdeleted
    exact ⟨[], [(r, response?)], unassignEnd_of_held hquiet hheld hr hsent⟩
  · have hnone : opened.grid.roster.ownerOf? id = none := by
      rw [← Option.not_isSome_iff_eq_none, howner]
      exact hheld
    obtain ⟨fetches, hfetch⟩ := exists_fetchEnd_expandCollapsed (t := t) (c := c) hroster
      fun p ↦ hsendable (Http.rowsAsk p) (Http.isApiPath_rowsPath p)
    rw [if_pos (Option.isNone_iff_eq_none.mpr hnone)] at hended
    exact ⟨fetches, exists_unassignEnd_of_fetchEnd hquiet hheld hnone hr hfetch hended⟩

/-- What every command does first that deals with the grid: it tells of a settings file that cannot
be read, connects and loads. -/
def Surroundings.opening (w : Surroundings) (limits : LoadLimits) : Run τ Unit := do
  w.tellFault
  onGrid limits fun _ ↦ pure ()

/-- A run that takes an assignment away, once the grid is loaded, finds it wherever it is. If the
snapshot does not have it, the rows of all collapsed people are fetched, each once in the order in
which they are shown. At the first failure the run ends. One request to delete is sent if the
snapshot or what was fetched has the assignment, and none otherwise. -/
theorem unassign_finds_row (i : Invocation) (w : Surroundings) (t : Transport τ) (network : τ)
    {limits : LoadLimits} {id : AssignmentId} {opened : Session (Recorded τ)}
    (hopened : (w.opening limits).outcome (w.context i t.recorded) (w.begin ⟨network, []⟩) =
      (.ok (), opened)) :
    let begun := w.begin ⟨network, []⟩
    let ended := Invocation.run { i with command := .unassign limits id } w t.recorded ⟨network, []⟩
    ∃ client request outcome fetches deleted,
      connect.outcome (w.context i t.recorded) begun = (.ok client, begun) ∧
      (Load.acquire w.settings.loadConfig (client.backend t.recorded) request
        begun.connection).result = .ok outcome ∧
      opened.grid.roster = Roster.ofSnapshot outcome.snapshot.people outcome.snapshot.rows ∧
      UnassignEnd client outcome.snapshot id opened.connection.network.exchanges fetches deleted
        ended := by
  intro begun ended
  obtain ⟨out, err, htold⟩ := w.prints_tellFault (w.context i t.recorded) begun
  unfold Surroundings.opening at hopened
  rw [Run.outcome_bind_of_ok htold] at hopened
  obtain ⟨client, _, hopens, hrest⟩ := exists_opens hopened
  cases hrest
  obtain ⟨request, outcome, events, hobtained, hgrid⟩ := hopens.exists_outcome
  have hroster : opened.grid.roster =
      Roster.ofSnapshot outcome.snapshot.people outcome.snapshot.rows := congrArg Grid.roster hgrid
  have hquiet : opened.connection.written = [] :=
    (onGrid_silent t limits rfl fun _ ↦ .pure ()).written_eq_nil rfl hopened
  let command := Command.unassign limits id
  have hbody : (Invocation.body { i with command } w).outcome (w.context i t.recorded) begun =
      (unassign (client.backend t.recorded) id).outcome (w.context i t.recorded) opened := by
    unfold Invocation.body Command.run
    rw [Run.outcome_bind_of_ok htold]
    dsimp only [command]
    rw [hopens.outcome_onGrid]
    rfl
  have hended : ended.Reports
      ((unassign (client.backend t.recorded) id).outcome (w.context i t.recorded) opened) := by
    rw [← hbody]
    exact Invocation.reports_run { i with command } w t.recorded ⟨network, []⟩
  obtain ⟨fetches, deleted, hend⟩ :=
    exists_unassignEnd hroster (fun _ hask ↦ hopens.exists_request hask) hquiet hended
  refine ⟨client, request, outcome, fetches, deleted, ?_, hobtained, hroster, hend⟩
  -- connecting depends on the stored token, which telling has left alone
  have hconnected := hopens.connected
  rw [outcome_connect] at hconnected ⊢
  exact Prod.ext (Prod.mk.inj hconnected).1 rfl

/-- An assignment that is neither in the snapshot nor among the rows of the first collapsed person
is found among those of the second, and one request deletes it. -/
theorem unassign_finds_row_of_second_person :
    let i : Invocation := { command := .logout }
    let stored := Credentials.ofToken "secret" "http://[::1]"
    let w : Surroundings := { auth? := some ⟨String.ofList stored.text, Credentials.fileMode⟩ }
    let people := "[\x7b\"id\": 7\x7d, \x7b\"id\": 8\x7d]"
    let snapshot := "\x7b\"week_keys\": [\"2024-01-01\"], \"people\": " ++ people ++ "\x7d"
    let row := "\x7b\"id\": 42, \"person\": 8, \"project\": 1\x7d"
    let server : Http.Server :=
      { answers := [some ⟨200, "\x7b\"count\": 2\x7d"⟩, some ⟨200, snapshot⟩, some ⟨200, "[]"⟩,
          some ⟨200, "[" ++ row ++ "]"⟩, some ⟨204, ""⟩] }
    let before := (w.opening {}).outcome (w.context i Http.Server.transport.recorded)
      (w.begin ⟨server, []⟩)
    let ended := Invocation.run { i with command := .unassign {} 42 } w
      Http.Server.transport.recorded ⟨server, []⟩
    before.1 = .ok () ∧
      ∃ (client : Client) (outcome : LoadOutcome) (fetches : List (Request × Option Response))
          (r : Request) (response? : Option Response),
        IsFound outcome.snapshot fetches 42 ∧ client.request (Http.deleteAsk 42) = .ok r ∧
        ended.network.exchanges =
          before.2.connection.network.exchanges ++ fetches ++ [(r, response?)] := by
  intro i stored w people snapshot row server before ended
  obtain ⟨hok, hdeletes⟩ : before.1 = .ok () ∧
      (ended.network.exchanges.filter fun e ↦ e.1.method = .delete).length = 1 := by decide +kernel
  have hopened : before = (.ok (), before.2) := Prod.mk.eta.symm.trans (congrArg (·, before.2) hok)
  obtain ⟨client, -, outcome, fetches, deleted, -, -, -, hend⟩ :=
    unassign_finds_row i w Http.Server.transport server hopened
  have hend : UnassignEnd client outcome.snapshot 42 before.2.connection.network.exchanges fetches
    deleted ended := hend
  have hone : deleted.length = 1 := (congrArg List.length hend.deletes).symm.trans hdeletes
  have hfound : IsFound outcome.snapshot fetches 42 := by
    by_contra hnone
    rw [hend.spared hnone] at hone
    cases hone
  obtain ⟨r, response?, hr, hdeleted⟩ := hend.found hfound
  exact ⟨hok, client, outcome, fetches, r, response?, hfound, hr, hdeleted ▸ hend.sent⟩

end Cli

end AssignmentGrid
