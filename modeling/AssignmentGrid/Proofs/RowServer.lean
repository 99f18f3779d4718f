import AssignmentGrid.Proofs.Keeping

/-!
# A server with a list of rows

A small server that keeps rows as `Backend.Keeps` asks for: its rows stand in a list without
repeated numbers, snapshots show some of the people with their rows, and locked rows are refused.
-/

namespace AssignmentGrid

/-- A server with a list of rows. -/
structure RowServer where
  rows : List Assignment
  nodup : (rows.map Assignment.id).Nodup
  /-- The people whose rows come with a snapshot. -/
  shown : List PersonId := []
  /-- The rows whose hours cannot be changed. -/
  locked : List AssignmentId := []

namespace RowServer

/-- The row that is kept under a number. -/
def kept (s : RowServer) : Stored := fun id ↦ s.rows.find? fun a ↦ a.id == id

/-- The server with other hours in some rows. -/
def setHours (s : RowServer) (f : AssignmentId → Option Hours) : RowServer :=
  { s with
    rows := s.rows.map fun a ↦ { a with hours := (f a.id).getD a.hours }
    nodup := by
      rw [List.map_map]
      exact s.nodup }

/-- The server without a row. -/
def erase (s : RowServer) (id : AssignmentId) : RowServer :=
  { s with
    rows := s.rows.filter fun a ↦ a.id ≠ id
    nodup := s.nodup.sublist (List.filter_sublist.map _) }

/-- The server with one more row. -/
def insert (s : RowServer) (row : Assignment) (h : row.id ∉ s.rows.map Assignment.id) :
    RowServer :=
  { s with
    rows := row :: s.rows
    nodup := List.nodup_cons.mpr ⟨h, s.nodup⟩ }

/-- The answer to one row of a batch. -/
def result (s : RowServer) (u : HoursUpdate) : RowResult :=
  if u.assignment ∈ s.locked then .failed u.assignment "assignment is locked"
  else .ok u.assignment

/-- The hours that a batch brings for a row. -/
def accepted? (s : RowServer) (updates : List HoursUpdate) (id : AssignmentId) : Option Hours :=
  if id ∈ s.locked then none
  else (updates.find? fun u ↦ u.assignment == id).map HoursUpdate.hours

/-- Put a person on a project, if the next number is free. -/
def create (p : PersonId) (project : ProjectId) (s : RowServer) : Answer Assignment × RowServer :=
  let row : Assignment := { id := Int64.ofNat (s.rows.length + 1), person := p, project }
  if h : row.id ∈ s.rows.map Assignment.id then (.error (.validation "no free number"), s)
  else (.ok row, s.insert row h)

/-- Delete a row, if it is not locked. -/
def delete (id : AssignmentId) (s : RowServer) : Answer Unit × RowServer :=
  if id ∈ s.locked then (.error (.validation "assignment is locked"), s) else (.ok (), s.erase id)

/-- Replace the hours of a row, if it is there and not locked. -/
def update (id : AssignmentId) (hours : Hours) (s : RowServer) : Answer Assignment × RowServer :=
  if id ∈ s.locked then (.error (.validation "assignment is locked"), s)
  else
    match s.kept id with
    | none => (.error (.notFound "assignment"), s)
    | some a => (.ok { a with hours }, s.setHours fun x ↦ if x = id then some hours else none)

/-- The calls to the server, which runs no jobs. -/
def backend : Backend RowServer where
  fetchSnapshot _ _ s :=
    (.ok { weeks := [⟨"2024-01-01"⟩], rows := s.rows.filter fun a ↦ a.person ∈ s.shown }, s)
  submitJob _ _ s := (.error (.notFound "jobs"), s)
  pollJob _ s := (.error (.notFound "jobs"), s)
  fetchRows p s := (.ok (s.rows.filter fun a ↦ a.person = p), s)
  createRow := create
  deleteRow := delete
  updateHours := update
  updateMany updates s := (.ok (updates.map s.result), s.setHours (s.accepted? updates))
  countPeople _ s := (.ok (UInt64.ofNat s.rows.length), s)
  runsJobs s := (false, s)
  patience _ _ := 0

/-! ### Kept rows -/

variable (s : RowServer)

/-- The rows of the list are the kept ones. -/
theorem kept_eq_some_iff (a : Assignment) : s.kept a.id = some a ↔ a ∈ s.rows := by
  unfold kept
  constructor
  · exact List.mem_of_find?_eq_some
  · intro ha
    cases hfind : s.rows.find? fun b ↦ b.id == a.id with
    | none => simpa using List.find?_eq_none.mp hfind a ha
    | some b =>
      have hid : b.id = a.id := by simpa using List.find?_some hfind
      rw [List.inj_on_of_nodup_map s.nodup (List.mem_of_find?_eq_some hfind) ha hid]

theorem id_of_kept {id : AssignmentId} {a : Assignment} (h : s.kept id = some a) : a.id = id := by
  simpa using List.find?_some h

theorem kept_setHours (f : AssignmentId → Option Hours) (id : AssignmentId) :
    (s.setHours f).kept id =
      (s.kept id).map fun a ↦ { a with hours := (f id).getD a.hours } := by
  unfold kept setHours
  rw [List.find?_map]
  have hsame : ((fun a : Assignment ↦ a.id == id) ∘ fun a : Assignment ↦
      { a with hours := (f a.id).getD a.hours }) = fun a ↦ a.id == id := rfl
  rw [hsame]
  cases hfind : s.rows.find? fun a ↦ a.id == id with
  | none => rfl
  | some a =>
    have hid : a.id = id := by simpa using List.find?_some hfind
    rw [Option.map_some, Option.map_some, hid]

theorem kept_erase (id : AssignmentId) : (s.erase id).kept = Function.update s.kept id none := by
  ext other : 1
  unfold kept erase
  by_cases h : other = id
  · subst h
    rw [Function.update_self, List.find?_eq_none]
    intro a ha
    simpa using (List.mem_filter.mp ha).2
  · rw [Function.update_of_ne h, List.find?_filter]
    congr 1
    ext a
    by_cases ha : a.id = other
    · simp [ha, h]
    · simp [ha]

theorem kept_insert {row : Assignment} (h : row.id ∉ s.rows.map Assignment.id) :
    (s.insert row h).kept = Function.update s.kept row.id (some row) := by
  ext other : 1
  unfold kept insert
  by_cases ho : row.id = other
  · subst ho
    rw [Function.update_self, List.find?_cons_of_pos (by simp)]
  · rw [Function.update_of_ne (Ne.symm ho), List.find?_cons_of_neg (by simpa using ho)]

theorem isOk_result (u : HoursUpdate) : (s.result u).isOk ↔ u.assignment ∉ s.locked := by
  unfold result
  split
  · next hlocked =>
    rw [RowResult.isOk_failed]
    simp [hlocked]
  · next hlocked =>
    rw [RowResult.isOk_ok]
    simp [hlocked]

@[simp] theorem assignment_result (u : HoursUpdate) : (s.result u).assignment = u.assignment := by
  unfold result
  split
  · rfl
  · rfl

/-! ### Calls -/

private theorem create_spec (p : PersonId) (project : ProjectId) :
    (∀ row, (create p project s).1 = .ok row → row.person = p ∧ s.kept row.id = none ∧
      (create p project s).2.kept = Function.update s.kept row.id (some row)) ∧
    (∀ e, (create p project s).1 = .error e → (create p project s).2.kept = s.kept) := by
  unfold create
  dsimp only
  split
  · exact ⟨nofun, fun _ _ ↦ rfl⟩
  · next hfree =>
    refine ⟨?_, nofun⟩
    rintro row ⟨⟩
    refine ⟨rfl, ?_, s.kept_insert hfree⟩
    rw [kept, List.find?_eq_none]
    intro a ha hid
    exact hfree (List.mem_map.mpr ⟨a, ha, by simpa using hid⟩)

private theorem delete_spec (id : AssignmentId) :
    ((delete id s).1 = .ok () → (delete id s).2.kept = Function.update s.kept id none) ∧
    (∀ e, (delete id s).1 = .error e → (delete id s).2.kept = s.kept) := by
  unfold delete
  split
  · exact ⟨nofun, fun _ _ ↦ rfl⟩
  · exact ⟨fun _ ↦ s.kept_erase id, nofun⟩

private theorem update_spec (id : AssignmentId) (hours : Hours) :
    (∀ row, (update id hours s).1 = .ok row →
      (∃ old, s.kept id = some old ∧ row = { old with hours }) ∧
      (update id hours s).2.kept = Function.update s.kept id (some row)) ∧
    (∀ e, (update id hours s).1 = .error e → (update id hours s).2.kept = s.kept) := by
  unfold update
  split
  · exact ⟨nofun, fun _ _ ↦ rfl⟩
  · split
    · exact ⟨nofun, fun _ _ ↦ rfl⟩
    · next old hold =>
      refine ⟨?_, nofun⟩
      rintro row ⟨⟩
      refine ⟨⟨old, hold, rfl⟩, ?_⟩
      ext other : 1
      dsimp only
      rw [kept_setHours]
      by_cases h : other = id
      · subst h
        rw [hold, Function.update_self, if_pos rfl]
        rfl
      · rw [Function.update_of_ne h, if_neg h]
        exact Option.map_id_apply

private theorem updateMany_spec {updates : List HoursUpdate}
    (h : (updates.map HoursUpdate.assignment).Nodup) :
    (∀ r ∈ updates.map s.result, ∀ r' ∈ updates.map s.result,
      r.assignment = r'.assignment → r.isOk = r'.isOk) ∧
    (∀ u ∈ updates, (∃ r ∈ updates.map s.result, r.assignment = u.assignment ∧ r.isOk) →
      (s.setHours (s.accepted? updates)).kept u.assignment =
        (s.kept u.assignment).map fun a ↦ { a with hours := u.hours }) ∧
    (∀ id, (∀ u ∈ updates, u.assignment = id →
        ¬ ∃ r ∈ updates.map s.result, r.assignment = id ∧ r.isOk) →
      (s.setHours (s.accepted? updates)).kept id = s.kept id) := by
  have hok (id : AssignmentId) : (∃ r ∈ updates.map s.result, r.assignment = id ∧ r.isOk) ↔
      (∃ u ∈ updates, u.assignment = id) ∧ id ∉ s.locked := by
    constructor
    · rintro ⟨r, hr, hid, hok⟩
      obtain ⟨u, hu, rfl⟩ := List.mem_map.mp hr
      rw [assignment_result] at hid
      rw [isOk_result, hid] at hok
      exact ⟨⟨u, hu, hid⟩, hok⟩
    · rintro ⟨⟨u, hu, rfl⟩, hfree⟩
      exact ⟨s.result u, List.mem_map_of_mem hu, s.assignment_result u, (s.isOk_result u).mpr hfree⟩
  refine ⟨?_, ?_, ?_⟩
  · intro r hr r' hr' hid
    obtain ⟨u, -, rfl⟩ := List.mem_map.mp hr
    obtain ⟨u', -, rfl⟩ := List.mem_map.mp hr'
    rw [assignment_result, assignment_result] at hid
    rw [Bool.eq_iff_iff, isOk_result, isOk_result, hid]
  · intro u hu hanswer
    have hfree := ((hok u.assignment).mp hanswer).2
    have hfind : updates.find? (fun v ↦ v.assignment == u.assignment) = some u := by
      cases hfind : updates.find? fun v ↦ v.assignment == u.assignment with
      | none => simpa using List.find?_eq_none.mp hfind u hu
      | some v =>
        have hid : v.assignment = u.assignment := by simpa using List.find?_some hfind
        rw [List.inj_on_of_nodup_map h (List.mem_of_find?_eq_some hfind) hu hid]
    rw [kept_setHours, accepted?, if_neg hfree, hfind]
    rfl
  · intro id hnot
    have hnone : s.accepted? updates id = none := by
      unfold accepted?
      split
      · rfl
      · next hfree =>
        rw [Option.map_eq_none_iff, List.find?_eq_none]
        intro u hu hid
        have hid : u.assignment = id := by simpa using hid
        exact hnot u hu hid ((hok id).mpr ⟨⟨u, hu, hid⟩, hfree⟩)
    rw [kept_setHours, hnone]
    exact Option.map_id_apply

/-- The server keeps rows. -/
theorem keeps : backend.Keeps kept where
  keyed s _ _ := s.id_of_kept
  fetchSnapshot _ _ s := by
    refine ⟨rfl, ?_⟩
    rintro snapshot ⟨⟩
    constructor
    case kept =>
      intro a ha
      exact (s.kept_eq_some_iff a).mpr (List.mem_filter.mp ha).1
    case nodup => exact s.nodup.sublist (List.filter_sublist.map _)
    case complete =>
      intro a ha c hc hperson
      have hshown := (List.mem_filter.mp ha).2
      rw [← hperson] at hshown
      exact List.mem_filter.mpr ⟨(s.kept_eq_some_iff c).mp hc, hshown⟩
  submitJob _ _ _ := rfl
  pollJob _ _ := ⟨rfl, nofun⟩
  countPeople _ _ := rfl
  runsJobs _ := rfl
  fetchRows p s := by
    refine ⟨rfl, ?_⟩
    rintro rows ⟨⟩
    refine ⟨s.nodup.sublist (List.filter_sublist.map _), ?_⟩
    intro a
    rw [List.mem_filter, s.kept_eq_some_iff, decide_eq_true_iff]
  createRow p project s := s.create_spec p project
  deleteRow id s := s.delete_spec id
  updateHours id hours s := s.update_spec id hours
  updateMany updates s hnodup := by
    refine ⟨?_, nofun⟩
    rintro results ⟨⟩
    exact s.updateMany_spec hnodup

/-! ### Locks that are released -/

/-- The calls to a server on which a row is locked until a write to it is refused. -/
def unlocking : Backend RowServer :=
  { backend with
    updateHours := fun id hours s ↦
      if id ∈ s.locked then
        (.error (.validation "assignment is locked"), { s with locked := s.locked.erase id })
      else update id hours s }

/-- Such a server stores hours. -/
theorem unlocking_storesHours : unlocking.StoresHours kept where
  updateHours id hours s := by
    by_cases h : id ∈ s.locked
    · have hcall : unlocking.updateHours id hours s =
          (.error (.validation "assignment is locked"), { s with locked := s.locked.erase id }) :=
        if_pos h
      rw [hcall]
      exact ⟨nofun, fun _ _ ↦ rfl⟩
    · have hcall : unlocking.updateHours id hours s = update id hours s := if_neg h
      rw [hcall]
      exact s.update_spec id hours
  updateMany := keeps.updateMany

end RowServer

end AssignmentGrid
