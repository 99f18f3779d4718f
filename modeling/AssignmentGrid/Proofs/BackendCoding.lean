import AssignmentGrid.Backend.Job
import AssignmentGrid.Backend.Scope
import AssignmentGrid.Backend.User
import AssignmentGrid.Backend.Write
import AssignmentGrid.Proofs.SnapshotCoding

/-!
# Requests and answers on the wire

Next to snapshots a scope, the status of a job, batches of hours with their results, and a user go
over the wire. They are read back as they were written, too. The result of a job is kept as it was
sent, so that it has to be in the form in which it is written already.
-/

namespace AssignmentGrid

open Json

-- With these a record whose members have known names is read by evaluation.
attribute [local simp] Member.required Member.optional Member.defaulted Member.orNamed Member.field
  Field.answersTo checkMembers missing? toMembers_object Member.get

variable {f : Json → Json}

namespace Scope

attribute [local simp] fields departmentMember childrenMember

theorem unambiguous_fields : Unambiguous fields := by simp [Unambiguous]

/-- A scope is read in whatever order the members stand. -/
theorem ofJson_of_isObject {j : Json} {members : List (String × Json)} (h : j.IsObject members)
    {s : Scope} (hs : ofJson (.object members) = .ok s) : ofJson j = .ok s := by
  refine h.record unambiguous_fields (fun listed members hget ↦ ?_) hs
  simp only [hget departmentMember (by simp), hget childrenMember (by simp)]

/-- A scope is read back from each form. -/
theorem ofJson_form (hf : IsForm f) (s : Scope) : ofJson (f s.toJson) = .ok s := by
  obtain ⟨_ | department, withChildren⟩ := s
  all_goals
    refine ofJson_of_isObject (hf.object (by simp)) ?_
    simp [ofJson, hf.ofInt64, hf.bool]

end Scope

namespace RowResult

attribute [local simp] fields assignmentMember statusMember errorMember

theorem unambiguous_fields : Unambiguous fields := by simp [Unambiguous]

/-- A result is read in whatever order the members stand. -/
theorem ofJson_of_isObject {j : Json} {members : List (String × Json)} (h : j.IsObject members)
    {r : RowResult} (hr : ofJson (.object members) = .ok r) : ofJson j = .ok r := by
  refine h.record unambiguous_fields (fun listed members hget ↦ ?_) hr
  simp only [hget assignmentMember (by simp), hget statusMember (by simp),
    hget errorMember (by simp)]

/-- A result is read back from each form. -/
theorem ofJson_form (hf : IsForm f) (r : RowResult) : ofJson (f r.toJson) = .ok r := by
  refine ofJson_of_isObject (hf.object (by simp)) ?_
  simp [ofJson, hf.ofInt64, hf.string, hf.ofText?]

end RowResult

namespace HoursUpdate

attribute [local simp] fields assignmentMember hoursMember

theorem unambiguous_fields : Unambiguous fields := by simp [Unambiguous]

/-- An update is read in whatever order the members stand. -/
theorem ofJson_of_isObject {j : Json} {members : List (String × Json)} (h : j.IsObject members)
    {u : HoursUpdate} (hu : ofJson (.object members) = .ok u) : ofJson j = .ok u := by
  refine h.record unambiguous_fields (fun listed members hget ↦ ?_) hu
  simp only [hget assignmentMember (by simp), hget hoursMember (by simp)]

/-- An update is read back from each form. -/
theorem ofJson_form (hf : IsForm f) {u : HoursUpdate} (hfinite : u.hours.IsFinite) :
    ofJson (f u.toJson) = .ok u := by
  have hhours := Hours.ofJson_form hf hfinite
  refine ofJson_of_isObject (hf.object (by simp)) ?_
  simp [ofJson, hf.ofInt64, hhours]

end HoursUpdate

namespace User

attribute [local simp] fields emailMember nameMember

theorem unambiguous_fields : Unambiguous fields := by simp [Unambiguous]

/-- A user is read in whatever order the members stand. -/
theorem ofJson_of_isObject {j : Json} {members : List (String × Json)} (h : j.IsObject members)
    {u : User} (hu : ofJson (.object members) = .ok u) : ofJson j = .ok u := by
  refine h.record unambiguous_fields (fun listed members hget ↦ ?_) hu
  simp only [hget emailMember (by simp), hget nameMember (by simp)]

/-- A user is read back from each form. -/
theorem ofJson_form (hf : IsForm f) (u : User) : ofJson (f u.toJson) = .ok u := by
  refine ofJson_of_isObject (hf.object (by simp)) ?_
  simp [ofJson, hf.string, hf.ofText?]

end User

/-! ### Jobs -/

@[simp] theorem JobState.ofJson_name (s : JobState) : ofJson (.string s.name) = .ok s := by
  cases s <;> rfl

namespace JobStatus

attribute [local simp] fields stateMember progressMember messageMember resultMember errorMember

/-- Whether a status can be written: its progress is a finite number, and its result is not
`null`, which stands for no result. -/
structure IsFinite (s : JobStatus) : Prop where
  progress : s.progress.isFinite = true
  result : s.result? ≠ some .null

theorem unambiguous_fields : Unambiguous fields := by simp [Unambiguous]

/-- A status is read in whatever order the members stand. -/
theorem ofJson_of_isObject {j : Json} {members : List (String × Json)} (h : j.IsObject members)
    {s : JobStatus} (hs : ofJson (.object members) = .ok s) : ofJson j = .ok s := by
  refine h.record unambiguous_fields (fun listed members hget ↦ ?_) hs
  simp only [hget stateMember (by simp), hget progressMember (by simp),
    hget messageMember (by simp), hget resultMember (by simp), hget errorMember (by simp)]

theorem toOption_ok_getD {result? : Option Json} (h : result? ≠ some .null) :
    (result?.getD .null).toOption Except.ok = .ok result? := by
  cases result? with
  | none => rfl
  | some result =>
    cases result with
    | null => exact absurd rfl h
    | _ => rfl

/-- A status is read back from each form in which its result stands already. -/
theorem ofJson_form (hf : IsForm f) {s : JobStatus} (hfinite : s.IsFinite)
    (hresult : ∀ result ∈ s.result?, f result = result) : ofJson (f s.toJson) = .ok s := by
  have hprogress := toFloat_ofFloat hfinite.progress
  have hkept : f (s.result?.getD .null) = s.result?.getD .null := by
    cases hs : s.result? with
    | none => exact hf.null
    | some result => exact hresult result hs
  refine ofJson_of_isObject (hf.object (by simp)) ?_
  simp [ofJson, hf.string, hf.ofFloat, hf.ofText?, hkept, hprogress,
    toOption_ok_getD hfinite.result]

end JobStatus

end AssignmentGrid
