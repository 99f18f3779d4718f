import AssignmentGrid.Proofs.FiniteNumbers
import AssignmentGrid.Proofs.Spelling

/-!
# Round trips over the wire

Whatever has been read can be written and is read back as it was, and so it is written the same
again. How the value was spelled that it has been read from does not matter. Specification
`SPEC_FULL.md:207–219,297–300`.
-/

namespace AssignmentGrid

open Json

/-- What goes over the wire. -/
inductive WireType where
  | assignment
  | snapshot
  | jobStatus
  | rowResult
  | scope
  | person
  | project
  | hoursUpdate
  | totals
  | user
  deriving DecidableEq, Repr

namespace WireType

/-- What is read from a value. -/
def Content : WireType → Type
  | assignment => Assignment
  | snapshot => Snapshot
  | jobStatus => JobStatus
  | rowResult => RowResult
  | scope => Scope
  | person => Person
  | project => Project
  | hoursUpdate => HoursUpdate
  | totals => Totals
  | user => User

/-- Read a value. -/
def ofJson : (t : WireType) → Json → Decoded t.Content
  | assignment => Assignment.ofJson
  | snapshot => Snapshot.ofJson
  | jobStatus => JobStatus.ofJson
  | rowResult => RowResult.ofJson
  | scope => Scope.ofJson
  | person => Person.ofJson
  | project => Project.ofJson
  | hoursUpdate => HoursUpdate.ofJson
  | totals => Totals.ofJson
  | user => User.ofJson

/-- Write a value. -/
def toJson : (t : WireType) → t.Content → Json
  | assignment => Assignment.toJson
  | snapshot => Snapshot.toJson
  | jobStatus => JobStatus.toJson
  | rowResult => RowResult.toJson
  | scope => Scope.toJson
  | person => Person.toJson
  | project => Project.toJson
  | hoursUpdate => HoursUpdate.toJson
  | totals => Totals.toJson
  | user => User.toJson

/-- Which values are spellings of the same; the other types have no second names. -/
def Respelled : WireType → Spelling
  | assignment => Assignment.spelling.Respelled
  | snapshot => Snapshot.spelling.Respelled
  | jobStatus => JobStatus.spelling.Respelled
  | rowResult | scope | person | project | hoursUpdate | totals | user => Eq

/-- Whether a way to lay out values keeps what is kept as it was sent: the result of a job. -/
def IsKept (f : Json → Json) : (t : WireType) → t.Content → Prop
  | jobStatus, (s : JobStatus) => ∀ result ∈ s.result?, f result = result
  | _, _ => True

/-- Whatever has been read from finite numbers is read back from each of its forms. -/
theorem ofJson_form {f : Json → Json} (hf : IsForm f) (t : WireType) {j : Json} (hj : j.IsFinite)
    {x : t.Content} (hx : t.ofJson j = .ok x) (hkept : t.IsKept f x) :
    t.ofJson (f (t.toJson x)) = .ok x := by
  cases t with
  | assignment => exact Assignment.ofJson_form hf (Assignment.isFinite_of_ofJson hj hx)
  | snapshot => exact Snapshot.ofJson_form hf (Snapshot.isFinite_of_ofJson hj hx)
  | jobStatus => exact JobStatus.ofJson_form hf (JobStatus.isFinite_of_ofJson hj hx) hkept
  | rowResult => exact RowResult.ofJson_form hf x
  | scope => exact Scope.ofJson_form hf x
  | person => exact Person.ofJson_form hf x
  | project => exact Project.ofJson_form hf x
  | hoursUpdate => exact HoursUpdate.ofJson_form hf (HoursUpdate.isFinite_of_ofJson hj hx)
  | totals => exact Totals.ofJson_form hf (Totals.isFinite_of_ofJson hj hx)
  | user => exact User.ofJson_form hf x

/-- A value is read the same however it is spelled. -/
theorem ofJson_eq_of_respelled (t : WireType) {j j' : Json} (h : t.Respelled j j') :
    t.ofJson j = t.ofJson j' := by
  cases t with
  | assignment => exact Assignment.ofJson_eq_of_respelled h
  | snapshot => exact Snapshot.ofJson_eq_of_respelled h
  | jobStatus => exact JobStatus.ofJson_eq_of_respelled h
  | rowResult | scope | person | project | hoursUpdate | totals | user =>
    obtain rfl : j = j' := h
    rfl

theorem isKept_id (t : WireType) (x : t.Content) : t.IsKept id x := by
  cases t with
  | jobStatus => exact fun _ _ ↦ rfl
  | _ => trivial

/-- What has been read from finite numbers is read back as it was written, and is written the same
again; however the value is spelled, the same is read from it. -/
theorem read_back_and_spelled_freely (t : WireType) {j : Json} (hj : j.IsFinite) {x : t.Content}
    (hx : t.ofJson j = .ok x) :
    t.ofJson (t.toJson x) = .ok x ∧
      (t.ofJson (t.toJson x)).map t.toJson = .ok (t.toJson x) ∧
      ∀ j', t.Respelled j j' → t.ofJson j' = .ok x := by
  have hback : t.ofJson (t.toJson x) = .ok x := ofJson_form isForm_id t hj hx (isKept_id t x)
  have hagain : (t.ofJson (t.toJson x)).map t.toJson = .ok (t.toJson x) := by
    rw [hback]
    rfl
  exact ⟨hback, hagain, fun j' h ↦ (ofJson_eq_of_respelled t h).symm.trans hx⟩

/-- The hours of one week. -/
def weekJson : Json := .object [("2024-W01", .number (.real 7.5))]

/-- A row whose members with second names go by the given names. -/
def rowJson (person project hours : String) : Json :=
  .object [("id", .number (.whole 1)), (person, .number (.whole 7)),
    (project, .number (.whole 3)), (hours, weekJson)]

/-- A snapshot with a row, whose members with second names go by the given names. -/
def oneRowJson (weeks totals : String) (row : Json) : Json :=
  .object [(weeks, .array [.string "2024-W01"]), ("rows", .array [row]),
    (totals, .object [("7", weekJson)])]

/-- The snapshot under its first names. -/
def firstNames : Json :=
  oneRowJson "week_keys" "totals" (rowJson "person_id" "project_id" "weekly_hours")

/-- The snapshot under its second names. -/
def secondNames : Json :=
  oneRowJson "weekKeys" "hoursByPerson" (rowJson "person" "project" "weeklyHours")

/-- The snapshot that is read from both. -/
def oneRow : Snapshot :=
  let hours : Hours := Std.ExtTreeMap.ofList [(WeekKey.mk "2024-W01", 7.5)]
  { weeks := [⟨"2024-W01"⟩]
    rows := [{ id := 1, person := 7, project := 3, hours }]
    totals := ⟨Std.ExtTreeMap.ofList [((7 : PersonId), hours)]⟩ }

/-- A snapshot that uses all second names is read back, and its first names would do as well. -/
theorem second_names_read_back :
    secondNames.IsFinite ∧ snapshot.ofJson secondNames = .ok oneRow ∧
      snapshot.ofJson oneRow.toJson = .ok oneRow ∧
      (snapshot.ofJson oneRow.toJson).map snapshot.toJson = .ok oneRow.toJson ∧
      snapshot.ofJson firstNames = .ok oneRow := by
  have hfinite : secondNames.IsFinite := by
    have hnumbers : ∀ n ∈ [Number.real 7.5, .whole 1, .whole 7, .whole 3],
        n.toFloat.isFinite = true := by decide +kernel
    simp only [List.forall_mem_cons] at hnumbers
    simp [secondNames, oneRowJson, rowJson, weekJson, hnumbers]
  have hread : snapshot.ofJson secondNames = .ok oneRow := rfl
  have hrow : Assignment.spelling.Respelled (rowJson "person" "project" "weeklyHours")
      (rowJson "person_id" "project_id" "weekly_hours") :=
    .object (by simp [RecordSpelling.MemberRespelled, RecordSpelling.SameName, Assignment.spelling])
  have hrows := ListRespelled.array (.cons hrow .nil)
  have hrespelled : snapshot.Respelled secondNames firstNames :=
    .object (by simp [RecordSpelling.MemberRespelled, RecordSpelling.SameName, Snapshot.spelling,
      onlyAt, hrows])
  obtain ⟨hback, hagain, hspelled⟩ := read_back_and_spelled_freely snapshot hfinite hread
  exact ⟨hfinite, hread, hback, hagain, hspelled _ hrespelled⟩

end WireType

end AssignmentGrid
