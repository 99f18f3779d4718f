import AssignmentGrid.Proofs.BackendCoding
import Mathlib.Data.List.Find

/-!
# Spellings

Some members of records have a second name, and the state of a job that has not ended has several
names. Values that differ in nothing else are read as the same, however deep the difference lies: a
record is checked and read through the fields that answer to the names of its members, and through
what is read from their values.
-/

namespace AssignmentGrid

namespace Json

/-- Which values are two spellings of the same. -/
abbrev Spelling := Json → Json → Prop

/-- Two lists are spellings of the same if their items are. -/
inductive ListRespelled (item : Spelling) : Spelling
  | same (j : Json) : ListRespelled item j j
  | array {items items' : List Json} (h : List.Forall₂ item items items') :
      ListRespelled item (.array items) (.array items')

/-- What is read from a list does not depend on its spelling if that holds of its items. -/
theorem ListRespelled.toList_eq {item : Spelling} {α : Type} {read : Json → Decoded α}
    (hitem : ∀ j j', item j j' → read j = read j') {j j' : Json} (h : ListRespelled item j j') :
    j.toList read = j'.toList read := by
  cases h with
  | same => rfl
  | @array items items' h =>
    have hmapM : items.mapM read = items'.mapM read := by
      induction h with
      | nil => rfl
      | cons hfirst _ ih => rw [List.mapM_cons, List.mapM_cons, hitem _ _ hfirst, ih]
    exact hmapM

/-- Only the value of one member may be spelled otherwise. -/
def onlyAt (part : String) (spelled : Spelling) (name : String) : Spelling :=
  if name = part then spelled else Eq

/-- How a record may be spelled. -/
structure RecordSpelling where
  fields : List Field
  /-- The names that stand for each other. -/
  aliases : List (String × String)
  /-- How the value of a member with a given name may be spelled. -/
  value : String → Spelling

namespace RecordSpelling

variable {r : RecordSpelling}

/-- Two names stand for the same member. -/
def SameName (r : RecordSpelling) (name name' : String) : Prop :=
  name = name' ∨ (name, name') ∈ r.aliases ∨ (name', name) ∈ r.aliases

/-- Two members are spellings of the same. -/
def MemberRespelled (r : RecordSpelling) (e e' : String × Json) : Prop :=
  r.SameName e.1 e'.1 ∧ r.value e.1 e.2 e'.2

/-- The values in an array as members with the names of the fields. -/
def membersOf (r : RecordSpelling) (items : List Json) : List (String × Json) :=
  (r.fields.map Field.name).zip items

/-- Two records are spellings of the same if their members are one by one. -/
inductive Respelled (r : RecordSpelling) : Spelling
  | same (j : Json) : Respelled r j j
  | object {members members' : List (String × Json)}
      (h : List.Forall₂ r.MemberRespelled members members') :
      Respelled r (.object members) (.object members')
  | array {items items' : List Json} (hlength : items.length = items'.length)
      (h : List.Forall₂ r.MemberRespelled (r.membersOf items) (r.membersOf items')) :
      Respelled r (.array items) (.array items')

/-- A member is read the same from two spellings of its value. -/
def ReadsAlike (r : RecordSpelling) {α : Type} (m : Member α) : Prop :=
  ∀ name, m.field.answersTo name = true → ∀ v v', r.value name v v' → m.read v = m.read v'

/-- A member reads alike if it does so for the only values that can be spelled otherwise. -/
theorem readsAlike_of_onlyAt {part : String} {spelled : Spelling}
    (hvalue : r.value = onlyAt part spelled) {α : Type} {m : Member α}
    (h : m.field.answersTo part = true → ∀ v v', spelled v v' → m.read v = m.read v') :
    r.ReadsAlike m := by
  intro name hname v v' hv
  rw [hvalue, onlyAt] at hv
  split at hv
  · next hpart => exact h (hpart ▸ hname) v v' hv
  · exact congrArg m.read hv

theorem ReadsAlike.refusal {α : Type} {m : Member α} (h : r.ReadsAlike m) (name : String)
    (hname : m.field.answersTo name = true) (v v' : Json) (hv : r.value name v v') :
    m.field.refusal v = m.field.refusal v' := by
  have hread := h name hname v v' hv
  simp only [Member.field, hread]

/-- No field tells two spellings apart. -/
structure IsSound (r : RecordSpelling) : Prop where
  aliases : ∀ f ∈ r.fields, ∀ e ∈ r.aliases, f.answersTo e.1 = f.answersTo e.2
  value : ∀ f ∈ r.fields, ∀ name, f.answersTo name = true → ∀ v v', r.value name v v' →
    f.refusal v = f.refusal v'

namespace IsSound

variable {members members' : List (String × Json)}

/-- The same fields answer to both names of a member. -/
theorem answersTo_eq (h : r.IsSound) {name name' : String} (hname : r.SameName name name')
    {f : Field} (hf : f ∈ r.fields) : f.answersTo name = f.answersTo name' := by
  rcases hname with rfl | halias | halias
  · rfl
  · exact h.aliases f hf _ halias
  · exact (h.aliases f hf _ halias).symm

theorem fieldOf?_eq (h : r.IsSound) {e e' : String × Json} (he : r.SameName e.1 e'.1) :
    fieldOf? r.fields e = fieldOf? r.fields e' :=
  List.find?_congr fun _ hf ↦ h.answersTo_eq he hf

theorem checkMembers_eq (h : r.IsSound) (hm : List.Forall₂ r.MemberRespelled members members')
    (seen : List String) :
    checkMembers r.fields seen members = checkMembers r.fields seen members' := by
  induction hm generalizing seen with
  | nil => rfl
  | @cons e e' _ _ he _ ih =>
    have hfound := h.fieldOf?_eq he.1
    unfold fieldOf? at hfound
    simp only [checkMembers, ← hfound]
    split
    · exact ih seen
    · next f hf =>
      have hanswers : f.answersTo e.1 = true :=
        List.find?_some (p := fun f : Field ↦ f.answersTo e.1) hf
      have hrefusal := h.value f (List.mem_of_find?_eq_some hf) e.1 hanswers _ _ he.2
      simp only [hrefusal, ih]

theorem any_eq (h : r.IsSound) (hm : List.Forall₂ r.MemberRespelled members members') {f : Field}
    (hf : f ∈ r.fields) :
    (members.any fun e ↦ f.answersTo e.1) = members'.any fun e ↦ f.answersTo e.1 := by
  induction hm with
  | nil => rfl
  | cons he _ ih => rw [List.any_cons, List.any_cons, h.answersTo_eq he.1 hf, ih]

theorem missing?_eq (h : r.IsSound) (hm : List.Forall₂ r.MemberRespelled members members') :
    missing? r.fields members = missing? r.fields members' :=
  List.find?_congr fun f hf ↦ by rw [h.any_eq hm hf]

theorem get_eq (h : r.IsSound) (hm : List.Forall₂ r.MemberRespelled members members') {α : Type}
    {m : Member α} (hfield : m.field ∈ r.fields) (hread : r.ReadsAlike m) :
    m.get members = m.get members' := by
  induction hm with
  | nil => rfl
  | @cons e e' _ _ he _ ih =>
    have hanswers := h.answersTo_eq he.1 hfield
    unfold Member.get at ih ⊢
    rw [List.find?_cons, List.find?_cons, ← hanswers]
    cases hname : m.field.answersTo e.1 with
    | true => exact hread e.1 hname _ _ he.2
    | false => exact ih

/-- What is built from the fields of a record does not depend on how it is spelled. -/
theorem record (h : r.IsSound) {α : Type} {build : List (String × Json) → Decoded α}
    (hbuild : ∀ members members', (∀ {β : Type} (m : Member β), m.field ∈ r.fields →
      r.ReadsAlike m → m.get members = m.get members') → build members = build members')
    {title : String} {j j' : Json} (hj : r.Respelled j j') :
    (j.toMembers title r.fields >>= build) = (j'.toMembers title r.fields >>= build) := by
  cases hj with
  | same => rfl
  | @object members members' hm =>
    have hbuilt := hbuild members members' fun m hfield hread ↦ h.get_eq hm hfield hread
    rw [toMembers_object, toMembers_object, ← h.checkMembers_eq hm, ← h.missing?_eq hm]
    split
    · rfl
    · split
      · rfl
      · exact hbuilt
  | @array items items' hlength hm =>
    have hbuilt := hbuild _ _ fun m hfield hread ↦ h.get_eq hm hfield hread
    have hcheck := h.checkMembers_eq hm []
    have hmissing := h.missing?_eq hm
    unfold membersOf at hbuilt hcheck hmissing
    simp only [toMembers, ← hcheck, ← hmissing, ← hlength]
    cases checkMembers r.fields [] ((r.fields.map Field.name).zip items) with
    | error cause => rfl
    | ok _ =>
      simp only [ok_bind]
      split
      · rfl
      · split
        · rfl
        · exact hbuilt

end IsSound

end RecordSpelling

end Json

open Json

-- With these the names to which a field answers are known by evaluation.
attribute [local simp] Member.required Member.optional Member.defaulted Member.orNamed Member.field
  Field.answersTo

namespace Assignment

/-- An assignment may name its person, its project and its hours otherwise. -/
def spelling : RecordSpelling where
  fields := fields
  aliases := [("person_id", "person"), ("project_id", "project"), ("weekly_hours", "weeklyHours")]
  value _ := Eq

theorem spelling_readsAlike {α : Type} (m : Member α) : spelling.ReadsAlike m :=
  fun _ _ _ _ hv ↦ congrArg m.read hv

theorem spelling_isSound : spelling.IsSound where
  aliases := by
    simp [spelling, fields, idMember, personMember, projectMember, personNameMember,
      projectNameMember, projectStatusMember, hoursMember]
  value f _ _ _ _ _ hv := congrArg f.refusal hv

/-- An assignment is read the same however it is spelled. -/
theorem ofJson_eq_of_respelled {j j' : Json} (h : spelling.Respelled j j') :
    ofJson j = ofJson j' := by
  refine spelling_isSound.record (fun members members' hget ↦ ?_) h
  have hsame {α : Type} (m : Member α) (hm : m.field ∈ fields) : m.get members = m.get members' :=
    hget m hm (spelling_readsAlike m)
  simp only [hsame idMember (by simp [fields]), hsame personMember (by simp [fields]),
    hsame projectMember (by simp [fields]), hsame personNameMember (by simp [fields]),
    hsame projectNameMember (by simp [fields]), hsame projectStatusMember (by simp [fields]),
    hsame hoursMember (by simp [fields])]

end Assignment

namespace Snapshot

/-- A snapshot may name its weeks and its totals otherwise, and its rows may be spelled
otherwise. -/
def spelling : RecordSpelling where
  fields := fields
  aliases := [("week_keys", "weekKeys"), ("totals", "hoursByPerson")]
  value := onlyAt "rows" (ListRespelled Assignment.spelling.Respelled)

theorem rows_readsAlike : spelling.ReadsAlike rowsMember := by
  refine RecordSpelling.readsAlike_of_onlyAt rfl fun _ v v' hv ↦ ?_
  exact hv.toList_eq fun _ _ hrow ↦ Assignment.ofJson_eq_of_respelled hrow

/-- The members other than the rows cannot be spelled otherwise. -/
theorem spelling_readsAlike {α : Type} {m : Member α} (hrows : ¬ m.field.answersTo "rows") :
    spelling.ReadsAlike m :=
  RecordSpelling.readsAlike_of_onlyAt rfl fun h ↦ absurd h hrows

theorem spelling_isSound : spelling.IsSound where
  aliases := by
    simp [spelling, fields, weeksMember, peopleMember, rowsMember, projectsMember, totalsMember]
  value := by
    intro f hf
    simp only [spelling, fields, List.mem_cons, List.not_mem_nil, or_false] at hf
    rcases hf with rfl | rfl | rfl | rfl | rfl
    case inr.inr.inl => exact rows_readsAlike.refusal
    all_goals exact RecordSpelling.ReadsAlike.refusal (spelling_readsAlike (by decide))

/-- A snapshot is read the same however it and its rows are spelled. -/
theorem ofJson_eq_of_respelled {j j' : Json} (h : spelling.Respelled j j') :
    ofJson j = ofJson j' := by
  refine spelling_isSound.record (fun members members' hget ↦ ?_) h
  have hrows := hget rowsMember (by simp [spelling, fields]) rows_readsAlike
  have hsame {α : Type} (m : Member α) (hm : m.field ∈ fields)
      (hother : ¬ m.field.answersTo "rows") : m.get members = m.get members' :=
    hget m hm (spelling_readsAlike hother)
  simp only [hrows, hsame weeksMember (by simp [fields]) (by decide),
    hsame peopleMember (by simp [fields]) (by decide),
    hsame projectsMember (by simp [fields]) (by decide),
    hsame totalsMember (by simp [fields]) (by decide)]

end Snapshot

namespace JobState

/-- The names under which a job that has not ended may go. -/
def pendingNames : List String := ["PENDING", "STARTED", "PROGRESS", "RUNNING", "QUEUED"]

/-- Two states are spellings of the same if both say that the job has not ended. -/
inductive Respelled : Spelling
  | same (j : Json) : Respelled j j
  | name {name name' : String} (h : name ∈ pendingNames) (h' : name' ∈ pendingNames) :
      Respelled (.string name) (.string name')
  | member {name name' : String} (h : name ∈ pendingNames) (h' : name' ∈ pendingNames) :
      Respelled (.object [(name, .null)]) (.object [(name', .null)])

theorem ofName_of_mem {name : String} (h : name ∈ pendingNames) : ofName name = .ok .pending := by
  simp only [pendingNames, List.mem_cons, List.not_mem_nil, or_false] at h
  rcases h with rfl | rfl | rfl | rfl | rfl <;> rfl

/-- A state is read the same however it is spelled. -/
theorem ofJson_eq_of_respelled {j j' : Json} (h : Respelled j j') : ofJson j = ofJson j' := by
  cases h with
  | same => rfl
  | name h h' => simp only [ofJson, ofName_of_mem h, ofName_of_mem h']
  | member h h' => simp only [ofJson, ofName_of_mem h, ofName_of_mem h']

end JobState

namespace JobStatus

/-- The state of a job may be spelled otherwise; its result is kept as it was sent. -/
def spelling : RecordSpelling where
  fields := fields
  aliases := []
  value := onlyAt "state" JobState.Respelled

theorem state_readsAlike : spelling.ReadsAlike stateMember :=
  RecordSpelling.readsAlike_of_onlyAt rfl fun _ _ _ hv ↦ JobState.ofJson_eq_of_respelled hv

/-- The members other than the state cannot be spelled otherwise. -/
theorem spelling_readsAlike {α : Type} {m : Member α} (hstate : ¬ m.field.answersTo "state") :
    spelling.ReadsAlike m :=
  RecordSpelling.readsAlike_of_onlyAt rfl fun h ↦ absurd h hstate

theorem spelling_isSound : spelling.IsSound where
  aliases := by simp [spelling]
  value := by
    intro f hf
    simp only [spelling, fields, List.mem_cons, List.not_mem_nil, or_false] at hf
    rcases hf with rfl | rfl | rfl | rfl | rfl
    case inl => exact state_readsAlike.refusal
    all_goals exact RecordSpelling.ReadsAlike.refusal (spelling_readsAlike (by decide))

/-- A status is read the same however its state is spelled. -/
theorem ofJson_eq_of_respelled {j j' : Json} (h : spelling.Respelled j j') :
    ofJson j = ofJson j' := by
  refine spelling_isSound.record (fun members members' hget ↦ ?_) h
  have hstate := hget stateMember (by simp [spelling, fields]) state_readsAlike
  have hsame {α : Type} (m : Member α) (hm : m.field ∈ fields)
      (hother : ¬ m.field.answersTo "state") : m.get members = m.get members' :=
    hget m hm (spelling_readsAlike hother)
  simp only [hstate, hsame progressMember (by simp [fields]) (by decide),
    hsame messageMember (by simp [fields]) (by decide),
    hsame resultMember (by simp [fields]) (by decide),
    hsame errorMember (by simp [fields]) (by decide)]

end JobStatus

end AssignmentGrid
