import AssignmentGrid.Proofs.BackendCoding

/-!
# Finite numbers

A JSON text has no infinite numbers. What is read from values without them has none either, so that
whatever has come over the wire can be written again.
-/

namespace AssignmentGrid

namespace Json

/-- Every number in a value is a finite double. -/
inductive IsFinite : Json → Prop
  | null : IsFinite .null
  | bool (b : Bool) : IsFinite (.bool b)
  | number {n : Number} (h : n.toFloat.isFinite = true) : IsFinite (.number n)
  | string (s : String) : IsFinite (.string s)
  | array {items : List Json} (h : ∀ item ∈ items, item.IsFinite) : IsFinite (.array items)
  | object {members : List (String × Json)} (h : ∀ e ∈ members, e.2.IsFinite) :
      IsFinite (.object members)

@[simp] theorem isFinite_string (s : String) : (string s).IsFinite := .string s

@[simp] theorem isFinite_number_iff {n : Number} :
    (number n).IsFinite ↔ n.toFloat.isFinite = true :=
  ⟨fun h ↦ by cases h with | number hn => exact hn, .number⟩

@[simp] theorem isFinite_array_iff {items : List Json} :
    (array items).IsFinite ↔ ∀ item ∈ items, item.IsFinite :=
  ⟨fun h ↦ by cases h with | array hitems => exact hitems, .array⟩

@[simp] theorem isFinite_object_iff {members : List (String × Json)} :
    (object members).IsFinite ↔ ∀ e ∈ members, e.2.IsFinite :=
  ⟨fun h ↦ by cases h with | object hmembers => exact hmembers, .object⟩

variable {j : Json}

theorem IsFinite.toFloat (hj : j.IsFinite) {x : Float} (h : j.toFloat = .ok x) :
    x.isFinite = true := by
  cases hj with
  | number hn => exact Except.ok.inj h ▸ hn
  | _ => cases h

/-- A list is read from finite items. -/
theorem IsFinite.toList (hj : j.IsFinite) {α : Type} {read : Json → Decoded α} {values : List α}
    (h : j.toList read = .ok values) {value : α} (hvalue : value ∈ values) :
    ∃ item : Json, item.IsFinite ∧ read item = .ok value := by
  cases hj with
  | array hitems =>
    obtain ⟨item, hitem, hread⟩ := exists_mem_of_mapM h hvalue
    exact ⟨item, hitems item hitem, hread⟩
  | _ => cases h

/-- The values of a map are read from finite members. -/
theorem IsFinite.toEntries (hj : j.IsFinite) {κ α : Type} {readKey : String → Decoded κ}
    {read : Json → Decoded α} {entries : List (κ × α)} (h : j.toEntries readKey read = .ok entries)
    {e : κ × α} (he : e ∈ entries) : ∃ value : Json, value.IsFinite ∧ read value = .ok e.2 := by
  cases hj with
  | object hmembers =>
    obtain ⟨m, hm, hread⟩ := exists_mem_of_mapM h he
    obtain ⟨key, -, hread⟩ := bind_eq_ok_iff.mp hread
    obtain ⟨value, hvalue, hread⟩ := bind_eq_ok_iff.mp hread
    obtain rfl : (key, value) = e := Except.ok.inj hread
    exact ⟨m.2, hmembers m hm, hvalue⟩
  | _ => cases h

/-- The members of a record are finite. -/
theorem IsFinite.toMembers (hj : j.IsFinite) {title : String} {fields : List Field}
    {members : List (String × Json)} (h : j.toMembers title fields = .ok members) :
    ∀ e ∈ members, e.2.IsFinite := by
  cases hj with
  | object hmembers =>
    obtain ⟨-, -, h⟩ := bind_eq_ok_iff.mp h
    split at h
    · cases h
    · exact Except.ok.inj h ▸ hmembers
  | array hitems =>
    obtain ⟨-, -, h⟩ := bind_eq_ok_iff.mp h
    split at h
    · cases h
    · split at h
      · cases h
      · obtain rfl := Except.ok.inj h
        exact fun e he ↦ hitems e.2 (List.of_mem_zip he).2
  | _ => cases h

/-- A member of a record is read from one of the values, or it is left out. -/
theorem Member.eq_of_get {α : Type} {m : Member α} {members : List (String × Json)} {value : α}
    (h : m.get members = .ok value) :
    (∃ e ∈ members, m.read e.2 = .ok value) ∨ m.default? = some value := by
  unfold Member.get at h
  split at h
  · next e he => exact .inl ⟨e, List.mem_of_find?_eq_some he, h⟩
  · split at h
    · next value' hdefault => exact .inr (Except.ok.inj h ▸ hdefault)
    · cases h

end Json

open Json

/-- What holds of the values of all entries holds of all values of the map made of them. -/
theorem forall_of_ofList {κ α : Type} [Ord κ] [Std.TransOrd κ] [Std.LawfulEqOrd κ]
    {P : α → Prop} {entries : List (κ × α)} (h : ∀ e ∈ entries, P e.2) (k : κ) (v : α)
    (hv : (Std.ExtTreeMap.ofList entries compare)[k]? = some v) : P v := by
  have hempty : ∀ (k : κ) (v : α), (∅ : Std.ExtTreeMap κ α compare)[k]? = some v → P v := by
    intro k v hv
    rw [Std.ExtTreeMap.getElem?_empty] at hv
    cases hv
  rw [Std.ExtTreeMap.ofList_eq_foldl] at hv
  refine List.foldlRecOn (motive := fun t : Std.ExtTreeMap κ α compare ↦
    ∀ (k : κ) (v : α), t[k]? = some v → P v) entries _ hempty ?_ k v hv
  intro t ht e he k v hv
  rw [Std.ExtTreeMap.getElem?_insert] at hv
  split at hv
  · exact Option.some.inj hv ▸ h e he
  · exact ht k v hv

variable {j : Json}

theorem Hours.isFinite_of_ofJson (hj : j.IsFinite) {h : Hours} (hh : ofJson j = .ok h) :
    h.IsFinite := by
  obtain ⟨entries, hentries, hmap⟩ := bind_eq_ok_iff.mp hh
  obtain rfl := Except.ok.inj hmap
  intro week value hvalue
  refine forall_of_ofList (P := fun value : Float ↦ value.isFinite = true) ?_ week value hvalue
  intro e he
  obtain ⟨item, hitem, hread⟩ := hj.toEntries hentries he
  exact hitem.toFloat hread

theorem Totals.isFinite_of_ofJson (hj : j.IsFinite) {t : Totals} (ht : ofJson j = .ok t) :
    t.IsFinite := by
  obtain ⟨entries, hentries, hmap⟩ := bind_eq_ok_iff.mp ht
  obtain rfl := Except.ok.inj hmap
  refine forall_of_ofList ?_
  intro e he
  obtain ⟨item, hitem, hread⟩ := hj.toEntries hentries he
  exact Hours.isFinite_of_ofJson hitem hread

theorem Assignment.isFinite_of_ofJson (hj : j.IsFinite) {a : Assignment} (ha : ofJson j = .ok a) :
    a.hours.IsFinite := by
  simp only [ofJson, bind_eq_ok_iff] at ha
  obtain ⟨members, hmembers, id, -, person, -, project, -, personName, -, projectName, -, status,
    -, hours, hhours, hbuilt⟩ := ha
  obtain rfl := Except.ok.inj hbuilt
  rcases Member.eq_of_get hhours with ⟨e, he, hread⟩ | hdefault
  · exact Hours.isFinite_of_ofJson (hj.toMembers hmembers e he) hread
  · exact Option.some.inj hdefault ▸ Hours.isFinite_empty

theorem Snapshot.isFinite_of_ofJson (hj : j.IsFinite) {s : Snapshot} (hs : ofJson j = .ok s) :
    s.IsFinite := by
  simp only [ofJson, bind_eq_ok_iff] at hs
  obtain ⟨members, hmembers, weeks, -, people, -, rows, hrows, projects, -, totals, htotals,
    hbuilt⟩ := hs
  obtain rfl := Except.ok.inj hbuilt
  constructor
  case rows =>
    intro a ha
    rcases Member.eq_of_get hrows with ⟨e, he, hread⟩ | hdefault
    · obtain ⟨item, hitem, hrow⟩ := (hj.toMembers hmembers e he).toList hread ha
      exact Assignment.isFinite_of_ofJson hitem hrow
    · rw [← Option.some.inj hdefault] at ha
      cases ha
  case totals =>
    rcases Member.eq_of_get htotals with ⟨e, he, hread⟩ | hdefault
    · exact Totals.isFinite_of_ofJson (hj.toMembers hmembers e he) hread
    · exact Option.some.inj hdefault ▸ Totals.isFinite_empty

theorem HoursUpdate.isFinite_of_ofJson (hj : j.IsFinite) {u : HoursUpdate}
    (hu : ofJson j = .ok u) : u.hours.IsFinite := by
  simp only [ofJson, bind_eq_ok_iff] at hu
  obtain ⟨members, hmembers, assignment, -, hours, hhours, hbuilt⟩ := hu
  obtain rfl := Except.ok.inj hbuilt
  rcases Member.eq_of_get hhours with ⟨e, he, hread⟩ | hdefault
  · exact Hours.isFinite_of_ofJson (hj.toMembers hmembers e he) hread
  · cases hdefault

/-- A result that is `null` is read as none. -/
theorem JobStatus.isFinite_of_ofJson (hj : j.IsFinite) {s : JobStatus} (hs : ofJson j = .ok s) :
    s.IsFinite := by
  simp only [ofJson, bind_eq_ok_iff] at hs
  obtain ⟨members, hmembers, state, -, progress, hprogress, message, -, result, hresult, error, -,
    hbuilt⟩ := hs
  obtain rfl := Except.ok.inj hbuilt
  constructor
  case progress =>
    rcases Member.eq_of_get hprogress with ⟨e, he, hread⟩ | hdefault
    · exact (hj.toMembers hmembers e he).toFloat hread
    · have hzero : (0 : Float).isFinite = true := by decide +kernel
      exact Option.some.inj hdefault ▸ hzero
  case result =>
    rintro rfl
    rcases Member.eq_of_get hresult with ⟨e, he, hread⟩ | hdefault
    · obtain ⟨name, value⟩ := e
      cases value <;> cases hread
    · cases hdefault

end AssignmentGrid
