import AssignmentGrid.Proofs.IntegerNames
import AssignmentGrid.Proofs.JsonObjects
import AssignmentGrid.Snapshot

/-!
# Snapshots on the wire

What is written of a snapshot is read back as the same snapshot, as it was written and in the
canonical form in which the result of a job is kept. Only numbers that are not finite cannot be
written. Each record is read in whatever order its members stand, so that what has to be shown is
shown for the order in which they are written.
-/

namespace AssignmentGrid

open Json

/-! ### Maps -/

section Maps

variable {κ α : Type} [Ord κ] [Std.TransOrd κ] [Std.LawfulEqOrd κ] [DecidableEq κ]
  {t : Std.ExtTreeMap κ α}

/-- A map is made again of its entries in any order. -/
theorem ofList_eq_of_perm {entries : List (κ × α)} (h : entries.Perm t.toList) :
    Std.ExtTreeMap.ofList entries = t := by
  have hdistinct : entries.Pairwise fun a b ↦ ¬ compare a.1 b.1 = .eq :=
    (h.pairwise_iff fun hab hba ↦ hab (Std.OrientedCmp.eq_symm hba)).mpr
      Std.ExtTreeMap.distinct_keys_toList
  have hmem (k : κ) (v : α) : (k, v) ∈ entries ↔ t[k]? = some v :=
    h.mem_iff.trans Std.ExtTreeMap.mem_toList_iff_getElem?_eq_some
  refine Std.ExtTreeMap.ext_getElem? fun k ↦ ?_
  cases hk : t[k]? with
  | some v =>
    exact Std.ExtTreeMap.getElem?_ofList_of_mem Std.ReflOrd.compare_self hdistinct
      ((hmem k v).mpr hk)
  | none =>
    have habsent : k ∉ entries.map Prod.fst := by
      rw [List.mem_map]
      rintro ⟨⟨_, v⟩, hv, rfl⟩
      rw [hmem, hk] at hv
      cases hv
    exact Std.ExtTreeMap.getElem?_ofList_of_contains_eq_false
      (Bool.eq_false_iff.mpr fun h ↦ habsent (List.contains_iff_mem.mp h))

/-- A map whose entries can be read one by one is read from each of its forms. -/
theorem toEntries_form {f : Json → Json} (hf : IsForm f) (readKey : String → Decoded κ)
    (writeKey : κ → String) {read : Json → Decoded α} {write : α → Json}
    (hkey : ∀ k, readKey (writeKey k) = .ok k)
    (hvalue : ∀ (k : κ) (v : α), t[k]? = some v → read (f (write v)) = .ok v) :
    ∃ entries, (f (object (t.toList.map fun e ↦ (writeKey e.1, write e.2)))).toEntries
      readKey read = .ok entries ∧ Std.ExtTreeMap.ofList entries = t := by
  have hinjective : Function.Injective writeKey := by
    intro k l hkl
    have hread := hkey k
    rw [hkl, hkey l] at hread
    exact (Except.ok.inj hread).symm
  have hnames : ((t.toList.map fun e ↦ (writeKey e.1, write e.2)).map Prod.fst).Nodup := by
    have hkeys : (t.toList.map Prod.fst).Nodup := by
      rw [Std.ExtTreeMap.map_fst_toList_eq_keys]
      exact Std.ExtTreeMap.nodup_keys
    have hmapped := List.Pairwise.map writeKey (fun a b hab ↦ hinjective.ne hab) hkeys
    rwa [List.map_map] at hmapped ⊢
  have hobject := hf.object hnames
  rw [List.map_map] at hobject
  obtain ⟨entries, hentries, hperm⟩ :=
    @IsObject.toEntries κ α readKey read writeKey (fun v ↦ f (write v)) t.toList _ hobject
      (fun e _ ↦ hkey e.1)
      fun e he ↦ hvalue e.1 e.2 (Std.ExtTreeMap.mem_toList_iff_getElem?_eq_some.mp he)
  exact ⟨entries, hentries, ofList_eq_of_perm hperm⟩

end Maps

namespace Hours

/-- All hours are finite numbers. -/
def IsFinite (h : Hours) : Prop :=
  ∀ (week : WeekKey) (value : Float), h[week]? = some value → value.isFinite = true

theorem isFinite_empty : IsFinite ∅ := by
  intro week value hvalue
  simp at hvalue

theorem IsFinite.insert {h : Hours} (hfinite : h.IsFinite) {week : WeekKey} {value : Float}
    (hvalue : value.isFinite = true) : IsFinite (Std.ExtTreeMap.insert h week value) := by
  intro other found hfound
  rw [Std.ExtTreeMap.getElem?_insert] at hfound
  split at hfound
  · cases hfound
    exact hvalue
  · exact hfinite other found hfound

/-- Hours are read back from each of their forms. -/
theorem ofJson_form {f : Json → Json} (hf : IsForm f) {h : Hours} (hfinite : h.IsFinite) :
    ofJson (f h.toJson) = .ok h := by
  have hvalue (week : WeekKey) (value : Float) (hw : h[week]? = some value) :
      (f (ofFloat value)).toFloat = .ok value := by
    rw [hf.ofFloat]
    exact toFloat_ofFloat (hfinite week value hw)
  obtain ⟨entries, hentries, hmap⟩ :=
    toEntries_form hf (fun name ↦ .ok (WeekKey.mk name)) WeekKey.text (fun _ ↦ rfl) hvalue
  unfold ofJson toJson
  rw [hentries]
  exact congrArg Except.ok hmap

end Hours

namespace Totals

/-- All totals are finite numbers. -/
def IsFinite (t : Totals) : Prop :=
  ∀ (p : PersonId) (h : Hours), t.person? p = some h → h.IsFinite

theorem isFinite_empty : empty.IsFinite := by
  intro p h hp
  simp [person?, empty] at hp

theorem IsFinite.set {t : Totals} (hfinite : t.IsFinite) {p : PersonId} {week : WeekKey}
    {value : Float} (hvalue : value.isFinite = true) : (t.set p week value).IsFinite := by
  have hformer : ((t.person? p).getD ∅).IsFinite := by
    cases hp : t.person? p with
    | none => exact Hours.isFinite_empty
    | some h => exact hfinite p h hp
  intro q h hq
  unfold person? Totals.set at hq
  rw [Std.ExtTreeMap.getElem?_insert] at hq
  split at hq
  · cases hq
    exact hformer.insert hvalue
  · exact hfinite q h hq

/-- Totals are read back from each of their forms. -/
theorem ofJson_form {f : Json → Json} (hf : IsForm f) {t : Totals} (hfinite : t.IsFinite) :
    ofJson (f t.toJson) = .ok t := by
  obtain ⟨entries, hentries, hmap⟩ :=
    toEntries_form hf int64OfKey (fun p : PersonId ↦ Decimal.intText p.toInt)
      int64OfKey_intText fun p h hp ↦ Hours.ofJson_form hf (hfinite p h hp)
  unfold ofJson toJson
  rw [hentries]
  exact congrArg (fun byPerson ↦ Except.ok (Totals.mk byPerson)) hmap

end Totals

/-! ### Records -/

section Records

-- With these a record whose members have known names is read by evaluation.
attribute [local simp] Member.required Member.optional Member.defaulted Member.orNamed Member.field
  Field.answersTo checkMembers missing? toMembers_object Member.get

variable {f : Json → Json}

namespace Person

attribute [local simp] fields idMember nameMember

theorem unambiguous_fields : Unambiguous fields := by simp [Unambiguous]

/-- A person is read in whatever order the members stand. -/
theorem ofJson_of_isObject {j : Json} {members : List (String × Json)} (h : j.IsObject members)
    {p : Person} (hp : ofJson (.object members) = .ok p) : ofJson j = .ok p := by
  refine h.record unambiguous_fields (fun listed members hget ↦ ?_) hp
  simp only [hget idMember (by simp), hget nameMember (by simp)]

/-- A person is read back from each form. -/
theorem ofJson_form (hf : IsForm f) (p : Person) : ofJson (f p.toJson) = .ok p := by
  refine ofJson_of_isObject (hf.object (by simp)) ?_
  simp [ofJson, hf.ofInt64, hf.string]

end Person

namespace Project

attribute [local simp] fields idMember nameMember statusMember

theorem unambiguous_fields : Unambiguous fields := by simp [Unambiguous]

/-- A project is read in whatever order the members stand. -/
theorem ofJson_of_isObject {j : Json} {members : List (String × Json)} (h : j.IsObject members)
    {p : Project} (hp : ofJson (.object members) = .ok p) : ofJson j = .ok p := by
  refine h.record unambiguous_fields (fun listed members hget ↦ ?_) hp
  simp only [hget idMember (by simp), hget nameMember (by simp), hget statusMember (by simp)]

/-- A project is read back from each form. -/
theorem ofJson_form (hf : IsForm f) (p : Project) : ofJson (f p.toJson) = .ok p := by
  refine ofJson_of_isObject (hf.object (by simp)) ?_
  simp [ofJson, hf.ofInt64, hf.string, hf.ofText?]

end Project

namespace Assignment

attribute [local simp] fields idMember personMember projectMember personNameMember
  projectNameMember projectStatusMember hoursMember

theorem unambiguous_fields : Unambiguous fields := by simp [Unambiguous]

/-- An assignment is read in whatever order the members stand. -/
theorem ofJson_of_isObject {j : Json} {members : List (String × Json)} (h : j.IsObject members)
    {a : Assignment} (ha : ofJson (.object members) = .ok a) : ofJson j = .ok a := by
  refine h.record unambiguous_fields (fun listed members hget ↦ ?_) ha
  simp only [hget idMember (by simp), hget personMember (by simp), hget projectMember (by simp),
    hget personNameMember (by simp), hget projectNameMember (by simp),
    hget projectStatusMember (by simp), hget hoursMember (by simp)]

/-- An assignment is read back from each form. -/
theorem ofJson_form (hf : IsForm f) {a : Assignment} (hfinite : a.hours.IsFinite) :
    ofJson (f a.toJson) = .ok a := by
  have hhours := Hours.ofJson_form hf hfinite
  -- Which members are there depends on the three texts that may be absent.
  obtain ⟨id, person, project, _ | personName, _ | projectName, _ | status, hours⟩ := a
  all_goals
    refine ofJson_of_isObject (hf.object (by simp)) ?_
    simp [ofJson, hhours, hf.ofInt64, hf.string]

end Assignment

namespace Snapshot

attribute [local simp] fields weeksMember peopleMember rowsMember projectsMember totalsMember

/-- All hours and totals of a snapshot are finite numbers. -/
structure IsFinite (s : Snapshot) : Prop where
  rows : ∀ a ∈ s.rows, a.hours.IsFinite
  totals : s.totals.IsFinite

theorem unambiguous_fields : Unambiguous fields := by simp [Unambiguous]

/-- A snapshot is read in whatever order the members stand. -/
theorem ofJson_of_isObject {j : Json} {members : List (String × Json)} (h : j.IsObject members)
    {s : Snapshot} (hs : ofJson (.object members) = .ok s) : ofJson j = .ok s := by
  refine h.record unambiguous_fields (fun listed members hget ↦ ?_) hs
  simp only [hget weeksMember (by simp), hget peopleMember (by simp), hget rowsMember (by simp),
    hget projectsMember (by simp), hget totalsMember (by simp)]

/-- A snapshot without infinite numbers is read back from each of its forms. -/
theorem ofJson_form (hf : IsForm f) {s : Snapshot} (hfinite : s.IsFinite) :
    ofJson (f s.toJson) = .ok s := by
  have hweeks : toList weekOfJson (.array (s.weeks.map fun w ↦ .string w.text)) = .ok s.weeks :=
    toList_eq_ok fun w _ ↦ rfl
  have hpeople : toList Person.ofJson (.array (s.people.map fun p ↦ f p.toJson)) = .ok s.people :=
    toList_eq_ok fun p _ ↦ Person.ofJson_form hf p
  have hrows : toList Assignment.ofJson (.array (s.rows.map fun a ↦ f a.toJson)) = .ok s.rows :=
    toList_eq_ok fun a ha ↦ Assignment.ofJson_form hf (hfinite.rows a ha)
  have hprojects : toList Project.ofJson (.array (s.projects.map fun p ↦ f p.toJson)) =
      .ok s.projects := toList_eq_ok fun p _ ↦ Project.ofJson_form hf p
  have htotals := Totals.ofJson_form hf hfinite.totals
  refine ofJson_of_isObject (hf.object (by simp)) ?_
  simp [ofJson, Function.comp_def, hf.array, hf.string, hweeks, hpeople, hrows, hprojects, htotals]

/-- A snapshot without infinite numbers is read back from its canonical form. -/
theorem ofJson_canonical {s : Snapshot} (hfinite : s.IsFinite) :
    ofJson s.toJson.canonical = .ok s :=
  ofJson_form isForm_canonical hfinite

end Snapshot

end Records

end AssignmentGrid
