import AssignmentGrid.Json.Record
import Mathlib.Data.List.Perm.Basic
import Mathlib.Tactic.Tauto

/-!
# Objects up to the order of their members

In its canonical form an object keeps its members, but not the order in which they stood. Neither
records nor maps are read differently for that: a record that can be read in one order of its
members gives the same in every order, and the entries of a map are the same up to their order.
-/

namespace AssignmentGrid.Json

/-! ### Canonical forms -/

variable {members : List (String × Json)}

theorem insertMember_perm {name : String} (h : name ∉ members.map Prod.fst) (value : Json) :
    (insertMember name value members).Perm ((name, value) :: members) := by
  induction members with
  | nil => exact .refl _
  | cons first rest ih =>
    obtain ⟨hne, hrest⟩ := List.ne_and_not_mem_of_not_mem_cons h
    unfold insertMember
    split
    case h_1 => exact .refl _
    case h_2 hsame => exact absurd (Std.LawfulEqOrd.eq_of_compare hsame) hne
    case h_3 => exact ((ih hrest).cons first).trans (.swap _ _ _)

theorem foldl_insertMember_perm (sorted : List (String × Json))
    (h : ((sorted ++ members).map Prod.fst).Nodup) :
    (members.foldl (fun sorted m ↦ insertMember m.1 m.2 sorted) sorted).Perm
      (sorted ++ members) := by
  induction members generalizing sorted with
  | nil => simp
  | cons first rest ih =>
    have hmiddle : (sorted ++ first :: rest).Perm ((first :: sorted) ++ rest) := List.perm_middle
    have hfirst : first.1 ∉ sorted.map Prod.fst := by
      have hnot := (hmiddle.map Prod.fst).nodup_iff.mp h
      rw [List.cons_append, List.map_cons, List.map_append] at hnot
      exact fun hmem ↦ (List.nodup_cons.mp hnot).1 (List.mem_append_left _ hmem)
    have hinserted := (insertMember_perm hfirst first.2).append_right rest
    have hall := hinserted.trans hmiddle.symm
    exact (ih _ ((hall.map Prod.fst).nodup_iff.mpr h)).trans hall

/-- Members with distinct names are kept by sorting. -/
theorem sortMembers_perm (h : (members.map Prod.fst).Nodup) :
    (sortMembers members).Perm members :=
  foldl_insertMember_perm [] h

/-- A record has the members that are written, if their names are distinct. -/
theorem isSome_member?_ofMembers (h : (members.map Prod.fst).Nodup) (name : String) :
    ((ofMembers members).member? name).isSome = members.any fun e ↦ name == e.1 := by
  rw [Bool.eq_iff_iff]
  unfold ofMembers member?
  rw [List.lookup_isSome_iff, List.any_eq_true]
  simp [(sortMembers_perm h).mem_iff]

theorem canonicalItems_eq (items : List Json) : canonicalItems items = items.map canonical := by
  induction items with
  | nil => rfl
  | cons item more ih => rw [canonicalItems, ih, List.map_cons]

theorem canonicalMembers_eq (members : List (String × Json)) :
    canonicalMembers members = members.map (Prod.map id canonical) := by
  induction members with
  | nil => rfl
  | cons first rest ih => rw [canonicalMembers, ih, List.map_cons, Prod.map, id]

/-- A value is an object with the given members, in any order. -/
def IsObject (j : Json) (members : List (String × Json)) : Prop :=
  ∃ listed, j = .object listed ∧ listed.Perm members

/-- A way to lay out values: what has no members stays as it is, a list keeps its order, and an
object may list its members in another order. -/
structure IsForm (f : Json → Json) : Prop where
  null : f .null = .null
  bool : ∀ b, f (.bool b) = .bool b
  number : ∀ n, f (.number n) = .number n
  string : ∀ s, f (.string s) = .string s
  array : ∀ items, f (.array items) = .array (items.map f)
  object : ∀ {members : List (String × Json)}, (members.map Prod.fst).Nodup →
    (f (.object members)).IsObject (members.map (Prod.map id f))

/-- Values as they are written. -/
theorem isForm_id : IsForm id where
  null := rfl
  bool _ := rfl
  number _ := rfl
  string _ := rfl
  array items := by rw [List.map_id]; rfl
  object {members} _ := ⟨members, rfl, by rw [Prod.map_id, List.map_id]⟩

/-- Values in their canonical form. -/
theorem isForm_canonical : IsForm canonical where
  null := rfl
  bool _ := rfl
  number _ := rfl
  string _ := rfl
  array items := by rw [canonical, canonicalItems_eq]
  object h := by
    refine ⟨_, rfl, ?_⟩
    rw [canonicalMembers_eq]
    refine sortMembers_perm ?_
    rw [List.map_map]
    exact h

namespace IsForm

variable {f : Json → Json}

theorem ofInt64 (hf : IsForm f) (n : Int64) : f (.ofInt64 n) = .ofInt64 n := hf.number _

theorem ofFloat (hf : IsForm f) (x : Float) : f (.ofFloat x) = .ofFloat x := by
  unfold Json.ofFloat
  split
  · exact hf.number _
  · exact hf.null

theorem ofText? (hf : IsForm f) (text? : Option String) : f (.ofText? text?) = .ofText? text? := by
  cases text? with
  | none => exact hf.null
  | some text => exact hf.string text

end IsForm

/-! ### Values -/

@[simp] theorem ok_bind {α β : Type} (a : α) (f : α → Decoded β) : (Except.ok a >>= f) = f a := rfl

/-- What two steps give is what the second one gives for what the first one gives. -/
theorem bind_eq_ok_iff {α β : Type} {x : Decoded α} {f : α → Decoded β} {b : β} :
    (x >>= f) = .ok b ↔ ∃ a, x = .ok a ∧ f a = .ok b := by
  cases x with
  | ok a => simp
  | error e => exact ⟨nofun, fun ⟨_, h, _⟩ ↦ nomatch h⟩

@[simp] theorem toBool_bool (b : Bool) : (bool b).toBool = .ok b := rfl

@[simp] theorem toText_string (s : String) : (string s).toText = .ok s := rfl

@[simp] theorem toOption_null {α : Type} (read : Json → Decoded α) :
    null.toOption read = .ok none := rfl

@[simp] theorem toOption_string (s : String) : (string s).toOption toText = .ok (some s) := rfl

@[simp] theorem toOption_ofText? (text? : Option String) :
    (ofText? text?).toOption toText = .ok text? := by
  cases text? with
  | none => rfl
  | some text => rfl

/-! ### Records -/

/-- The field of a record that a member is read for. -/
def fieldOf? (fields : List Field) (e : String × Json) : Option Field :=
  fields.find? fun f ↦ f.answersTo e.1

/-- The names of the fields that members are read for. -/
def namesRead (fields : List Field) (members : List (String × Json)) : List String :=
  members.filterMap fun e ↦ (fieldOf? fields e).map Field.name

/-- Members are in order when none is refused and no field is read twice. -/
theorem checkMembers_eq_ok_iff (fields : List Field) (seen : List String)
    (members : List (String × Json)) :
    checkMembers fields seen members = .ok () ↔
      (∀ e ∈ members, ∀ f, fieldOf? fields e = some f → f.refusal e.2 = none) ∧
        (namesRead fields members).Nodup ∧ (namesRead fields members).Disjoint seen := by
  induction members generalizing seen with
  | nil => simp [checkMembers, namesRead]
  | cons e rest ih =>
    obtain ⟨name, value⟩ := e
    have hfound : (fields.find? fun f ↦ f.answersTo name) = fieldOf? fields (name, value) := rfl
    rw [checkMembers, hfound]
    cases hfield : fieldOf? fields (name, value) with
    | none => simp [ih, namesRead, hfield]
    | some f =>
      have hnames : namesRead fields ((name, value) :: rest) =
          f.name :: namesRead fields rest := by
        simp [namesRead, hfield]
      rw [hnames, List.nodup_cons, List.disjoint_cons_left, List.forall_mem_cons, hfield]
      by_cases hseen : f.name ∈ seen
      · simp [hseen]
      · cases hrefusal : f.refusal value with
        | some cause => simp [hseen, hrefusal]
        | none =>
          simp only [List.contains_eq_mem, hseen, decide_false, Bool.false_eq_true, ↓reduceIte,
            hrefusal, ih, List.disjoint_cons_right, Option.some.injEq, forall_eq', true_and,
            not_false_eq_true]
          tauto

theorem missing?_perm {listed : List (String × Json)} (fields : List Field)
    (h : listed.Perm members) : missing? fields listed = missing? fields members := by
  unfold missing?
  congr 1
  funext f
  rw [h.any_eq]

/-- An object is read as a record when its members are in order and none is missing. -/
theorem toMembers_object (title : String) (fields : List Field) (members : List (String × Json)) :
    (object members).toMembers title fields =
      match checkMembers fields [] members with
      | .error cause => .error cause
      | .ok () =>
        match missing? fields members with
        | some f => .error (.missingField f.name)
        | none => .ok members := by
  rw [toMembers]
  cases checkMembers fields [] members with
  | error cause => rfl
  | ok _ => rfl

/-- No two fields answer to one name. -/
def Unambiguous (fields : List Field) : Prop :=
  fields.Pairwise fun f g ↦ ∀ name, f.answersTo name = true → g.answersTo name = false

theorem Unambiguous.fieldOf?_eq {fields : List Field} (h : Unambiguous fields) {f : Field}
    (hf : f ∈ fields) {e : String × Json} (he : f.answersTo e.1 = true) :
    fieldOf? fields e = some f := by
  induction fields with
  | nil => cases hf
  | cons g rest ih =>
    obtain ⟨hg, hrest⟩ := List.pairwise_cons.mp h
    rw [fieldOf?, List.find?_cons]
    rcases List.mem_cons.mp hf with rfl | hmem
    · rw [he]
    · have hother : g.answersTo e.1 = false := by
        cases hanswers : g.answersTo e.1 with
        | false => rfl
        | true =>
          have hnot := hg f hmem e.1 hanswers
          rw [he] at hnot
          cases hnot
      rw [hother]
      exact ih hrest hmem

/-- In a record that can be read at most one member is read for a field. -/
theorem Unambiguous.length_filter_le {fields : List Field} (h : Unambiguous fields) {f : Field}
    (hf : f ∈ fields) (hnodup : (namesRead fields members).Nodup) :
    (members.filter fun e ↦ f.answersTo e.1).length ≤ 1 := by
  have hnames : ((members.filter fun e ↦ f.answersTo e.1).map fun _ ↦ f.name).Nodup := by
    refine hnodup.sublist ?_
    have hsame : namesRead fields (members.filter fun e ↦ f.answersTo e.1) =
        (members.filter fun e ↦ f.answersTo e.1).map fun _ ↦ f.name := by
      unfold namesRead
      rw [← List.filterMap_eq_map]
      refine List.filterMap_congr fun e he ↦ ?_
      rw [h.fieldOf?_eq hf (List.mem_filter.mp he).2]
      rfl
    rw [← hsame]
    exact List.filter_sublist.filterMap _
  generalize members.filter (fun e ↦ f.answersTo e.1) = found at hnames ⊢
  match found with
  | [] => exact Nat.zero_le 1
  | [_] => exact Nat.le_refl 1
  | _ :: _ :: _ => simp at hnames

/-- A member of a record is found in every order of the members. -/
theorem Unambiguous.get_perm {fields : List Field} (h : Unambiguous fields) {α : Type}
    {m : Member α} (hm : m.field ∈ fields) {listed : List (String × Json)}
    (hperm : listed.Perm members) (hnodup : (namesRead fields members).Nodup) :
    m.get listed = m.get members := by
  have hfind (l : List (String × Json)) :
      l.find? (fun e ↦ m.field.answersTo e.1) =
        (l.filter fun e ↦ m.field.answersTo e.1).head? := List.head?_filter.symm
  have hfilter := hperm.filter fun e ↦ m.field.answersTo e.1
  have hlength := h.length_filter_le hm hnodup
  have hsame : listed.filter (fun e ↦ m.field.answersTo e.1) =
      members.filter fun e ↦ m.field.answersTo e.1 := by
    generalize members.filter (fun e ↦ m.field.answersTo e.1) = found at hfilter hlength ⊢
    match found with
    | [] => exact hfilter.eq_nil
    | [e] => exact List.perm_singleton.mp hfilter
    | _ :: _ :: _ => simp at hlength
  unfold Member.get
  rw [hfind, hfind, hsame]

/-- What is built from the fields of a record does not depend on the order of its members. -/
theorem IsObject.record {fields : List Field} (hfields : Unambiguous fields) {α : Type}
    {build : List (String × Json) → Decoded α}
    (hbuild : ∀ listed members, (∀ {β : Type} (m : Member β), m.field ∈ fields →
      m.get listed = m.get members) → build listed = build members)
    {title : String} {j : Json} (h : j.IsObject members) {a : α}
    (ha : ((object members).toMembers title fields >>= build) = .ok a) :
    (j.toMembers title fields >>= build) = .ok a := by
  obtain ⟨listed, rfl, hperm⟩ := h
  rw [toMembers_object] at ha
  cases hcheck : checkMembers fields [] members with
  | error cause => simp [hcheck, bind, Except.bind] at ha
  | ok _ =>
    obtain ⟨hnone, hnodup, -⟩ := (checkMembers_eq_ok_iff fields [] members).mp hcheck
    have hlisted : checkMembers fields [] listed = .ok () := by
      refine (checkMembers_eq_ok_iff fields [] listed).mpr ⟨?_, ?_, List.disjoint_nil_right _⟩
      · exact fun e he ↦ hnone e (hperm.mem_iff.mp he)
      · exact (hperm.filterMap _).nodup_iff.mpr hnodup
    cases hmissing : missing? fields members with
    | some f => simp [hcheck, hmissing, bind, Except.bind] at ha
    | none =>
      have hbuilt : build members = .ok a := by
        simpa [hcheck, hmissing, bind, Except.bind] using ha
      rw [toMembers_object, hlisted, missing?_perm fields hperm, hmissing]
      exact (hbuild listed members fun m hm ↦ hfields.get_perm hm hperm hnodup).trans hbuilt

/-! ### Lists and maps -/

/-- What can be read item by item is read as a whole. -/
theorem mapM_eq_ok {α β : Type} {read : α → Decoded β} {items : List α} {values : List β}
    (h : List.Forall₂ (fun item value ↦ read item = .ok value) items values) :
    items.mapM read = .ok values := by
  induction h with
  | nil => rfl
  | cons hitem _ ih =>
    rw [List.mapM_cons, hitem, ih]
    rfl

/-- Whatever is read from a list is read from one of its items. -/
theorem exists_mem_of_mapM {α β : Type} {read : α → Decoded β} {items : List α} {values : List β}
    (h : items.mapM read = .ok values) {value : β} (hvalue : value ∈ values) :
    ∃ item ∈ items, read item = .ok value := by
  induction items generalizing values with
  | nil =>
    obtain rfl : [] = values := Except.ok.inj h
    cases hvalue
  | cons item rest ih =>
    rw [List.mapM_cons, bind_eq_ok_iff] at h
    obtain ⟨first, hfirst, h⟩ := h
    rw [bind_eq_ok_iff] at h
    obtain ⟨others, hothers, h⟩ := h
    obtain rfl : first :: others = values := Except.ok.inj h
    rcases List.mem_cons.mp hvalue with rfl | hvalue
    · exact ⟨item, List.mem_cons_self, hfirst⟩
    · obtain ⟨found, hfound, hread⟩ := ih hothers hvalue
      exact ⟨found, List.mem_cons_of_mem item hfound, hread⟩

theorem toList_eq_ok {α : Type} {read : Json → Decoded α} {write : α → Json} {values : List α}
    (h : ∀ value ∈ values, read (write value) = .ok value) :
    (array (values.map write)).toList read = .ok values := by
  refine mapM_eq_ok ?_
  rw [List.forall₂_map_left_iff, List.forall₂_same]
  exact h

/-- The entries of a map are read in whatever order its members stand. -/
theorem IsObject.toEntries {κ α : Type} {readKey : String → Decoded κ} {read : Json → Decoded α}
    {writeKey : κ → String} {write : α → Json} {entries : List (κ × α)} {j : Json}
    (h : j.IsObject (entries.map fun e ↦ (writeKey e.1, write e.2)))
    (hkey : ∀ e ∈ entries, readKey (writeKey e.1) = .ok e.1)
    (hvalue : ∀ e ∈ entries, read (write e.2) = .ok e.2) :
    ∃ listed, j.toEntries readKey read = .ok listed ∧ listed.Perm entries := by
  obtain ⟨members, rfl, hperm⟩ := h
  have hread : List.Forall₂
      (fun m e ↦ (do
        let key ← readKey m.1
        let value ← read m.2
        return (key, value)) = Except.ok e)
      (entries.map fun e ↦ (writeKey e.1, write e.2)) entries := by
    rw [List.forall₂_map_left_iff, List.forall₂_same]
    intro e he
    simp only [hkey e he, hvalue e he]
    rfl
  obtain ⟨listed, hlisted, hentries⟩ := List.perm_comp_forall₂ hperm hread
  exact ⟨listed, mapM_eq_ok hlisted, hentries⟩

end AssignmentGrid.Json
