import AssignmentGrid.Proofs.HeldRows

/-!
# Rosters that mirror stored rows

A server keeps rows under their numbers. A roster mirrors them when every row that it holds is
kept in the same form, when the index of owners fits the rows, and when nothing is missing for
people whose rows are loaded. Each change of a roster that goes along with the same change of the
kept rows keeps it so.
-/

namespace AssignmentGrid

/-- The rows that a server keeps, by number. -/
abbrev Stored := AssignmentId → Option Assignment

/-- Whether rows are kept rows, none of them twice, and for everyone either all or none. -/
structure Stored.Shows (stored : Stored) (rows : List Assignment) : Prop where
  kept : ∀ a ∈ rows, stored a.id = some a
  nodup : (rows.map Assignment.id).Nodup
  complete : ∀ a ∈ rows, ∀ b, stored b.id = some b → b.person = a.person → b ∈ rows

/-- Whether a roster mirrors kept rows. -/
structure Roster.Mirrors (r : Roster) (stored : Stored) : Prop where
  ids : r.ids.Nodup
  /-- A held row is kept in the same form and filed under its person. -/
  kept : ∀ p, ∀ a ∈ r.rowsFor p, stored a.id = some a ∧ a.person = p
  nodup : ∀ p, ((r.rowsFor p).map Assignment.id).Nodup
  /-- An assignment belongs to the person under whom it is held. -/
  owner : ∀ id p, r.ownerOf? id = some p ↔ ∃ a ∈ r.rowsFor p, a.id = id
  /-- Everyone who is loaded has all the own rows. -/
  complete : ∀ p, r.isLoaded p = true → ∀ a, stored a.id = some a → a.person = p →
    a ∈ r.rowsFor p

/-- A person has the rows held before, and the added one if it is theirs. -/
theorem Roster.mem_rowsFor_push (r : Roster) (row : Assignment) (p : PersonId) (a : Assignment) :
    a ∈ (r.push row).rowsFor p ↔ a ∈ r.rowsFor p ∨ (a = row ∧ p = row.person) := by
  unfold push
  rw [rowsFor_file]
  split
  · next hp => simp [hp]
  · next hp => simp [hp]

namespace Roster.Mirrors

variable {r : Roster} {stored stored' : Stored}

/-- No number is held twice, under one person or under several. -/
theorem eq_of_id_eq (h : r.Mirrors stored) {p q : PersonId} {a b : Assignment}
    (ha : a ∈ r.rowsFor p) (hb : b ∈ r.rowsFor q) (hid : a.id = b.id) : a = b := by
  have hka := (h.kept p a ha).1
  have hkb := (h.kept q b hb).1
  rw [hid, hkb] at hka
  exact (Option.some.inj hka).symm

/-- Rows that mirror kept rows are filed well. -/
theorem isWellFiled (h : r.Mirrors stored) : r.IsWellFiled where
  person p a ha := (h.kept p a ha).2
  owner p a ha := (h.owner a.id p).mpr ⟨a, ha, rfl⟩
  nodup := h.nodup

theorem nodup_assignments (h : r.Mirrors stored) : (r.assignments.map Assignment.id).Nodup :=
  h.isWellFiled.nodup_assignments

/-- A held row is found under its key. -/
theorem find?_row (h : r.Mirrors stored) {p : PersonId} {a : Assignment}
    (ha : a ∈ r.rowsFor p) : r.find? a.row = some a :=
  h.isWellFiled.find?_row ha

/-- A row that is found is held under its person. -/
theorem mem_of_find? (h : r.Mirrors stored) {key : RowKey} {a : Assignment}
    (ha : r.find? key = some a) : a ∈ r.rowsFor key.person ∧ a.row = key := by
  rw [find?_eq_some_iff] at ha
  have hmem := List.mem_of_find?_eq_some ha.2
  have hid : a.id = key.assignment := by simpa using List.find?_some ha.2
  refine ⟨hmem, ?_⟩
  unfold Assignment.row
  rw [(h.kept key.person a hmem).2, hid]

/-- Revised rows are the held rows with their revised hours. -/
theorem rowsFor_revise (h : r.Mirrors stored) (f : RowKey → Hours → Hours) (p : PersonId) :
    (r.revise f).rowsFor p =
      (r.rowsFor p).map fun a ↦ { a with hours := f a.row a.hours } := by
  rw [Roster.rowsFor_revise, reviseRows_eq_map (h.nodup p)]
  apply List.map_congr_left
  intro a ha
  have hp : a.person = p := (h.kept p a ha).2
  subst hp
  unfold revisionFor
  rw [if_pos ((h.owner a.id a.person).mpr ⟨a, ha, rfl⟩)]
  rfl

/-- Once a number is removed, no row with it is left. -/
theorem mem_rowsFor_remove (h : r.Mirrors stored) (id : AssignmentId) (q : PersonId)
    (a : Assignment) : a ∈ (r.remove id).2.rowsFor q ↔ a ∈ r.rowsFor q ∧ a.id ≠ id := by
  rw [rowsFor_remove]
  split
  · exact mem_eraseP_id (h.nodup q) id a
  · next hq =>
    rw [iff_self_and]
    intro ha hid
    exact hq ((h.owner id q).mpr ⟨a, ha, hid⟩)

/-- Where all kept rows of a person take the place of the held ones, the index of owners fits
again: it names the person for the new rows and forgets the rows that went. -/
theorem ownerOf?_replaceRows (h : r.Mirrors stored) {p : PersonId} {rows : List Assignment}
    (hrows : ∀ a, a ∈ rows ↔ stored a.id = some a ∧ a.person = p) (id : AssignmentId)
    (q : PersonId) :
    (r.replaceRows p rows).ownerOf? id = some q ↔
      ∃ a ∈ (r.replaceRows p rows).rowsFor q, a.id = id := by
  rw [Roster.ownerOf?_replaceRows, rowsFor_replaceRows]
  by_cases hnew : id ∈ rows.map Assignment.id
  · rw [if_pos hnew]
    obtain ⟨a, ha, rfl⟩ := List.mem_map.mp hnew
    constructor
    · rintro hq
      obtain rfl := Option.some.inj hq
      rw [if_pos rfl]
      exact ⟨a, ha, rfl⟩
    · rintro ⟨b, hb, hid⟩
      split at hb
      · next hq => rw [hq]
      · -- a row held under another person would be kept in two forms
        have hkb := h.kept q b hb
        rw [hid, ((hrows a).mp ha).1] at hkb
        obtain rfl := Option.some.inj hkb.1
        rw [← hkb.2, ((hrows a).mp ha).2]
  · rw [if_neg hnew]
    by_cases hold : id ∈ (r.rowsFor p).map Assignment.id
    · rw [if_pos hold]
      obtain ⟨a, ha, rfl⟩ := List.mem_map.mp hold
      constructor
      · rintro ⟨⟩
      · rintro ⟨b, hb, hid⟩
        split at hb
        · exact absurd (List.mem_map.mpr ⟨b, hb, hid⟩) hnew
        · next hq =>
          have hba := h.eq_of_id_eq hb ha hid
          exact absurd ((h.kept q b hb).2.symm.trans (hba ▸ (h.kept p a ha).2)) hq
    · rw [if_neg hold, h.owner]
      split
      · next hq =>
        constructor
        · rintro ⟨a, ha, hid⟩
          exact absurd (List.mem_map.mpr ⟨a, hq ▸ ha, hid⟩) hold
        · rintro ⟨a, ha, hid⟩
          exact absurd (List.mem_map.mpr ⟨a, ha, hid⟩) hnew
      · rfl

/-! ### Changes that keep the mirror -/

/-- Hours are revised on both sides. -/
theorem revise (h : r.Mirrors stored) {f : RowKey → Hours → Hours}
    (hheld : ∀ p, ∀ a ∈ r.rowsFor p, stored' a.id = some { a with hours := f a.row a.hours })
    (hother : ∀ id, (∀ p, ∀ a ∈ r.rowsFor p, a.id ≠ id) → stored' id = stored id) :
    (r.revise f).Mirrors stored' := by
  constructor
  case ids =>
    rw [ids_revise]
    exact h.ids
  case kept =>
    intro p a ha
    rw [h.rowsFor_revise] at ha
    obtain ⟨b, hb, rfl⟩ := List.mem_map.mp ha
    exact ⟨hheld p b hb, (h.kept p b hb).2⟩
  case nodup =>
    intro p
    rw [h.rowsFor_revise, List.map_map]
    exact h.nodup p
  case owner =>
    intro id p
    rw [ownerOf?_revise, h.owner, h.rowsFor_revise]
    constructor
    · rintro ⟨a, ha, hid⟩
      exact ⟨_, List.mem_map_of_mem ha, hid⟩
    · rintro ⟨a, ha, hid⟩
      obtain ⟨b, hb, rfl⟩ := List.mem_map.mp ha
      exact ⟨b, hb, hid⟩
  case complete =>
    intro p hloaded a ha hp
    rw [isLoaded_revise] at hloaded
    rw [h.rowsFor_revise]
    by_cases hsome : ∃ q, ∃ b ∈ r.rowsFor q, b.id = a.id
    · obtain ⟨q, b, hb, hid⟩ := hsome
      have hkept := (congrArg stored' hid).trans ha
      have hba := Option.some.inj ((hheld q b hb).symm.trans hkept)
      have hq : q = p := by
        rw [← (h.kept q b hb).2, ← hp, ← hba]
      exact List.mem_map.mpr ⟨b, hq ▸ hb, hba⟩
    · have hnone : ∀ q, ∀ b ∈ r.rowsFor q, b.id ≠ a.id :=
        fun q b hb hid ↦ hsome ⟨q, b, hb, hid⟩
      rw [hother a.id hnone] at ha
      exact absurd rfl (hnone p a (h.complete p hloaded a ha hp))

/-- The rows of a person are replaced by all the kept ones. -/
theorem replaceRows (h : r.Mirrors stored) {p : PersonId} {rows : List Assignment}
    (hnodup : (rows.map Assignment.id).Nodup)
    (hrows : ∀ a, a ∈ rows ↔ stored a.id = some a ∧ a.person = p) :
    (r.replaceRows p rows).Mirrors stored := by
  constructor
  case ids => exact nodup_ids _
  case kept =>
    intro q a ha
    rw [rowsFor_replaceRows] at ha
    split at ha
    · next hq =>
      rw [hq]
      exact (hrows a).mp ha
    · exact h.kept q a ha
  case nodup =>
    intro q
    rw [rowsFor_replaceRows]
    split
    · exact hnodup
    · exact h.nodup q
  case complete =>
    intro q hloaded a ha hq
    rw [isLoaded_replaceRows] at hloaded
    rw [rowsFor_replaceRows]
    split
    · next hqp => exact (hrows a).mpr ⟨ha, hq.trans hqp⟩
    · next hqp =>
      rw [if_neg hqp] at hloaded
      exact h.complete q hloaded a ha hq
  case owner => exact h.ownerOf?_replaceRows hrows

/-- A row with a fresh number is added. -/
theorem push (h : r.Mirrors stored) {row : Assignment} (hfresh : stored row.id = none) :
    (r.push row).Mirrors (Function.update stored row.id (some row)) := by
  have hne {p : PersonId} {a : Assignment} (ha : a ∈ r.rowsFor p) : a.id ≠ row.id := by
    intro hid
    have hk := (h.kept p a ha).1
    rw [hid, hfresh] at hk
    cases hk
  constructor
  case ids => exact nodup_ids _
  case kept =>
    intro p a ha
    rcases (mem_rowsFor_push r row p a).mp ha with ha | ⟨rfl, rfl⟩
    · rw [Function.update_of_ne (hne ha)]
      exact h.kept p a ha
    · rw [Function.update_self]
      exact ⟨rfl, rfl⟩
  case nodup =>
    intro p
    unfold Roster.push
    rw [rowsFor_file]
    split
    · rw [List.map_append, List.nodup_append]
      refine ⟨h.nodup p, by simp, ?_⟩
      intro id hid id' hid'
      obtain ⟨a, ha, rfl⟩ := List.mem_map.mp hid
      obtain rfl : id' = row.id := by simpa using hid'
      exact hne ha
    · exact h.nodup p
  case owner =>
    intro id p
    unfold Roster.push
    rw [ownerOf?_file]
    constructor
    · intro hid
      split at hid
      · next heq =>
        obtain rfl := Option.some.inj hid
        exact ⟨row, (mem_rowsFor_push r row row.person row).mpr (.inr ⟨rfl, rfl⟩), heq.symm⟩
      · obtain ⟨a, ha, hida⟩ := (h.owner id p).mp hid
        exact ⟨a, (mem_rowsFor_push r row p a).mpr (.inl ha), hida⟩
    · rintro ⟨a, ha, rfl⟩
      rcases (mem_rowsFor_push r row p a).mp ha with ha | ⟨rfl, rfl⟩
      · rw [if_neg (hne ha)]
        exact (h.owner a.id p).mpr ⟨a, ha, rfl⟩
      · rw [if_pos rfl]
  case complete =>
    intro p hloaded a ha hp
    rw [mem_rowsFor_push]
    have hloadedBefore : r.isLoaded p = true := by
      unfold Roster.push at hloaded
      rw [isLoaded_file] at hloaded
      split at hloaded
      · simpa using hloaded
      · exact hloaded
    by_cases hid : a.id = row.id
    · rw [hid, Function.update_self] at ha
      obtain rfl := Option.some.inj ha
      exact .inr ⟨rfl, hp.symm⟩
    · rw [Function.update_of_ne hid] at ha
      exact .inl (h.complete p hloadedBefore a ha hp)

/-- A row is removed. -/
theorem remove (h : r.Mirrors stored) (id : AssignmentId) :
    (r.remove id).2.Mirrors (Function.update stored id none) := by
  constructor
  case ids =>
    rw [ids_remove]
    exact h.ids
  case kept =>
    intro q a ha
    rw [h.mem_rowsFor_remove] at ha
    rw [Function.update_of_ne ha.2]
    exact h.kept q a ha.1
  case nodup =>
    intro q
    rw [rowsFor_remove]
    split
    · exact (h.nodup q).sublist (List.eraseP_sublist.map _)
    · exact h.nodup q
  case owner =>
    intro other q
    rw [ownerOf?_remove]
    split
    · next heq =>
      constructor
      · rintro ⟨⟩
      · rintro ⟨a, ha, hid⟩
        exact absurd (hid.trans heq) ((h.mem_rowsFor_remove id q a).mp ha).2
    · next hne =>
      rw [h.owner]
      constructor
      · rintro ⟨a, ha, rfl⟩
        exact ⟨a, (h.mem_rowsFor_remove _ q a).mpr ⟨ha, hne⟩, rfl⟩
      · rintro ⟨a, ha, rfl⟩
        exact ⟨a, ((h.mem_rowsFor_remove _ q a).mp ha).1, rfl⟩
  case complete =>
    intro q hloaded a ha hq
    rw [isLoaded_remove] at hloaded
    rw [h.mem_rowsFor_remove]
    by_cases hid : a.id = id
    · rw [hid, Function.update_self] at ha
      cases ha
    · rw [Function.update_of_ne hid] at ha
      exact ⟨h.complete q hloaded a ha hq, hid⟩

end Roster.Mirrors

/-- A snapshot of kept rows is shown as it is kept. -/
theorem Roster.mirrors_ofSnapshot {stored : Stored} (people : List Person)
    {rows : List Assignment} (h : stored.Shows rows) :
    (Roster.ofSnapshot people rows).Mirrors stored := by
  constructor
  case ids => exact nodup_ids _
  case kept =>
    intro p a ha
    rw [rowsFor_ofSnapshot, List.mem_filter] at ha
    exact ⟨h.kept a ha.1, by simpa using ha.2⟩
  case nodup =>
    intro p
    rw [rowsFor_ofSnapshot]
    exact h.nodup.sublist (List.filter_sublist.map _)
  case complete =>
    intro p hloaded a ha hp
    rw [isLoaded_ofSnapshot, List.any_eq_true] at hloaded
    obtain ⟨b, hb, hbp⟩ := hloaded
    have hbp' : b.person = p := by simpa using hbp
    rw [rowsFor_ofSnapshot, List.mem_filter]
    exact ⟨h.complete b hb a ha (hp.trans hbp'.symm), by simpa using hp⟩
  case owner =>
    intro id p
    rw [ownerOf?_ofSnapshot, rowsFor_ofSnapshot, Option.map_eq_some_iff]
    constructor
    · rintro ⟨a, ha, rfl⟩
      have hmem : a ∈ rows := List.mem_reverse.mp (List.mem_of_find?_eq_some ha)
      exact ⟨a, List.mem_filter.mpr ⟨hmem, by simp⟩, by simpa using List.find?_some ha⟩
    · rintro ⟨a, ha, rfl⟩
      obtain ⟨hmem, hp⟩ := List.mem_filter.mp ha
      refine ⟨a, ?_, by simpa using hp⟩
      cases hfind : rows.reverse.find? fun b ↦ b.id = a.id with
      | none => simpa using List.find?_eq_none.mp hfind a (List.mem_reverse.mpr hmem)
      | some b =>
        have hid : b.id = a.id := by simpa using List.find?_some hfind
        have hb : b ∈ rows := List.mem_reverse.mp (List.mem_of_find?_eq_some hfind)
        rw [List.inj_on_of_nodup_map h.nodup hb hmem hid]

end AssignmentGrid
