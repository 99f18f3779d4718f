import AssignmentGrid.Grid.Edit
import AssignmentGrid.Proofs.SelectedBlock
import Mathlib.Algebra.GroupWithZero.Nat
import Mathlib.Algebra.Ring.Int.Defs

/-!
# Moves that are held back

A move along the columns of the axis or along the held rows goes by any number of places and is held
back at both ends. The place is added to the distance in a signed word of 64 bits first: a move to
the right or down whose sum is too great for a word stops, and nothing changes. Specification
`SPEC_FULL.md:103–105,324–325`.
-/

namespace AssignmentGrid

/-! ### Places -/

/-- The place to which a move by `delta` leads among `size` places, if the sum is taken in whole
numbers. -/
def heldPlace (size place : Nat) (delta : Int) : Nat :=
  (max 0 (min ((size : Int) - 1) (place + delta))).toNat

section

variable {size place : Nat} {delta : Int64}

/-- A place and a distance whose sum fits a word are added as whole numbers. -/
theorem clampedMove_of_fits (hplace : place < 2 ^ 63) (hsum : place + delta.toInt < 2 ^ 63) :
    clampedMove size place delta = .ok (heldPlace size place delta.toInt) := by
  have hdelta := delta.minValue_le_toInt
  have hlargest : Int64.maxValue.toInt = 2 ^ 63 - 1 := rfl
  unfold clampedMove heldPlace
  rw [Int64.toInt_ofNat_of_lt hplace]
  dsimp only
  rw [if_pos ⟨by omega, by omega⟩, Int.min_comm]

/-- A sum that is too great for a word stops the move. -/
theorem clampedMove_of_overflow (hplace : place < 2 ^ 63)
    (hsum : 2 ^ 63 ≤ place + delta.toInt) : clampedMove size place delta = .error .overflow := by
  have hlargest : Int64.maxValue.toInt = 2 ^ 63 - 1 := rfl
  unfold clampedMove
  rw [Int64.toInt_ofNat_of_lt hplace]
  exact if_neg fun h ↦ by omega

end

/-! ### Arrivals -/

/-- What a move by `delta` from a place arrives at in a list. -/
structure Arrives {α : Type} (xs : List α) (place : Nat) (delta : Int64) (x : α) : Prop where
  /-- It is held back as in whole numbers, -/
  held : xs[heldPlace xs.length place delta.toInt]? = some x
  /-- so that it ends at the front if it goes that far or farther, -/
  front : place + delta.toInt ≤ 0 → xs.head? = some x
  /-- and likewise at the back. -/
  back : xs.length ≤ place + delta.toInt + 1 → xs.getLast? = some x

/-- How a move by `delta` from a place in a list ends. -/
structure MoveEnd {α : Type} (xs : List α) (place : Nat) (delta : Int64)
    (move : Except Halt (Option α)) : Prop where
  /-- A move whose sum fits a word arrives. -/
  arrives : place + delta.toInt < 2 ^ 63 → ∃ x, move = .ok (some x) ∧ Arrives xs place delta x
  /-- A move whose sum is too great for a word stops. -/
  stops : 2 ^ 63 ≤ place + delta.toInt → move = .error .overflow

/-- A move that is held back arrives. -/
theorem exists_arrives {α : Type} {xs : List α} {place : Nat} (hplace : place < xs.length)
    (delta : Int64) : ∃ x, Arrives xs place delta x := by
  have hheld : heldPlace xs.length place delta.toInt < xs.length := by
    unfold heldPlace
    omega
  refine ⟨_, List.getElem?_eq_getElem hheld, ?_, ?_⟩
  · intro hfront
    have hzero : heldPlace xs.length place delta.toInt = 0 := by
      unfold heldPlace
      omega
    simp [hzero, List.head?_eq_getElem?]
  · intro hback
    have hlast : heldPlace xs.length place delta.toInt = xs.length - 1 := by
      unfold heldPlace
      omega
    simp [hlast, List.getLast?_eq_getElem?]

/-- Every move from a place of a list ends in one of the two ways. -/
theorem moveEnd {α : Type} {xs : List α} (hsize : xs.length < 2 ^ 63) {place : Nat}
    (hplace : place < xs.length) (delta : Int64) :
    MoveEnd xs place delta ((clampedMove xs.length place delta).map fun q ↦ xs[q]?) where
  arrives hsum := by
    obtain ⟨x, harrives⟩ := exists_arrives hplace delta
    rw [clampedMove_of_fits (by omega) hsum]
    exact ⟨x, congrArg Except.ok harrives.held, harrives⟩
  stops hsum := by
    rw [clampedMove_of_overflow (by omega) hsum]
    rfl

/-! ### Columns and rows -/

/-- A move along the axis. -/
theorem WeekAxis.moveEnd_offset {a : WeekAxis} (hsize : a.size < 2 ^ 63) {k : WeekKey} {p : Nat}
    (hk : a.get? p = some k) (delta : Int64) :
    MoveEnd a.keys p delta (a.offset k delta) := by
  have hposition : a.position? k = some p := position?_eq_some_iff.mpr hk
  unfold offset
  rw [hposition]
  exact moveEnd hsize (lt_size_of_position? hposition) delta

/-- A move along the held rows. -/
theorem Roster.moveEnd_neighbor {r : Roster} (hdistinct : r.order.Nodup)
    (hsize : r.order.length < 2 ^ 63) {key : RowKey} {p : Nat} (hkey : r.order[p]? = some key)
    (delta : Int64) : MoveEnd r.order p delta (r.neighbor key delta) := by
  obtain ⟨hplace, hat⟩ := List.getElem?_eq_some_iff.mp hkey
  have hfirst : r.order.idxOf? key = some p := by
    rw [List.idxOf?_eq_some_iff]
    refine ⟨hplace, hat, fun q hq hqkey ↦ ?_⟩
    have hsame : q = p := hdistinct.getElem_inj_iff.mp (hqkey.trans hat.symm)
    omega
  unfold neighbor
  rw [hfirst]
  exact moveEnd hsize hplace delta

/-- With a focused cell, a move over the rows goes to the neighbour of its row, if there is one. -/
theorem Grid.moveRows_of_focus {g : Grid} {focus : Cell} (hfocus : g.selection.focus? = some focus)
    (delta : Int64) :
    g.moveRows delta = (g.roster.neighbor focus.row delta).map fun row? ↦
      row?.elim g fun row ↦ { g with selection := g.selection.pick { focus with row } } := by
  unfold moveRows
  rw [hfocus]

/-- A move by any distance along the axis or along distinct rows arrives as long as the sum of place
and distance fits a word: at the place that the sum in whole numbers gives when it is held back, and
so at the end in question if it goes too far. Then the selection moves there or is stretched to
there. A move whose sum does not fit a word stops, and so does what would follow it. -/
theorem moves_held_back (axis : WeekAxis) (haxis : axis.size < 2 ^ 63) (r : Roster)
    (hrows : r.order.length < 2 ^ 63) (hdistinct : r.order.Nodup) (delta : Int64) :
    (∀ k p, axis.get? p = some k → MoveEnd axis.keys p delta (axis.offset k delta) ∧
      ∀ (s : Selection) (focus : Cell), s.focus? = some focus → focus.week = k →
        (∀ week, axis.offset k delta = .ok (some week) →
          s.moveBy axis delta = .ok (s.pick (focus.inWeek week)) ∧
          s.extendBy axis delta = .ok (s.stretch axis (focus.inWeek week))) ∧
        ∀ e, axis.offset k delta = .error e →
          s.moveBy axis delta = .error e ∧ s.extendBy axis delta = .error e) ∧
    (∀ key p, r.order[p]? = some key → MoveEnd r.order p delta (r.neighbor key delta) ∧
      ∀ (g : Grid) (focus : Cell), g.roster = r → g.selection.focus? = some focus →
        focus.row = key →
        (∀ row, r.neighbor key delta = .ok (some row) →
          g.moveRows delta = .ok { g with selection := g.selection.pick { focus with row } }) ∧
        ∀ e, r.neighbor key delta = .error e → g.moveRows delta = .error e) := by
  constructor
  · intro k p hk
    refine ⟨WeekAxis.moveEnd_offset haxis hk delta, fun s focus hfocus hcolumn ↦ ?_⟩
    have htarget : s.target axis delta =
        (axis.offset k delta).map fun week? ↦ week?.map focus.inWeek := by
      unfold Selection.target
      rw [hfocus, ← hcolumn]
    unfold Selection.moveBy Selection.extendBy
    rw [htarget]
    constructor
    · intro week hweek
      rw [hweek]
      exact ⟨rfl, rfl⟩
    · intro e he
      rw [he]
      exact ⟨rfl, rfl⟩
  · intro key p hkey
    refine ⟨Roster.moveEnd_neighbor hdistinct hrows hkey delta, ?_⟩
    intro g focus hroster hfocus hplace
    rw [Grid.moveRows_of_focus hfocus, hroster, ← hplace]
    constructor
    · intro row hrow
      rw [hrow]
      rfl
    · intro e he
      rw [he]
      rfl

/-- From the first of three weeks and from the first of two rows a move by many places goes to the
last one, and from the second row the longest move stops. -/
theorem moves_held_back_at_last_place :
    let week (day : String) : WeekKey := ⟨day⟩
    let axis := WeekAxis.ofKeys [week "2024-01-01", week "2024-01-08", week "2024-01-15"]
    let r := Roster.ofSnapshot [⟨7, "Ada Park"⟩]
      [{ id := 42, person := 7, project := 1 }, { id := 43, person := 7, project := 2 }]
    axis.size < 2 ^ 63 ∧ r.order.length < 2 ^ 63 ∧ r.order.Nodup ∧
      axis.offset (week "2024-01-01") Int64.maxValue = .ok (some (week "2024-01-15")) ∧
      r.neighbor ⟨7, 42⟩ Int64.maxValue = .ok (some ⟨7, 43⟩) ∧
      r.neighbor ⟨7, 43⟩ Int64.maxValue = .error .overflow := by
  intro week axis r
  have haxis : axis.size < 2 ^ 63 := by decide
  have horder : r.order = [⟨7, 42⟩, ⟨7, 43⟩] := by decide +kernel
  have hrows : r.order.length < 2 ^ 63 := by simp [horder]
  have hdistinct : r.order.Nodup := by simp [horder]
  obtain ⟨hcolumns, hplaces⟩ := moves_held_back axis haxis r hrows hdistinct Int64.maxValue
  obtain ⟨hcolumn, -⟩ := hcolumns (week "2024-01-01") 0 (by decide)
  obtain ⟨hupper, -⟩ := hplaces ⟨7, 42⟩ 0 (by simp [horder])
  obtain ⟨hlower, -⟩ := hplaces ⟨7, 43⟩ 1 (by simp [horder])
  obtain ⟨arrival, hoffset, hweek⟩ := hcolumn.arrives (by decide)
  obtain ⟨row, hneighbor, hrow⟩ := hupper.arrives (by decide)
  obtain rfl : week "2024-01-15" = arrival :=
    Option.some.inj ((by decide : some _ = axis.keys.getLast?).trans (hweek.back (by decide)))
  have hback := hrow.back (by rw [horder]; decide)
  rw [horder] at hback
  obtain rfl : (⟨7, 43⟩ : RowKey) = row := Option.some.inj hback
  exact ⟨haxis, hrows, hdistinct, hoffset, hneighbor, hlower.stops (by decide)⟩

/-- From the second of two weeks and from the second of two rows the longest move to the right and
down stops, although there is a place at which it would be held back. -/
theorem far_move_stops :
    let week (day : String) : WeekKey := ⟨day⟩
    let axis := WeekAxis.ofKeys [week "2024-01-01", week "2024-01-08"]
    let r := Roster.ofSnapshot [⟨7, "Ada Park"⟩]
      [{ id := 42, person := 7, project := 1 }, { id := 43, person := 7, project := 2 }]
    axis.get? (heldPlace axis.size 1 Int64.maxValue.toInt) = some (week "2024-01-08") ∧
      axis.offset (week "2024-01-08") Int64.maxValue = .error .overflow ∧
      r.order[heldPlace r.order.length 1 Int64.maxValue.toInt]? = some ⟨7, 43⟩ ∧
      r.neighbor ⟨7, 43⟩ Int64.maxValue = .error .overflow := by
  decide +kernel

end AssignmentGrid
