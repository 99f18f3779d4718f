import AssignmentGrid.Json.Cursor

/-!
# Passing over a value

A value that nobody asks for is passed over: it must be well formed, but what its texts and
numbers denote does not matter. The open arrays and objects stand on a stack, from the inside
out.
-/

namespace AssignmentGrid.Json

/-- An array or object that is open. -/
inductive Enclosure where
  | array
  | object
  deriving DecidableEq, Repr

namespace Enclosure

/-- The character that closes it. -/
def closer : Enclosure → Char
  | array => ']'
  | object => '\x7d'

/-- The fault of a text that ends in it. -/
def cutShort : Enclosure → Fault
  | array => .endInArray
  | object => .endInObject

/-- The fault of a character that neither separates nor closes. -/
def unseparated : Enclosure → Fault
  | array => .expectedItemEnd
  | object => .expectedMemberEnd

end Enclosure

/-- What comes next while a value is passed over. -/
inductive Stage where
  /-- Something behind a value. -/
  | behind
  /-- A value. -/
  | value
  /-- An item of the innermost array or a member of the innermost object. -/
  | item
  /-- Whatever comes first in the innermost array or object. -/
  | first
  deriving DecidableEq, Repr

/-- The stages in the order in which they may follow on each other where nothing is read. -/
def Stage.rank : Stage → Nat
  | behind => 0
  | value => 1
  | item => 2
  | first => 3

namespace Cursor

/-- Read a colon: the place behind it. -/
def colon (c : Cursor) : Except Offence Cursor :=
  match c.rest with
  | ':' :: _ => .ok c.next
  | [] => .error (.malformed .endInObject c.bytes)
  | _ => .error (.malformed .expectedColon c.here)

/-- Pass over the name of a member and its colon: the place behind the colon. -/
def passName (c : Cursor) : Except Offence Cursor :=
  match c.rest with
  | '\"' :: cs =>
    match c.slipped (passText 1 1 cs) with
    | .ok count => (c.skip count).skipSpace.colon
    | .error offence => .error offence
  | [] => .error (.malformed .endInObject c.bytes)
  | _ => .error (.malformed .expectedKey c.here)

/-- Behind a colon no more characters are left than before. -/
theorem left_of_colon {c d : Cursor} (h : c.colon = .ok d) : d.left ≤ c.left := by
  unfold colon at h
  split at h <;> simp_all
  next hc => subst h; exact Nat.le_of_lt (left_next_lt (by simp [hc]))

/-- Behind a name and its colon no more characters are left than before. -/
theorem left_of_passName {c d : Cursor} (h : c.passName = .ok d) : d.left ≤ c.left := by
  unfold passName at h
  split at h
  · split at h
    · exact Nat.le_trans (left_of_colon h)
        (Nat.le_trans (left_skipSpace_le _) (left_skip_le _ _))
    · simp at h
  · simp at h
  · simp at h

/-- Pass over what is left of a value inside open arrays and objects, from a place where no white
space follows to the next such place. -/
def passRest (enclosures : List Enclosure) (stage : Stage) (c : Cursor) : Except Offence Cursor :=
  match stage, enclosures with
  | .behind, [] => .ok c
  | .behind, e :: outer =>
    match _ : c.rest with
    | [] => .error (.malformed e.cutShort c.bytes)
    | x :: _ =>
      if x = ',' then passRest (e :: outer) .item c.next
      else if x = e.closer then passRest outer .behind c.next
      else .error (.malformed e.unseparated c.here)
  | .value, enclosures =>
    match _ : c.rest with
    | '[' :: _ => passRest (.array :: enclosures) .first c.next
    | '\x7b' :: _ => passRest (.object :: enclosures) .first c.next
    | _ =>
      match c.passSimple with
      | .ok count => passRest enclosures .behind (c.skip count).skipSpace
      | .error offence => .error offence
  | .item, .object :: outer =>
    match _ : c.passName with
    | .ok d => passRest (.object :: outer) .value d
    | .error offence => .error offence
  | .item, enclosures => passRest enclosures .value c
  | .first, [] => .ok c
  | .first, e :: outer =>
    match _ : c.rest with
    | [] => .error (.malformed e.cutShort c.bytes)
    | x :: _ =>
      if x = e.closer then passRest outer .behind c.next else passRest (e :: outer) .item c
  termination_by (c.left, stage.rank)
  decreasing_by
    · exact .left _ _ (left_next_lt (by simp [*]))
    · exact .left _ _ (left_next_lt (by simp [*]))
    · exact .left _ _ (left_next_lt (by simp [*]))
    · exact .left _ _ (left_next_lt (by simp [*]))
    · exact .right' _ (Nat.le_trans (left_skipSpace_le _) (left_skip_le _ _)) (by decide)
    · exact .right' _ (left_of_passName (by assumption)) (by decide)
    · exact .right _ (by decide)
    · exact .left _ _ (left_next_lt (by simp [*]))
    · exact .right _ (by decide)

/-- Behind what is left of a value no more characters are left than before. -/
theorem left_of_passRest {enclosures : List Enclosure} {stage : Stage} {c d : Cursor}
    (h : c.passRest enclosures stage = .ok d) : d.left ≤ c.left := by
  fun_induction passRest enclosures stage c with
  | case1 | case13 => exact Nat.le_of_eq (congrArg left (Except.ok.inj h).symm)
  | case2 | case5 | case9 | case11 | case14 => simp at h
  | case3 _ _ _ _ hc ih | case4 _ _ _ _ hc _ ih | case6 _ _ _ hc ih | case7 _ _ _ hc ih
  | case15 _ _ _ _ hc ih =>
    exact Nat.le_trans (ih h) (Nat.le_of_lt (left_next_lt (by simp [hc])))
  | case8 _ _ _ _ _ _ ih =>
    exact Nat.le_trans (ih h) (Nat.le_trans (left_skipSpace_le _) (left_skip_le _ _))
  | case10 _ _ _ hc ih => exact Nat.le_trans (ih h) (left_of_passName hc)
  | case12 _ _ _ ih | case16 _ _ _ _ _ _ _ ih => exact ih h

/-- Pass over a value: the place behind it. -/
def pass (c : Cursor) : Except Offence Cursor := c.passRest [] .value

/-- Behind a value no more characters are left than before. -/
theorem left_of_pass {c d : Cursor} (h : c.pass = .ok d) : d.left ≤ c.left := left_of_passRest h

end Cursor

end AssignmentGrid.Json
