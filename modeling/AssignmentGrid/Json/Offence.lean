import AssignmentGrid.Json.Passage
import AssignmentGrid.Json.Record

/-!
# What is wrong with a record, and where

A text that is read as a record is refused for the first thing in it that is wrong, whether it is
no JSON there or a member is not what it should be. Here that first thing is looked for in
records whose members are simple values, neither arrays nor objects, and may be left out.
-/

namespace AssignmentGrid.Json

namespace Cursor

/-- Check the value of a field: the place behind it. A value that is refused is read to its end
before, except for arrays and objects. -/
def checkValue (f : Field) (c : Cursor) : Except Offence Cursor :=
  match c.readSimple with
  | .error offence => .error offence
  | .ok (value, count) =>
    match f.refusal value with
    | none => .ok (c.skip count).skipSpace
    | some cause => .error ⟨cause, (c.skip count).bytes⟩

/-- Check the name of a member behind its opening quote: the field to which it belongs, if any,
and the place behind the colon. That a field is named twice is noticed behind the name. -/
def checkName (fields : List Field) (given : List String) (c : Cursor) :
    Except Offence (Option Field × Cursor) := do
  let (name, count) ← c.slipped (readText [] 0 0 c.rest)
  let d := (c.skip count).skipSpace
  let f? := fields.find? fun f => f.answersTo (String.ofList name.reverse)
  match f?.filter fun f => given.contains f.name with
  | some f =>
    throw ⟨.duplicateField f.name, if d.rest.head? = some '\x7d' then d.here else d.bytes⟩
  | none => return (f?, ← d.colon)

/-- Check the value of a member that belongs to a field, or pass over it: the place behind it. -/
def checkMember (f? : Option Field) (c : Cursor) : Except Offence Cursor :=
  match f? with
  | some f => c.checkValue f
  | none => c.pass

/-- Behind a value no more characters are left than before. -/
theorem left_of_checkValue {f : Field} {c d : Cursor} (h : c.checkValue f = .ok d) :
    d.left ≤ c.left := by
  unfold checkValue at h
  split at h
  · simp at h
  · split at h
    · cases h
      exact Nat.le_trans (left_skipSpace_le _) (left_skip_le _ _)
    · simp at h

/-- Behind a name and its colon no more characters are left than before. -/
theorem left_of_checkName {fields : List Field} {given : List String} {c d : Cursor}
    {f? : Option Field} (h : c.checkName fields given = .ok (f?, d)) : d.left ≤ c.left := by
  unfold checkName at h
  cases ht : c.slipped (readText [] 0 0 c.rest) with
  | error offence => simp [ht, bind, Except.bind] at h
  | ok text =>
    simp only [ht, bind, Except.bind] at h
    split at h
    · cases h
    · cases hd : (c.skip text.2).skipSpace.colon with
      | error offence => simp [hd] at h
      | ok e =>
        simp only [hd, pure, Except.pure, Except.ok.injEq, Prod.mk.injEq] at h
        rw [← h.2]
        exact Nat.le_trans (left_of_colon hd)
          (Nat.le_trans (left_skipSpace_le _) (left_skip_le _ _))

/-- Behind a member no more characters are left than in front of its value. -/
theorem left_of_checkMember {f? : Option Field} {c d : Cursor} (h : c.checkMember f? = .ok d) :
    d.left ≤ c.left := by
  cases f? with
  | none => exact left_of_pass h
  | some f => exact left_of_checkValue h

mutual

/-- Check the members of a record that is written as an object, `first` saying whether there has
been none yet: the place behind the object. -/
def checkMembers (fields : List Field) (given : List String) (first : Bool) (c : Cursor) :
    Except Offence Cursor :=
  match _ : c.rest, first with
  | [], _ => .error (.malformed .endInObject c.bytes)
  | '\x7d' :: _, _ => .ok c.next
  | '\"' :: _, true => checkNamed fields given (c.skip 1)
  | ',' :: _, false =>
    match c.next.rest with
    | [] => .error (.malformed .endInValue c.next.bytes)
    | '\x7d' :: _ => .error (.malformed .trailingComma c.next.here)
    | '\"' :: _ => checkNamed fields given (c.next.skip 1)
    | _ => .error (.malformed .expectedKey c.next.here)
  | _, true => .error (.malformed .expectedKey c.here)
  | _, false => .error (.malformed .expectedMemberEnd c.here)
  termination_by (c.left, 0)
  decreasing_by
    · exact .left _ _ (left_skip_one_lt (by simp [*]))
    · exact .left _ _ (Nat.lt_of_le_of_lt (left_skip_le _ _) (left_next_lt (by simp [*])))

/-- Check a member behind the quote that opens its name, and all further members. -/
def checkNamed (fields : List Field) (given : List String) (c : Cursor) : Except Offence Cursor :=
  match _ : c.checkName fields given with
  | .error offence => .error offence
  | .ok (f?, d) =>
    match _ : d.checkMember f? with
    | .error offence => .error offence
    | .ok e => checkMembers fields (f?.toList.map Field.name ++ given) false e
  termination_by (c.left, 1)
  decreasing_by
    exact .right' _ (Nat.le_trans (left_of_checkMember (by assumption))
      (left_of_checkName (by assumption))) (by decide)

end

/-- The place behind an array that should hold no more items. -/
def closeArray (c : Cursor) : Except Offence Cursor :=
  match c.rest with
  | [] => .error (.malformed .endInArray c.bytes)
  | ']' :: _ => .ok c.next
  | ',' :: _ =>
    if c.next.rest.head? = some ']' then .error (.malformed .trailingComma c.next.here)
    else .error (.malformed .trailingText c.next.here)
  | _ => .error (.malformed .trailingText c.here)

/-- Check the items of a record that is written as an array, `first` saying whether there has
been none yet: the place behind the array. -/
def checkItems (first : Bool) (c : Cursor) : List Field → Except Offence Cursor
  | [] => c.closeArray
  | f :: fields =>
    match c.rest, first with
    | [], _ => .error (.malformed .endInArray c.bytes)
    | ']' :: _, _ => .ok c.next
    | _, true => do (← c.checkValue f).checkItems false fields
    | ',' :: _, false =>
      match c.next.rest with
      | [] => .error (.malformed .endInValue c.next.bytes)
      | ']' :: _ => .error (.malformed .trailingComma c.next.here)
      | _ => do (← c.next.checkValue f).checkItems false fields
    | _, false => .error (.malformed .expectedItemEnd c.here)

/-- Check a record: the place behind it. -/
def checkRecord (title : String) (fields : List Field) (c : Cursor) : Except Offence Cursor :=
  match c.rest with
  | '\x7b' :: _ => c.next.checkMembers fields [] true
  | '[' :: _ => c.next.checkItems true fields
  | _ => do
    let (value, count) ← c.readSimple
    throw ⟨.wrongType value.found title, (c.skip count).bytes⟩

end Cursor

/-- The first thing that is wrong with a text that is read as a record. -/
def firstOffence? (title : String) (fields : List Field) (cs : List Char) : Option Offence :=
  match (Cursor.start cs).skipSpace.checkRecord title fields with
  | .error offence => some offence
  | .ok c => if c.rest.isEmpty then none else some (.malformed .trailingText c.here)

/-- The cause for which a text is not read as a record, with its place in the text, if it is
found there. -/
def locate (title : String) (fields : List Field) (cs : List Char) (cause : DecodeError) :
    DecodeError :=
  match firstOffence? title fields cs with
  | some offence => .inText offence.cause (.behind offence.bytes cs)
  | none => cause

end AssignmentGrid.Json
