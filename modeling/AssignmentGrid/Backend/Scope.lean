import AssignmentGrid.Json.Record

/-!
# Scope

Loads and size probes are limited to a department, with or without the departments below it.
Specification `SPEC_FULL.md:212–213,220,317`.
-/

namespace AssignmentGrid

/-- The department to which a request is limited. -/
structure Scope where
  department? : Option Int64 := none
  withChildren : Bool := false
  deriving DecidableEq, Repr

namespace Scope

/-- The pairs of a query for the scope; the departments below are mentioned only with a department.
Specification `SPEC_FULL.md:212`. -/
def query (s : Scope) : List (String × String) :=
  match s.department? with
  | none => []
  | some d =>
    ("department", Decimal.intText d.toInt) ::
      (if s.withChildren then [("include_children", "1")] else [])

/-- The member for the department. -/
def departmentMember : Json.Member (Option Int64) := .optional "department" Json.toInt64

/-- The member for the departments below. -/
def childrenMember : Json.Member Bool := .defaulted "include_children" Json.toBool false

/-- The members in the order of declaration. -/
def fields : List Json.Field := [departmentMember.field, childrenMember.field]

/-- A scope from its wire form. -/
def ofJson (j : Json) : Json.Decoded Scope := do
  let members ← j.toMembers "struct ScopeFilters" fields
  return ⟨← departmentMember.get members, ← childrenMember.get members⟩

/-- The wire form of a scope; an absent department is left out. -/
def toJson (s : Scope) : Json :=
  .object ((s.department?.toList.map fun d => ("department", .ofInt64 d)) ++
    [("include_children", .bool s.withChildren)])

end Scope

end AssignmentGrid
