import AssignmentGrid.Grid.Basic
import AssignmentGrid.Text.Column

/-!
# Reports of the grid

The grid as a table of columns of fixed width, one line for each person with the totals and one for
each shown row with its hours, and as a JSON value. Specification `SPEC_FULL.md:123–125,314`.
-/

namespace AssignmentGrid.Grid

/-- The width of the column of labels. -/
def labelWidth : Nat := 28

/-- The width of a week's column. -/
def cellWidth : Nat := 8

/-- The label of a row's project: the name on the row, or else the project's name, or else the
number for want of a name. Operation `project_label`, specification `SPEC_FULL.md:314`. -/
def projectLabel (g : Grid) (a : Assignment) : String :=
  let name := a.projectName? <|> (g.project? a.project).map Project.name
  match name.filter fun n => !n.isEmpty with
  | some name => name
  | none => s!"project {Decimal.intText a.project.toInt}"

/-- The label of a person: the name or for want of it the number, with a mark if not all rows are
loaded. -/
def personLabel (p : PersonRow) : List Char :=
  let name := if p.name.isEmpty then s!"person {Decimal.intText p.id.toInt}"
    else p.name
  name.toList ++ if p.isLoaded then [] else [' ', '(', '+', ')']

/-- The label of a row: its project and its number. -/
def rowLabel (g : Grid) (a : Assignment) : List Char :=
  ' ' :: ' ' :: ((g.projectLabel a).toList ++ ' ' :: '#' :: Decimal.intChars a.id.toInt)

/-- A line of the table: a label and a text for each week. -/
def tableLine (label : List Char) (cells : List (List Char)) : List Char :=
  Text.fit labelWidth label ++ cells.flatMap (Text.alignRight cellWidth)

/-- The line with the labels of the weeks. -/
def headLine (g : Grid) : List Char := tableLine [] g.axis.labels

/-- The line of a person. -/
def personLine (g : Grid) (p : PersonRow) : List Char :=
  tableLine (personLabel p) (g.axis.keys.map fun week => Hours.text (g.total p.id week))

/-- The line of a row; a week without an entry has a dash. -/
def rowLine (g : Grid) (a : Assignment) : List Char :=
  tableLine (g.rowLabel a) (g.axis.keys.map fun week =>
    match a.hours[week]? with
    | some hours => Hours.text hours
    | none => ['-'])

/-- The shown rows of a person. -/
def shownRows (g : Grid) (v : VisiblePerson) : List Assignment :=
  v.assignments.filterMap g.roster.assignment?

/-- The shown people with their shown rows. -/
def shown (g : Grid) : List (PersonRow × List Assignment) :=
  g.visible.filterMap fun v => (g.roster.person? v.person).map fun p => (p, g.shownRows v)

/-- The lines of the table. -/
def tableLines (g : Grid) : List (List Char) :=
  g.headLine :: g.shown.flatMap fun e => g.personLine e.1 :: e.2.map g.rowLine

/-- The table, each line ended by a line feed. Operation `render_table`, specification
`SPEC_FULL.md:314`. -/
def table (g : Grid) : List Char := g.tableLines.flatMap fun line => line ++ ['\n']

/-- A row as a JSON value. -/
def rowJson (g : Grid) (a : Assignment) : Json :=
  .ofMembers [("id", .ofInt64 a.id), ("project_id", .ofInt64 a.project),
    ("project", .string (g.projectLabel a)), ("weekly_hours", a.hours.toJson)]

/-- A person as a JSON value. -/
def personJson (g : Grid) (p : PersonRow) (rows : List Assignment) : Json :=
  .ofMembers [("id", .ofInt64 p.id), ("name", .string p.name),
    ("detail", .string (if p.isLoaded then "loaded" else "collapsed")),
    ("totals", .ofMembers (g.axis.keys.map fun week => (week.text, .ofFloat (g.total p.id week)))),
    ("assignments", .array (rows.map g.rowJson))]

/-- The grid as a JSON value. Operation `render_json`, specification `SPEC_FULL.md:314`. -/
def toJson (g : Grid) : Json :=
  .ofMembers [("weeks", .array (g.axis.keys.map fun week => .string week.text)),
    ("people", .array (g.shown.map fun e => g.personJson e.1 e.2))]

end AssignmentGrid.Grid
