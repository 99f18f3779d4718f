import Mathlib.Data.Nat.Digits.Lemmas
import AssignmentGrid.Backend.Script
import AssignmentGrid.Grid.Load
import AssignmentGrid.Grid.Report
import AssignmentGrid.Proofs.ReadHours

/-!
# The width of the table

The table has a column for labels and one for each week. A label that is too long is cut, but a
number is always shown with all its digits. One that is longer than its column moves the rest of its
line to the right, so a line is as wide as its columns exactly if all its numbers fit. Specification
`SPEC_FULL.md:123–125,314`.
-/

namespace AssignmentGrid

/-! ### Texts without line feeds -/

theorem Decimal.newline_notMem_toDigits (n : Nat) : '\n' ∉ Nat.toDigits 10 n := fun h ↦
  absurd (Nat.isDigit_of_mem_toDigits (by decide) (by decide) h) (by decide)

theorem Decimal.newline_notMem_intChars (n : Int) : '\n' ∉ intChars n := by
  unfold intChars
  rw [List.mem_append]
  rintro (h | h)
  · split at h
    · simp at h
    · simp at h
  · exact newline_notMem_toDigits _ h

/-- A line feed is blank, and hours have no blanks. -/
theorem Hours.newline_notMem_text (value : Float) : '\n' ∉ text value := by
  unfold text
  split
  · exact Decimal.newline_notMem_intChars _
  · intro h
    have hblank := not_isBlank_of_mem_render value '\n' h
    exact absurd hblank (by decide)

theorem Text.newline_notMem_alignRight {width : Nat} {cs : List Char} (h : '\n' ∉ cs) :
    '\n' ∉ alignRight width cs := by
  unfold alignRight
  simp [h]

theorem Text.newline_notMem_fit {width : Nat} {cs : List Char} (h : '\n' ∉ cs) :
    '\n' ∉ fit width cs := by
  unfold fit alignLeft
  split
  · simp [h]
  · simp [mt List.mem_of_mem_take h]

/-! ### Labels of weeks -/

namespace Calendar.Date

/-- No month has more than 31 days. -/
theorem daysIn_le (year : Int) (month : Nat) : daysIn year month ≤ 31 := by
  unfold daysIn
  split
  · split
    · decide
    · decide
  · split
    · decide
    · decide

theorem length_padded_two {n : Nat} (h : n < 100) : (padded 2 n).length = 2 := by
  have hdigits : (Nat.toDigits 10 n).length ≤ 2 :=
    (Nat.length_toDigits_le_iff (by decide) (by decide)).mpr h
  unfold padded
  rw [List.length_append, List.length_replicate]
  omega

/-- The label of a date has six characters. -/
theorem length_label (d : Date) : d.label.length = 6 := by
  have hday : d.day < 100 := by
    have hlast := d.day_mem.2.trans (daysIn_le d.year d.month)
    omega
  have hmonth : (monthName d.month).toList.length = 3 := by
    unfold monthName
    split <;> rfl
  unfold label
  rw [List.length_append, List.length_cons, hmonth, length_padded_two hday]

theorem newline_notMem_label (d : Date) : '\n' ∉ d.label := by
  have hmonth : '\n' ∉ (monthName d.month).toList := by
    unfold monthName
    split <;> decide
  unfold label padded
  simp [hmonth, Decimal.newline_notMem_toDigits]

end Calendar.Date

/-- The label of a week that is a date fits into its column. -/
theorem WeekKey.length_label {k : WeekKey} (h : k.date.isSome) : k.label.length = 6 := by
  obtain ⟨d, hd⟩ := Option.isSome_iff_exists.mp h
  unfold label
  rw [hd]
  exact d.length_label

theorem WeekKey.newline_notMem_label {k : WeekKey} (h : k.date.isSome) : '\n' ∉ k.label := by
  obtain ⟨d, hd⟩ := Option.isSome_iff_exists.mp h
  unfold label
  rw [hd]
  exact d.newline_notMem_label

/-! ### Numbers that fit -/

/-- Whether a number of hours is whole, not negative, and has eight digits at most. -/
def Hours.IsShort (value : Float) : Prop :=
  isWhole value = true ∧ ¬ value < 0 ∧ wholePart value < 10 ^ Grid.cellWidth

/-- Such a number fits into its column. -/
theorem Hours.length_text_of_isShort {value : Float} (h : IsShort value) :
    (text value).length ≤ Grid.cellWidth := by
  obtain ⟨hwhole, hnonneg, hsmall⟩ := h
  rw [text_of_isWhole hwhole hnonneg]
  exact (Nat.length_toDigits_le_iff (by decide) (by decide)).mpr hsmall

/-! ### Lines -/

/-- Texts in columns need at least the width of the columns, and no more if each of them fits. -/
theorem Text.length_flatMap_alignRight (width : Nat) (cells : List (List Char)) :
    width * cells.length ≤ (cells.flatMap (alignRight width)).length ∧
      ((cells.flatMap (alignRight width)).length = width * cells.length ↔
        ∀ cell ∈ cells, cell.length ≤ width) := by
  induction cells with
  | nil => simp
  | cons cell rest ih =>
    obtain ⟨hle, hiff⟩ := ih
    rw [List.flatMap_cons, List.length_append, length_alignRight, List.length_cons, Nat.mul_succ,
      List.forall_mem_cons, ← hiff]
    omega

/-- How a line is laid out that shows some texts in the columns of the weeks. -/
structure LineLayout (cells : List (List Char)) (line : List Char) : Prop where
  /-- It is as wide as its columns exactly if each text fits. -/
  width : line.length = Grid.labelWidth + Grid.cellWidth * cells.length ↔
    ∀ cell ∈ cells, cell.length ≤ Grid.cellWidth
  /-- A column begins where it should if the texts in front of it fit. -/
  column : ∀ k cell, cells[k]? = some cell →
    (∀ other ∈ cells.take k, other.length ≤ Grid.cellWidth) →
    ∃ before behind, line = before ++ Text.alignRight Grid.cellWidth cell ++ behind ∧
      before.length = Grid.labelWidth + Grid.cellWidth * k

/-- Every line is laid out in this way, whatever its label is. -/
theorem lineLayout_tableLine (label : List Char) (cells : List (List Char)) :
    LineLayout cells (Grid.tableLine label cells) where
  width := by
    unfold Grid.tableLine
    rw [List.length_append, Text.length_fit (by decide), Nat.add_left_cancel_iff]
    exact (Text.length_flatMap_alignRight Grid.cellWidth cells).2
  column k cell hcell hfit := by
    obtain ⟨hk, rfl⟩ := List.getElem?_eq_some_iff.mp hcell
    have hsplit : cells = cells.take k ++ cells[k] :: cells.drop (k + 1) := by
      rw [List.getElem_cons_drop, List.take_append_drop]
    have hbefore := (Text.length_flatMap_alignRight Grid.cellWidth (cells.take k)).2.mpr hfit
    refine ⟨Text.fit Grid.labelWidth label ++
        (cells.take k).flatMap (Text.alignRight Grid.cellWidth),
      (cells.drop (k + 1)).flatMap (Text.alignRight Grid.cellWidth), ?_, ?_⟩
    · unfold Grid.tableLine
      conv_lhs => rw [hsplit]
      rw [List.flatMap_append, List.flatMap_cons, List.append_assoc, List.append_assoc]
    · rw [List.length_append, Text.length_fit (by decide), hbefore,
        List.length_take_of_le (Nat.le_of_lt hk)]

theorem newline_notMem_tableLine {label : List Char} {cells : List (List Char)}
    (hlabel : '\n' ∉ label) (hcells : ∀ cell ∈ cells, '\n' ∉ cell) :
    '\n' ∉ Grid.tableLine label cells := by
  unfold Grid.tableLine
  rw [List.mem_append, List.mem_flatMap]
  rintro (h | ⟨cell, hcell, h⟩)
  · exact Text.newline_notMem_fit hlabel h
  · exact Text.newline_notMem_alignRight (hcells cell hcell) h

/-- Lines without line feeds are found again in the text in which each of them is ended by one. -/
theorem splitOn_flatMap_newline {lines : List (List Char)} (h : ∀ line ∈ lines, '\n' ∉ line) :
    (lines.flatMap fun line ↦ line ++ ['\n']).splitOn '\n' = lines ++ [[]] := by
  induction lines with
  | nil => rfl
  | cons line rest ih =>
    obtain ⟨hline, hrest⟩ := List.forall_mem_cons.mp h
    rw [List.flatMap_cons, List.append_assoc, List.singleton_append,
      List.splitOn_append_cons_self_of_not_mem hline, ih hrest]
    rfl

/-! ### The table -/

namespace Grid

/-- The texts in the line of a person. -/
def totalTexts (g : Grid) (p : PersonRow) : List (List Char) :=
  g.axis.keys.map fun week ↦ Hours.text (g.total p.id week)

/-- The text for a week in the line of a row. -/
def hoursText (a : Assignment) (week : WeekKey) : List Char :=
  match a.hours[week]? with
  | some hours => Hours.text hours
  | none => ['-']

/-- The width of all columns. -/
def tableWidth (g : Grid) : Nat := labelWidth + cellWidth * g.axis.size

/-- Whether all numbers that are shown for a person and some rows of that person fit. -/
def NumbersFit (g : Grid) (p : PersonRow) (rows : List Assignment) : Prop :=
  ∀ week ∈ g.axis.keys, (Hours.text (g.total p.id week)).length ≤ cellWidth ∧
    ∀ a ∈ rows, ∀ hours, a.hours[week]? = some hours → (Hours.text hours).length ≤ cellWidth

/-- How the table is laid out. -/
structure TableLayout (g : Grid) : Prop where
  /-- Its lines are those of the text; behind the last line feed there is nothing. -/
  lines : g.table.splitOn '\n' = g.tableLines ++ [[]]
  /-- The line with the labels of the weeks is always as wide as its columns. -/
  head : g.headLine.length = g.tableWidth
  person : ∀ e ∈ g.shown, LineLayout (g.totalTexts e.1) (g.personLine e.1)
  row : ∀ e ∈ g.shown, ∀ a ∈ e.2, LineLayout (g.axis.keys.map (hoursText a)) (g.rowLine a)
  /-- All lines are as wide as their columns exactly if all numbers fit. -/
  aligned : (∀ line ∈ g.tableLines, line.length = g.tableWidth) ↔
    ∀ e ∈ g.shown, g.NumbersFit e.1 e.2
  /-- So it is for whole numbers with eight digits at most. -/
  short : (∀ e ∈ g.shown, ∀ week ∈ g.axis.keys, Hours.IsShort (g.total e.1.id week) ∧
      ∀ a ∈ e.2, ∀ hours, a.hours[week]? = some hours → Hours.IsShort hours) →
    ∀ line ∈ g.tableLines, line.length = g.tableWidth

variable {g : Grid} {p : PersonRow} {a : Assignment}

/-- A person's line is as wide as its columns if the totals fit. -/
theorem length_personLine_iff : (g.personLine p).length = g.tableWidth ↔
    ∀ week ∈ g.axis.keys, (Hours.text (g.total p.id week)).length ≤ cellWidth := by
  have hlayout : LineLayout (g.totalTexts p) (g.personLine p) := lineLayout_tableLine _ _
  have hwidth := hlayout.width
  rwa [totalTexts, List.length_map, List.forall_mem_map] at hwidth

/-- A row's line is as wide as its columns if the hours fit. -/
theorem length_rowLine_iff : (g.rowLine a).length = g.tableWidth ↔
    ∀ week ∈ g.axis.keys, ∀ hours, a.hours[week]? = some hours →
      (Hours.text hours).length ≤ cellWidth := by
  have hlayout : LineLayout (g.axis.keys.map (hoursText a)) (g.rowLine a) :=
    lineLayout_tableLine _ _
  have hwidth := hlayout.width
  rw [List.length_map, List.forall_mem_map] at hwidth
  refine hwidth.trans (forall₂_congr fun week _ ↦ ?_)
  unfold hoursText
  cases a.hours[week]? with
  | none => simp [cellWidth]
  | some hours => simp

/-- The line with the labels of the weeks is as wide as its columns if the weeks are dates. -/
theorem length_headLine (hdates : ∀ week ∈ g.axis.keys, week.date.isSome) :
    g.headLine.length = g.tableWidth := by
  have hlayout : LineLayout g.axis.labels g.headLine := lineLayout_tableLine [] _
  have hsize : g.axis.labels.length = g.axis.size := List.length_map _
  rw [tableWidth, ← hsize, hlayout.width, WeekAxis.labels, List.forall_mem_map]
  intro week hweek
  rw [WeekKey.length_label (hdates week hweek)]
  decide

theorem newline_notMem_personLabel (h : '\n' ∉ p.name.toList) : '\n' ∉ personLabel p := by
  have hnumber : '\n' ∉ s!"person {Decimal.intText p.id.toInt}".toList := by
    simp [Decimal.intText, ToString.toString, Decimal.newline_notMem_intChars]
  unfold personLabel
  dsimp only
  rw [List.mem_append]
  rintro (hname | hmark)
  · split at hname
    · exact hnumber hname
    · exact h hname
  · split at hmark
    · cases hmark
    · simp at hmark

theorem newline_notMem_rowLabel (h : '\n' ∉ (g.projectLabel a).toList) : '\n' ∉ g.rowLabel a := by
  unfold rowLabel
  simp [h, Decimal.newline_notMem_intChars]

/-- No line has a line feed in it. -/
theorem newline_notMem_tableLines (hdates : ∀ week ∈ g.axis.keys, week.date.isSome)
    (hplain : ∀ e ∈ g.shown, '\n' ∉ e.1.name.toList ∧
      ∀ a ∈ e.2, '\n' ∉ (g.projectLabel a).toList) :
    ∀ line ∈ g.tableLines, '\n' ∉ line := by
  unfold tableLines
  rw [List.forall_mem_cons, List.forall_mem_flatMap]
  constructor
  · refine newline_notMem_tableLine List.not_mem_nil ?_
    rw [WeekAxis.labels, List.forall_mem_map]
    exact fun week hweek ↦ WeekKey.newline_notMem_label (hdates week hweek)
  · intro e he
    obtain ⟨hname, hlabels⟩ := hplain e he
    rw [List.forall_mem_cons, List.forall_mem_map]
    constructor
    · refine newline_notMem_tableLine (newline_notMem_personLabel hname) ?_
      rw [List.forall_mem_map]
      exact fun week _ ↦ Hours.newline_notMem_text _
    · intro a ha
      refine newline_notMem_tableLine (newline_notMem_rowLabel (hlabels a ha)) ?_
      rw [List.forall_mem_map]
      intro week _
      split
      · exact Hours.newline_notMem_text _
      · decide

/-- All lines are as wide as their columns exactly if all numbers fit. -/
theorem length_tableLines_iff (hdates : ∀ week ∈ g.axis.keys, week.date.isSome) :
    (∀ line ∈ g.tableLines, line.length = g.tableWidth) ↔
      ∀ e ∈ g.shown, g.NumbersFit e.1 e.2 := by
  unfold tableLines
  rw [List.forall_mem_cons, List.forall_mem_flatMap,
    and_iff_right (length_headLine hdates)]
  refine forall₂_congr fun e _ ↦ ?_
  rw [List.forall_mem_cons, List.forall_mem_map, length_personLine_iff]
  simp only [length_rowLine_iff]
  constructor
  · exact fun h week hweek ↦ ⟨h.1 week hweek, fun a ha ↦ h.2 a ha week hweek⟩
  · exact fun h ↦ ⟨fun week hweek ↦ (h week hweek).1, fun a ha week hweek ↦ (h week hweek).2 a ha⟩

end Grid

/-- The table of a grid whose weeks are dates, with names and labels that have no line feed. Its
lines are as wide as its columns exactly if no number is longer than a column. -/
theorem table_layout (g : Grid) (hdates : ∀ week ∈ g.axis.keys, week.date.isSome)
    (hplain : ∀ e ∈ g.shown, '\n' ∉ e.1.name.toList ∧
      ∀ a ∈ e.2, '\n' ∉ (g.projectLabel a).toList) : g.TableLayout where
  lines := splitOn_flatMap_newline (Grid.newline_notMem_tableLines hdates hplain)
  head := Grid.length_headLine hdates
  person _ _ := lineLayout_tableLine _ _
  row _ _ _ _ := lineLayout_tableLine _ _
  aligned := Grid.length_tableLines_iff hdates
  short hshort := (Grid.length_tableLines_iff hdates).mpr fun e he week hweek ↦
    ⟨Hours.length_text_of_isShort (hshort e he week hweek).1, fun a ha hours hhours ↦
      Hours.length_text_of_isShort ((hshort e he week hweek).2 a ha hours hhours)⟩

/-- A loaded grid with whole hours: all numbers fit. -/
theorem table_layout_of_whole_hours :
    let week : WeekKey := ⟨"2024-01-01"⟩
    let row (id : AssignmentId) (hours : Float) : Assignment :=
      { id, person := 7, project := 1, hours := .ofList [(week, hours)] }
    let script : Script :=
      { standing? := some
          { weeks := [week]
            people := [⟨7, "Ada Park"⟩]
            rows := [row 42 10, row 43 2]
            projects := [⟨1, "Harbor Retrofit", some "active"⟩] } }
    let g := (Grid.load {} Script.backend {} script).grid
    (∀ week ∈ g.axis.keys, week.date.isSome) ∧
      (∀ e ∈ g.shown, '\n' ∉ e.1.name.toList ∧ ∀ a ∈ e.2, '\n' ∉ (g.projectLabel a).toList) ∧
      g.table.splitOn '\n' = g.tableLines ++ [[]] ∧ ∀ e ∈ g.shown, g.NumbersFit e.1 e.2 := by
  intro week row script g
  have hdates : ∀ week ∈ g.axis.keys, week.date.isSome := by decide +kernel
  have hplain : ∀ e ∈ g.shown, '\n' ∉ e.1.name.toList ∧
      ∀ a ∈ e.2, '\n' ∉ (g.projectLabel a).toList := by decide +kernel
  have hwide : ∀ line ∈ g.tableLines, line.length = g.tableWidth := by decide +kernel
  have hlayout := table_layout g hdates hplain
  exact ⟨hdates, hplain, hlayout.lines, hlayout.aligned.mp hwide⟩

/-- Two finite numbers of hours whose sum has many digits: in the line with the total the second
column begins eleven places too far to the right. -/
theorem long_total_moves_column :
    let first : WeekKey := ⟨"2024-01-01"⟩
    let second : WeekKey := ⟨"2024-01-08"⟩
    let script : Script :=
      { standing? := some
          { weeks := [first, second]
            people := [⟨7, "Ada Park"⟩]
            rows := [{ id := 42, person := 7, project := 1, hours := .ofList [(first, 0.1)] },
              { id := 43, person := 7, project := 2
                hours := .ofList [(first, 0.2), (second, 8)] }]
            projects := [⟨1, "Harbor Retrofit", some "active"⟩,
              ⟨2, "Depot Study", some "planning"⟩] } }
    let g := (Grid.load {} Script.backend {} script).grid
    (∀ week ∈ g.axis.keys, week.date.isSome) ∧
      (∀ e ∈ g.shown, '\n' ∉ e.1.name.toList ∧ ∀ a ∈ e.2, '\n' ∉ (g.projectLabel a).toList) ∧
      (∀ e ∈ g.shown, (∀ week ∈ g.axis.keys, (g.total e.1.id week).isFinite) ∧
        ∀ a ∈ e.2, ∀ entry ∈ a.hours.toList, entry.2.isFinite) ∧
      g.tableWidth = 44 ∧ g.tableLines.map List.length = [44, 55, 44, 44] ∧
      ¬ ∀ line ∈ g.tableLines, line.length = g.tableWidth := by
  decide +kernel

end AssignmentGrid
