import AssignmentGrid.Decimal.Reading

/-!
# Calendar dates

Dates of the proleptic Gregorian calendar in the years -262143 to 262142, read from and written
as `year-month-day`. Reading is lenient: blanks may stand before each of the three numbers, the
year may carry a sign, and zeros in front may be left out. A year without a sign has at most four
digits, a month and a day at most two. Writing is canonical.
-/

namespace AssignmentGrid.Calendar

/-- A year with a twenty-ninth of February. -/
def isLeap (year : Int) : Bool :=
  year % 4 == 0 && (year % 100 != 0 || year % 400 == 0)

/-- The number of days of a month. -/
def daysIn (year : Int) (month : Nat) : Nat :=
  if month = 2 then (if isLeap year then 29 else 28)
  else if month = 4 ∨ month = 6 ∨ month = 9 ∨ month = 11 then 30 else 31

/-- A calendar date. -/
structure Date where
  year : Int
  month : Nat
  day : Nat
  year_mem : -262143 ≤ year ∧ year ≤ 262142
  month_mem : 1 ≤ month ∧ month ≤ 12
  day_mem : 1 ≤ day ∧ day ≤ daysIn year month
  deriving DecidableEq

namespace Date

/-- The date with these numbers, if there is one. -/
def ofNumbers? (year : Int) (month day : Nat) : Option Date :=
  if hy : -262143 ≤ year ∧ year ≤ 262142 then
    if hm : 1 ≤ month ∧ month ≤ 12 then
      if hd : 1 ≤ day ∧ day ≤ daysIn year month then some ⟨year, month, day, hy, hm, hd⟩ else none
    else none
  else none

/-- A number of one to `limit` ASCII digits in front, and what follows those digits. -/
def readNumber (limit : Nat) (cs : List Char) : Option (Nat × List Char) :=
  let digits := (cs.take limit).takeWhile Char.isDigit
  if digits.isEmpty then none
  else some (Decimal.natOfDigits digits, cs.drop digits.length)

/-- A year: with a sign any number of digits, without one at most four. -/
def readYear (cs : List Char) : Option (Int × List Char) :=
  match Text.trimStart cs with
  | '-' :: cs => (readNumber cs.length cs).map fun r => (-(r.1 : Int), r.2)
  | '+' :: cs => (readNumber cs.length cs).map fun r => ((r.1 : Int), r.2)
  | cs => (readNumber 4 cs).map fun r => ((r.1 : Int), r.2)

/-- A month or a day: one or two digits after blanks. -/
def readPart (cs : List Char) : Option (Nat × List Char) :=
  readNumber 2 (Text.trimStart cs)

/-- What follows a hyphen in front. -/
def skipHyphen : List Char → Option (List Char)
  | '-' :: cs => some cs
  | _ => none

/-- The date that a whole text denotes. -/
def read (cs : List Char) : Option Date := do
  let (year, cs) ← readYear cs
  let (month, cs) ← readPart (← skipHyphen cs)
  let (day, cs) ← readPart (← skipHyphen cs)
  if cs.isEmpty then ofNumbers? year month day else none

/-- Decimal digits, with zeros in front up to `width`. -/
def padded (width n : Nat) : List Char :=
  let digits := Nat.toDigits 10 n
  List.replicate (width - digits.length) '0' ++ digits

/-- A year in four digits; outside of the years 0 to 9999 with a sign. -/
def writeYear (year : Int) : List Char :=
  if year < 0 then '-' :: padded 4 year.natAbs
  else if 9999 < year then '+' :: padded 4 year.natAbs
  else padded 4 year.natAbs

/-- The canonical text of a date. -/
def write (d : Date) : List Char :=
  writeYear d.year ++ '-' :: padded 2 d.month ++ '-' :: padded 2 d.day

/-- The English abbreviation of a month. -/
def monthName : Nat → String
  | 1 => "Jan"
  | 2 => "Feb"
  | 3 => "Mar"
  | 4 => "Apr"
  | 5 => "May"
  | 6 => "Jun"
  | 7 => "Jul"
  | 8 => "Aug"
  | 9 => "Sep"
  | 10 => "Oct"
  | 11 => "Nov"
  | _ => "Dec"

/-- The short form for a column, such as `Jan 08`. -/
def label (d : Date) : List Char :=
  (monthName d.month).toList ++ ' ' :: padded 2 d.day

end Date

end AssignmentGrid.Calendar
