import AssignmentGrid.Text.Blank

/-!
# Reading typed decimal numbers

A typed number is an optional sign and then digits with an optional point among, before or after
them and an optional power of ten, or one of the words `inf`, `infinity` and `nan` in any case.
It is read as the nearest double. Only ASCII digits count, and nothing may stand around the
number.
-/

namespace AssignmentGrid.Decimal

/-- The number that a run of ASCII digits denotes. -/
def natOfDigits (ds : List Char) : Nat :=
  ds.foldl (fun n d => 10 * n + (d.toNat - '0'.toNat)) 0

/-- The digits in front, and what follows them. -/
def splitDigits (cs : List Char) : List Char × List Char :=
  (cs.takeWhile Char.isDigit, cs.dropWhile Char.isDigit)

/-- A sign in front, `true` for minus, and what follows it. -/
def splitSign : List Char → Bool × List Char
  | '+' :: cs => (false, cs)
  | '-' :: cs => (true, cs)
  | cs => (false, cs)

/-- A power of ten that makes up all of `cs`; nothing stands for `10 ^ 0`. -/
def readExponent : List Char → Option Int
  | [] => some 0
  | mark :: cs =>
    if mark = 'e' ∨ mark = 'E' then
      let (negative, cs) := splitSign cs
      let (digits, rest) := splitDigits cs
      if digits.isEmpty || !rest.isEmpty then none
      else some (if negative then -(natOfDigits digits : Int) else natOfDigits digits)
    else none

/-- The double nearest to `count * 10 ^ exponent`. Beyond the range of doubles it is infinite or
zero, which is decided without building the power. -/
def nearestFloat (count : Nat) (exponent : Int) : Float :=
  if count = 0 then 0
  else
    let magnitude := exponent + (Nat.toDigits 10 count).length
    if 400 < magnitude then 1 / 0
    else if magnitude < -400 then 0
    else Float.ofScientific count (decide (exponent < 0)) exponent.natAbs

/-- A number without its sign. -/
def readMagnitude (cs : List Char) : Option Float :=
  let word := cs.map Char.toLower
  if word = ['i', 'n', 'f'] ∨ word = ['i', 'n', 'f', 'i', 'n', 'i', 't', 'y'] then some (1 / 0)
  else if word = ['n', 'a', 'n'] then some (0 / 0)
  else
    let (whole, rest) := splitDigits cs
    let (fraction, rest) := match rest with
      | '.' :: rest => splitDigits rest
      | _ => ([], rest)
    if whole.isEmpty && fraction.isEmpty then none
    else (readExponent rest).map fun exponent =>
      nearestFloat (natOfDigits (whole ++ fraction)) (exponent - fraction.length)

/-- The double that a typed text denotes, if it is a number. -/
def readFloat (cs : List Char) : Option Float :=
  let (negative, cs) := splitSign cs
  (readMagnitude cs).map fun x => if negative then -x else x

end AssignmentGrid.Decimal
