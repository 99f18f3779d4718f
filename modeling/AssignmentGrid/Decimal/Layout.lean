import AssignmentGrid.Decimal.Shortest

/-!
# Layouts of decimal numbers

A layout is what remains to be decided once the digits of a double are known: where positional
notation ends, whether a whole number keeps a `.0`, whether a power of ten carries a plus sign,
and which way a tie between two shortest forms goes.
-/

namespace AssignmentGrid.Decimal

/-- How a double is written. -/
structure Layout where
  /-- Which of two equally near shortest forms is written. -/
  tie : Tie
  /-- The decimal points that are written positionally; all others get an exponent. -/
  positional : Int → Bool
  /-- Whether a whole number ends in `.0`. -/
  keepFraction : Bool
  /-- Whether a power of ten that is not negative carries a plus sign. -/
  plusSign : Bool

/-- A number written out with its point in place. -/
def Digits.positional (d : Digits) (keepFraction : Bool) : List Char :=
  if d.point ≤ 0 then
    '0' :: '.' :: (List.replicate (-d.point).toNat '0' ++ d.digits)
  else if d.digits.length ≤ d.point.toNat then
    d.digits ++ List.replicate (d.point.toNat - d.digits.length) '0' ++
      (if keepFraction then ['.', '0'] else [])
  else d.digits.take d.point.toNat ++ '.' :: d.digits.drop d.point.toNat

/-- A number written as one digit, the further digits behind a point, and a power of ten. -/
def Digits.scientific (d : Digits) (plusSign : Bool) : List Char :=
  let significand := match d.digits with
    | [] => ['0']
    | [digit] => [digit]
    | digit :: more => digit :: '.' :: more
  let exponent := d.point - 1
  let sign := if exponent < 0 then ['-'] else if plusSign then ['+'] else []
  significand ++ 'e' :: (sign ++ Nat.toDigits 10 exponent.natAbs)

/-- The text of a finite double that is not negative. -/
def Layout.magnitude (l : Layout) (x : Float) : List Char :=
  if x == 0 then '0' :: (if l.keepFraction then ['.', '0'] else [])
  else
    let d := Digits.shortest l.tie x
    if l.positional d.point then d.positional l.keepFraction else d.scientific l.plusSign

/-- Whether the sign bit of a double is set, which negative zero has too. -/
def isNegative (x : Float) : Bool := x.toBits >>> 63 == 1

/-- The text of a double. -/
def Layout.render (l : Layout) (x : Float) : List Char :=
  if x.isNaN then ['N', 'a', 'N']
  else
    let sign := if isNegative x then ['-'] else []
    if x.isInf then sign ++ ['i', 'n', 'f'] else sign ++ l.magnitude x.abs

end AssignmentGrid.Decimal
