/-!
# Shortest decimal digits of a double

The digits of a finite double are the fewest that read back as the same double and, of those, the
nearest to it. A double is taken apart into a whole significand and a power of two; the reals
that round to it form an interval, and for one, two, … seventeen digits the two neighbours of the
value on that decimal grid are tested against the interval in exact arithmetic.
-/

namespace AssignmentGrid.Decimal

/-- Which of two equally near neighbours is taken. -/
inductive Tie where
  | up
  | even
  deriving DecidableEq, Repr

/-- A positive decimal number `0.d₁d₂… × 10 ^ point`; the last digit is not zero. -/
structure Digits where
  digits : List Char
  point : Int
  deriving DecidableEq, Repr

/-- The interval of reals that round to one double, as fractions over one denominator. The ends
belong to it when `closed` holds. -/
structure Interval where
  low : Nat
  value : Nat
  high : Nat
  denominator : Nat
  closed : Bool
  deriving Repr

namespace Interval

/-- The interval of the double `significand * 2 ^ exponent`. Below a power of two the
neighbouring doubles are twice as dense, which `halved` tells. -/
def ofBinary (significand : Nat) (exponent : Int) (halved : Bool) : Interval :=
  let scale := Nat.pow 2 (exponent - 2).toNat
  { low := (4 * significand - (if halved then 1 else 2)) * scale
    value := 4 * significand * scale
    high := (4 * significand + 2) * scale
    denominator := Nat.pow 2 (2 - exponent).toNat
    closed := significand % 2 == 0 }

/-- The interval of a finite positive double. -/
def ofFloat (x : Float) : Interval :=
  let bits : Nat := x.toBits.toNat
  let fraction : Nat := bits % Nat.pow 2 52
  let biased : Nat := bits / Nat.pow 2 52 % Nat.pow 2 11
  if biased = 0 then ofBinary fraction (-1074) false
  else
    ofBinary (Nat.pow 2 52 + fraction) ((biased : Int) - 1075)
      (fraction == 0 && decide (1 < biased))

/-- The decimal point of the value: the least `p` with `value < 10 ^ p`. -/
def point (i : Interval) : Int :=
  if i.denominator ≤ i.value then (Nat.toDigits 10 (i.value / i.denominator)).length
  else 1 - (Nat.toDigits 10 ((i.denominator - 1) / i.value)).length

/-- Whether `count * 10 ^ exponent` lies in the interval. -/
def contains (i : Interval) (count : Nat) (exponent : Int) : Bool :=
  let mark := count * Nat.pow 10 exponent.toNat * i.denominator
  let scale := Nat.pow 10 (-exponent).toNat
  if i.closed then decide (i.low * scale ≤ mark) && decide (mark ≤ i.high * scale)
  else decide (i.low * scale < mark) && decide (mark < i.high * scale)

/-- The number of steps of `10 ^ exponent` nearest to the value, among its two neighbours on that
grid that lie in the interval; `none` if neither does. -/
def nearest? (i : Interval) (tie : Tie) (exponent : Int) : Option Nat :=
  let scaled := i.value * Nat.pow 10 (-exponent).toNat
  let step := i.denominator * Nat.pow 10 exponent.toNat
  let below := scaled / step
  match i.contains below exponent, i.contains (below + 1) exponent with
  | false, false => none
  | true, false => some below
  | false, true => some (below + 1)
  | true, true =>
    match compare (2 * (scaled % step)) step, tie with
    | .lt, _ => some below
    | .gt, _ => some (below + 1)
    | .eq, .up => some (below + 1)
    | .eq, .even => some (if below % 2 = 0 then below else below + 1)

/-- Search the grids of `places`, `places + 1`, … digits; seventeen always suffice. -/
def search (i : Interval) (tie : Tie) (point : Int) : Nat → Nat → Nat × Int
  | 0, places => (i.value * Nat.pow 10 (places - point).toNat / i.denominator, point - places)
  | fuel + 1, places =>
    match i.nearest? tie (point - places) with
    | some count => (count, point - places)
    | none => search i tie point fuel (places + 1)

end Interval

/-- Digits of `count * 10 ^ exponent`, without the zeros at the end. -/
def Digits.ofScaled (count : Nat) (exponent : Int) : Digits :=
  let all := Nat.toDigits 10 count
  { digits := (all.reverse.dropWhile (· == '0')).reverse
    point := exponent + all.length }

/-- The shortest digits of a finite positive double. -/
def Digits.shortest (tie : Tie) (x : Float) : Digits :=
  let interval := Interval.ofFloat x
  let found := interval.search tie interval.point 17 1
  Digits.ofScaled found.1 found.2

end AssignmentGrid.Decimal
