import AssignmentGrid.Decimal.Reading

/-!
# Integers in decimal

An integer is written with as few digits as there are, behind a minus sign if it is negative. It
is read with either sign or none and any number of zeros in front, if it fits its width.
-/

namespace AssignmentGrid.Decimal

/-- The digits of an integer, behind a minus sign if it is negative. -/
def intChars (n : Int) : List Char := (if n < 0 then ['-'] else []) ++ Nat.toDigits 10 n.natAbs

/-- An integer as a text. -/
def intText (n : Int) : String := String.ofList (intChars n)

/-- The integer that a text denotes: digits behind an optional sign. -/
def readInt? (s : String) : Option Int :=
  let (minus, digits) := splitSign s.toList
  if digits.isEmpty || !digits.all Char.isDigit then none
  else
    let n : Int := natOfDigits digits
    some (if minus then -n else n)

/-- The signed 64-bit integer that a text denotes. -/
def readInt64? (s : String) : Option Int64 := do
  let n ← readInt? s
  if Int64.minValue.toInt ≤ n ∧ n ≤ Int64.maxValue.toInt then some (Int64.ofInt n) else none

/-- The unsigned 32-bit integer that a text denotes; zero may have a minus sign. -/
def readUInt32? (s : String) : Option UInt32 := do
  let n ← readInt? s
  if 0 ≤ n ∧ n < UInt32.size then some (UInt32.ofNat n.toNat) else none

end AssignmentGrid.Decimal
