import AssignmentGrid.Decimal.Layout
import AssignmentGrid.Decimal.Integer

/-!
# JSON numbers

A number text is recognised character by character by `NumberScan`. What it denotes is a word
without sign, a negative 64-bit integer, or, when it has a fraction or a power of ten or does not
fit, a double. A double is made of the leading digits that fit a 64-bit word, scaled once by a
power of ten.
-/

namespace AssignmentGrid.Json

/-- The parts of a number text. An empty fraction stands for no fraction. -/
structure NumberText where
  negative : Bool
  whole : List Char
  fraction : List Char
  /-- The sign, `true` for minus, and the digits of the power of ten. -/
  exponent : Option (Bool × List Char)
  deriving DecidableEq, Repr

/-- What has been read of a number text. -/
inductive NumberPhase where
  | sign
  | zero
  | whole
  | point
  | fraction
  | mark
  | markSign
  | exponent
  deriving DecidableEq, Repr

/-- A number text being read. -/
structure NumberScan where
  phase : NumberPhase
  text : NumberText
  deriving DecidableEq, Repr

namespace NumberScan

/-- What the next character does to a number. -/
inductive Step where
  /-- The character belongs to the number. -/
  | more (scan : NumberScan)
  /-- The number ended before the character. -/
  | stop
  /-- The character makes the number invalid. -/
  | bad
  deriving DecidableEq, Repr

/-- Begin with a minus sign or a digit. -/
def start? (c : Char) : Option NumberScan :=
  if c = '-' then some ⟨.sign, ⟨true, [], [], none⟩⟩
  else if c = '0' then some ⟨.zero, ⟨false, [c], [], none⟩⟩
  else if c.isDigit then some ⟨.whole, ⟨false, [c], [], none⟩⟩
  else none

/-- After the digits before the point: a point, a power of ten, or the end. -/
private def afterWhole (t : NumberText) (c : Char) : Step :=
  if c = '.' then .more ⟨.point, t⟩
  else if c = 'e' ∨ c = 'E' then .more ⟨.mark, { t with exponent := some (false, []) }⟩
  else .stop

/-- One more digit of the power of ten. -/
private def exponentDigit (t : NumberText) (c : Char) : NumberScan :=
  let (minus, digits) := t.exponent.getD (false, [])
  ⟨.exponent, { t with exponent := some (minus, digits ++ [c]) }⟩

/-- Read one character. -/
def step (s : NumberScan) (c : Char) : Step :=
  let t := s.text
  match s.phase with
  | .sign =>
    if c = '0' then .more ⟨.zero, { t with whole := [c] }⟩
    else if c.isDigit then .more ⟨.whole, { t with whole := [c] }⟩
    else .bad
  | .zero => if c.isDigit then .bad else afterWhole t c
  | .whole =>
    if c.isDigit then .more ⟨.whole, { t with whole := t.whole ++ [c] }⟩ else afterWhole t c
  | .point =>
    if c.isDigit then .more ⟨.fraction, { t with fraction := [c] }⟩ else .bad
  | .fraction =>
    if c.isDigit then .more ⟨.fraction, { t with fraction := t.fraction ++ [c] }⟩
    else if c = 'e' ∨ c = 'E' then .more ⟨.mark, { t with exponent := some (false, []) }⟩
    else .stop
  | .mark =>
    if c = '+' then .more ⟨.markSign, t⟩
    else if c = '-' then .more ⟨.markSign, { t with exponent := some (true, []) }⟩
    else if c.isDigit then .more (exponentDigit t c)
    else .bad
  | .markSign => if c.isDigit then .more (exponentDigit t c) else .bad
  | .exponent => if c.isDigit then .more (exponentDigit t c) else .stop

/-- Whether the number may end here. -/
def isComplete (s : NumberScan) : Bool :=
  match s.phase with
  | .zero | .whole | .fraction | .exponent => true
  | .sign | .point | .mark | .markSign => false

end NumberScan

/-- A JSON number. -/
inductive Number where
  /-- A whole number without a minus sign that fits 64 bits. -/
  | whole (n : UInt64)
  /-- A negative whole number that fits 64 bits. -/
  | negative (n : Int64)
  /-- Any other number. -/
  | real (x : Float)
  deriving DecidableEq, Repr

namespace Number

/-- The digits that still fit a 64-bit word behind `count`, and how many do not. -/
def takeDigits (count : Nat) : List Char → Nat × Nat
  | [] => (count, 0)
  | d :: ds =>
    let next := 10 * count + (d.toNat - '0'.toNat)
    if next < UInt64.size then takeDigits next ds else (count, ds.length + 1)

/-- A power of ten as a double. -/
private def tenTo (exponent : Nat) : Float := Float.ofScientific 1 false exponent

/-- A word scaled by a power of ten; `none` if that exceeds every double. -/
def scaled (count : Nat) (exponent : Int) : Option Float :=
  let x := Float.ofNat count
  if 0 ≤ exponent then
    if exponent ≤ 308 then
      let y := x * tenTo exponent.natAbs
      if y.isInf then none else some y
    else if count = 0 then some 0 else none
  else
    let drop := exponent.natAbs
    if drop ≤ 308 then some (x / tenTo drop)
    else if drop ≤ 616 then some (x / tenTo 308 / tenTo (drop - 308))
    else some 0

/-- A power of ten that reaches this limit is not read on. -/
def exponentLimit : Nat := 0x80000000

/-- How many digits of a power of ten are left when it reaches the limit. -/
def digitsLeft (count : Nat) : List Char → Nat
  | [] => 0
  | d :: ds =>
    let next := 10 * count + (d.toNat - '0'.toNat)
    if next < exponentLimit then digitsLeft next ds else ds.length

/-- The double that a number text denotes; `none` if it exceeds every double. -/
def realOfText (t : NumberText) : Option Float :=
  let (count, dropped) := takeDigits 0 t.whole
  let (count, unread) := takeDigits count t.fraction
  let exponent : Int := dropped - (t.fraction.length - unread)
  let magnitude := match t.exponent with
    | none => scaled count exponent
    | some (minus, digits) =>
      let shift := Decimal.natOfDigits digits
      if exponentLimit ≤ shift then (if count = 0 ∨ minus then some 0 else none)
      else scaled count (if minus then exponent - shift else exponent + shift)
  magnitude.map fun x => if t.negative then -x else x

/-- How many characters of a number text are left when it is known to exceed every double. -/
def charsLeft (t : NumberText) : Nat :=
  match t.exponent with
  | some (_, digits) => digitsLeft 0 digits
  | none => 0

/-- What a number text denotes; `none` if it exceeds every double. -/
def ofText (t : NumberText) : Option Number :=
  let n := Decimal.natOfDigits t.whole
  if t.fraction.isEmpty && t.exponent.isNone && decide (n < UInt64.size) then
    if !t.negative then some (.whole (UInt64.ofNat n))
    else if n = 0 ∨ 0x8000000000000000 < n then (realOfText t).map .real
    else some (.negative (Int64.ofInt (-(n : Int))))
  else (realOfText t).map .real

/-- Doubles are written with their point in place from `0.00001` to below `10 ^ 16`, always with
a fraction, and with a signed power of ten beyond; of two equally near forms the even one is
taken. -/
def layout : Decimal.Layout where
  tie := .even
  positional := fun point => decide (-5 < point) && decide (point ≤ 16)
  keepFraction := true
  plusSign := true

/-- The text of a number. -/
def chars : Number → List Char
  | .whole n => Nat.toDigits 10 n.toNat
  | .negative n => Decimal.intChars n.toInt
  | .real x => layout.render x

/-- A signed 64-bit integer as a number. -/
def ofInt64 (n : Int64) : Number :=
  if n < 0 then .negative n else .whole n.toUInt64

end Number

end AssignmentGrid.Json
