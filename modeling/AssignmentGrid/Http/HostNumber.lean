import AssignmentGrid.Decimal.Integer
import AssignmentGrid.Http.Escape
import AssignmentGrid.Text.CharRange

/-!
# Hosts by number

A host is known by a number of 32 or of 128 bits. The short one is written as up to four numbers
between points, the last of which fills all the bytes that are left; each may be octal or
hexadecimal. The long one is written in brackets, as eight groups of hexadecimal digits between
colons; one run of groups that are zero may be left out, and the last two may be written like a
short number. Both have a normal form.
-/

namespace AssignmentGrid.Http

/-! ## Short numbers -/

/-- A number of a short host number: hexadecimal behind `0x`, octal behind another zero. -/
def shortPart? (cs : List Char) : Option Nat :=
  let (base, digits) := match cs with
    | '0' :: 'x' :: digits | '0' :: 'X' :: digits => (16, digits)
    | '0' :: d :: digits => (8, d :: digits)
    | digits => (10, digits)
  if cs.isEmpty then none
  else digits.foldl (fun n? c => do
    let n ← n?
    let d ← hexDigit? c
    if d < base then some (base * n + d) else none) (some 0)

/-- The parts of a name between its points, without an empty one behind a last point. -/
def pointedParts (cs : List Char) : List (List Char) :=
  let parts := Text.pieces '.' cs
  match parts.getLast? with
  | some [] => parts.dropLast
  | _ => parts

/-- Whether a name ends in a number, so that it can only be a short host number. -/
def endsInNumber (cs : List Char) : Bool :=
  match (pointedParts cs).getLast? with
  | some part => !part.isEmpty && (part.all Char.isDigit || (shortPart? part).isSome)
  | none => false

/-- The short host number that a text denotes. -/
def readShort? (cs : List Char) : Option Nat := do
  let parts ← (pointedParts cs).mapM shortPart?
  let last ← parts.getLast?
  let bytes := parts.dropLast
  if 3 < bytes.length || bytes.any (255 < ·) then none
  else
    let left := Nat.pow 256 (4 - bytes.length)
    if left ≤ last then none else some (bytes.foldl (fun n b => 256 * n + b) 0 * left + last)

/-- The normal form of a short host number. -/
def showShort (n : Nat) : List Char :=
  let byte (i : Nat) := Nat.toDigits 10 (n / Nat.pow 256 i % 256)
  byte 3 ++ '.' :: (byte 2 ++ '.' :: (byte 1 ++ '.' :: byte 0))

/-! ## Long numbers -/

/-- A group of a long host number: up to four hexadecimal digits. -/
def longGroup? (cs : List Char) : Option Nat :=
  if cs.isEmpty || 4 < cs.length then none
  else cs.foldl (fun n? c => do return 16 * (← n?) + (← hexDigit? c)) (some 0)

/-- A byte in decimal digits, without zeros in front. -/
def decimalByte? (cs : List Char) : Option Nat :=
  let n := Decimal.natOfDigits cs
  if cs.isEmpty || !cs.all Char.isDigit || (1 < cs.length && cs.head? == some '0') || 255 < n then
    none
  else some n

/-- The last groups of a long host number: one group, or four bytes between points. -/
def lastGroups? (cs : List Char) : Option (List Nat) :=
  if cs.contains '.' then do
    match ← (Text.pieces '.' cs).mapM decimalByte? with
    | [a, b, c, d] => some [256 * a + b, 256 * c + d]
    | _ => none
  else (longGroup? cs).map ([·])

/-- The groups of a part of a long host number, which may be empty. Only at the end there may be
bytes between points. -/
def groups? (atEnd : Bool) (cs : List Char) : Option (List Nat) :=
  if cs.isEmpty then some []
  else do
    let parts := Text.pieces ':' cs
    let first ← parts.dropLast.mapM longGroup?
    let last ← if atEnd then lastGroups? (parts.getLastD []) else
      (longGroup? (parts.getLastD [])).map ([·])
    return first ++ last

/-- The text in front of the first two colons that follow on each other, and what follows
them. -/
def splitColons? : List Char → Option (List Char × List Char)
  | ':' :: ':' :: cs => some ([], cs)
  | c :: cs => (splitColons? cs).map fun (front, behind) => (c :: front, behind)
  | [] => none

/-- The groups of the long host number that a text denotes. -/
def readLong? (cs : List Char) : Option (List Nat) :=
  match splitColons? cs with
  | none => (groups? true cs).filter fun groups => groups.length == 8
  | some (front, behind) => do
    let front ← groups? false front
    let behind ← groups? true behind
    let left := 8 - (front.length + behind.length)
    if left = 0 then none else some (front ++ List.replicate left 0 ++ behind)

/-- Groups between colons. -/
def showGroups (groups : List Nat) : List Char :=
  (groups.map (Nat.toDigits 16)).intersperse [':'] |>.flatten

/-- The lengths of the runs of zeros that begin at the groups. -/
def zeroRuns : List Nat → List Nat
  | [] => []
  | g :: gs => ((g :: gs).takeWhile (· == 0)).length :: zeroRuns gs

/-- The normal form of a long host number: of the longest runs of more than one zero the first
one is left out. -/
def showLong (groups : List Nat) : List Char :=
  let runs := zeroRuns groups
  let longest := runs.foldl max 0
  let place := runs.idxOf longest
  let text :=
    if longest < 2 then showGroups groups
    else
      showGroups (groups.take place) ++ ':' :: ':' :: showGroups (groups.drop (place + longest))
  '[' :: (text ++ [']'])

end AssignmentGrid.Http
