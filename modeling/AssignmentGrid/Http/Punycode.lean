/-!
# Names in ASCII

A word with any characters is written with letters, digits and hyphens alone: first its ASCII
characters, then, behind a hyphen, where the others belong and which they are. They are told in
ascending order, each by its distance from the one before in the list of all ways to insert a
character into the word, and the distances are numbers in base 36 whose digits end by themselves.
-/

namespace AssignmentGrid.Http.Punycode

/-- The number of digits. -/
def base : Nat := 36

/-- The character of a digit: a letter, or beyond the letters a decimal digit. -/
def digitChar (d : Nat) : Char :=
  if d < 26 then Char.ofNat ('a'.toNat + d) else Char.ofNat ('0'.toNat + (d - 26))

/-- The digit that a character stands for. -/
def digit? (c : Char) : Option Nat :=
  if c.isLower then some (c.toNat - 'a'.toNat)
  else if c.isDigit then some (26 + (c.toNat - '0'.toNat))
  else none

/-- The least digit at a position that does not end a number. -/
def threshold (position bias : Nat) : Nat :=
  let reach := base * (position + 1)
  if reach ≤ bias then 1 else if bias + 26 ≤ reach then 26 else reach - bias

/-- The positions that a distance is expected to take up, and what is left of it. -/
def scale (positions distance : Nat) : Nat × Nat :=
  if 455 < distance then scale (positions + 1) (distance / 35) else (positions, distance)
  termination_by distance
  decreasing_by omega

/-- The bias for the next distance, after one in a word of so many characters. -/
def adapt (distance size : Nat) (isFirst : Bool) : Nat :=
  let halved := distance / (if isFirst then 700 else 2)
  let (positions, rest) := scale 0 (halved + halved / size)
  base * positions + base * rest / (rest + 38)

/-- A threshold is at least one. -/
theorem threshold_pos (position bias : Nat) : 0 < threshold position bias := by
  simp only [threshold]
  split
  · omega
  · split <;> omega

/-- The digits of a number from a position on. -/
def digits (bias position number : Nat) : List Char :=
  let t := threshold position bias
  if number < t then [digitChar number]
  else
    digitChar (t + (number - t) % (base - t)) ::
      digits bias (position + 1) ((number - t) / (base - t))
  termination_by number
  decreasing_by
    have := threshold_pos position bias
    exact Nat.lt_of_le_of_lt (Nat.div_le_self _ _) (by omega)

/-- What has been told of a word. -/
structure Telling where
  /-- The code point that comes next. -/
  code : Nat := 0x80
  /-- The distance since the last character that was told. -/
  distance : Nat := 0
  bias : Nat := 72
  /-- The number of characters that have been told. -/
  told : Nat
  text : List Char := []

/-- Pass a character of the word while the characters with one code point are told. -/
def Telling.pass (ascii : Nat) (t : Telling) (c : Char) : Telling :=
  if c.toNat < t.code then { t with distance := t.distance + 1 }
  else if c.toNat = t.code then
    { t with
      distance := 0
      bias := adapt t.distance (t.told + 1) (t.told == ascii)
      told := t.told + 1
      text := t.text ++ digits t.bias 0 t.distance }
  else t

/-- Tell all characters with one code point. -/
def Telling.tell (word : List Char) (ascii : Nat) (t : Telling) (code : Nat) : Telling :=
  let skipped := (code - t.code) * (t.told + 1)
  let t := word.foldl (Telling.pass ascii) { t with code, distance := t.distance + skipped }
  { t with code := code + 1, distance := t.distance + 1 }

/-- A word in ASCII. -/
def encode (word : List Char) : List Char :=
  let ascii := word.filter fun c => c.toNat < 0x80
  let codes := ((word.map Char.toNat).filter (0x80 ≤ ·)).mergeSort.eraseDups
  let told := codes.foldl (Telling.tell word ascii.length) { told := ascii.length }
  (if ascii.isEmpty then [] else ascii ++ ['-']) ++ told.text

/-- What has been heard of a word. -/
structure Hearing where
  word : List Char
  /-- The code point of the last character. -/
  code : Nat := 0x80
  /-- The place behind the last character. -/
  place : Nat := 0
  bias : Nat := 72
  /-- The position of the next digit of a distance. -/
  position : Nat := 0
  /-- What the next digit counts. -/
  weight : Nat := 1
  /-- The distance as far as it has been heard. -/
  distance : Nat := 0

/-- The distance is complete: insert the character that it tells of. -/
def Hearing.insert? (h : Hearing) (distance : Nat) (isFirst : Bool) : Option Hearing :=
  let size := h.word.length + 1
  let code := h.code + (h.place + distance) / size
  let place := (h.place + distance) % size
  if code.isValidChar then
    some {
      word := h.word.take place ++ Char.ofNat code :: h.word.drop place
      code, place := place + 1, bias := adapt distance size isFirst }
  else none

/-- Hear the rest of a word; `none` if it tells of no word. -/
def Hearing.hear? (h : Hearing) (isFirst : Bool) : List Char → Option (List Char)
  | [] => if h.position = 0 then some h.word else none
  | c :: cs => do
    let digit ← digit? c
    let distance := h.distance + digit * h.weight
    let t := threshold h.position h.bias
    if digit < t then Hearing.hear? (← h.insert? distance isFirst) false cs
    else
      let weight := h.weight * (base - t)
      Hearing.hear? { h with position := h.position + 1, weight, distance } isFirst cs

/-- The word that a text denotes, which must be in ASCII. -/
def decode? (cs : List Char) : Option (List Char) :=
  let tail := (cs.reverse.takeWhile (· != '-')).reverse
  if tail.length = cs.length then Hearing.hear? { word := [] } true tail
  else
    let ascii := cs.take (cs.length - tail.length - 1)
    if ascii.isEmpty || ascii.any (0x80 ≤ ·.toNat) then none
    else Hearing.hear? { word := ascii } true tail

end AssignmentGrid.Http.Punycode
