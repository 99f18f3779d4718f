import AssignmentGrid.Http.HostNumber
import AssignmentGrid.Http.Punycode
import AssignmentGrid.Text.Direction
import AssignmentGrid.Text.Folding
import AssignmentGrid.Text.Joining

/-!
# Hosts by name

The name of a host consists of words between points. It is folded, so that every spelling of it
leads to the same host, and every word that is not in ASCII is written in ASCII behind a mark. A
word that carries the mark already must be the form of a word that is settled.
-/

namespace AssignmentGrid.Http

/-- The mark in front of a word that is written in ASCII. -/
def asciiMark : List Char := ['x', 'n', '-', '-']

/-- The ASCII characters that may not stand in a name, controls and the space apart. -/
def barredFromName : List Char :=
  ['#', '%', '/', ':', '<', '>', '?', '@', '[', '\\', ']', '^', '|']

/-- Whether a character may stand in a word of a name. -/
def isNameChar (c : Char) : Bool :=
  0x20 < c.toNat && c.toNat != 0x7F && !barredFromName.contains c

/-- Whether a word consists of ASCII characters. -/
def isAscii (word : List Char) : Bool := word.all fun c => c.toNat < 0x80

/-- Whether a word is its own folded form. -/
def isSettled (word : List Char) : Bool :=
  word.all (fun c => Text.foldChar? c == some [c]) && Text.compose word == word

/-- The word that a folded word stands for: itself, or what is written behind the mark. -/
def meantWord? (word : List Char) : Option (List Char) :=
  if asciiMark.isPrefixOf word then
    (Punycode.decode? (word.drop asciiMark.length)).filter fun meant =>
      !isAscii meant && isSettled meant && !asciiMark.isPrefixOf meant
  else some word

/-- Whether a word may stand in a name. -/
def isWord (word : List Char) : Bool :=
  word.all isNameChar && Text.joinersMeant word &&
    match word.head? with
    | some c => !Text.isMark c
    | none => true

/-- A word in ASCII. -/
def wordInAscii (word : List Char) : List Char :=
  if isAscii word then word else asciiMark ++ Punycode.encode word

/-- The normal form of a name; `none` if it is no name. -/
def readName? (cs : List Char) : Option (List Char) := do
  let words ← (Text.pieces '.' (← Text.fold? cs)).mapM meantWord?
  let directed := !words.any (·.any Text.turnsLeft) || words.all Text.isWellDirected
  if words.all isWord && directed then
    some ((words.map wordInAscii).intersperse ['.'] |>.flatten)
  else none

/-- The normal form of a host on the web: a long number in brackets, a short number, or a name,
both of which may hold escapes. -/
def readHost? (cs : List Char) : Option (List Char) :=
  match cs with
  | '[' :: cs =>
    if cs.getLast? == some ']' then (readLong? cs.dropLast).map showLong else none
  | _ => do
    let name ← readName? (← unescape? cs)
    if name.isEmpty then none
    else if endsInNumber name then (readShort? name).map showShort
    else some name

/-- The characters that may not stand in a host that is not looked up. -/
def barredFromPlain : List Char :=
  ['\x00', '\t', '\n', '\r', ' ', '#', '/', ':', '<', '>', '?', '@', '[', '\\', ']', '^', '|']

/-- The normal form of a host elsewhere, which may be empty: a long number, or a text that is
taken as it is. -/
def readPlainHost? (cs : List Char) : Option (List Char) :=
  match cs with
  | '[' :: cs =>
    if cs.getLast? == some ']' then (readLong? cs.dropLast).map showLong else none
  | _ => if cs.any barredFromPlain.contains then none else some (escape .plain cs)

end AssignmentGrid.Http
