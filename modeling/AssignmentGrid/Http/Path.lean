import AssignmentGrid.Http.Escape

/-!
# Paths

A path consists of parts, each behind a slash. One point as a part stays in place and two points
go one part up, which leads above no part that looks like a drive: a letter and a colon or a bar.
-/

namespace AssignmentGrid.Http

/-- The parts of a path between its slashes, `current` being what has been read of the first
one. -/
def partsFrom (isSlash : Char → Bool) (current : List Char) : List Char → List (List Char)
  | [] => [current]
  | c :: cs =>
    if isSlash c then current :: partsFrom isSlash [] cs
    else partsFrom isSlash (current ++ [c]) cs

/-- The points that a part of a path consists of, each as itself or in an escape; `none` if it
holds anything else. -/
def points? : List Char → Option Nat
  | [] => some 0
  | '.' :: cs => (points? cs).map (· + 1)
  | '%' :: '2' :: e :: cs => if e == 'e' || e == 'E' then (points? cs).map (· + 1) else none
  | _ => none

/-- Whether a part of a path looks like a drive. -/
def isDrive (part : List Char) : Bool :=
  match part with
  | [letter, mark] => letter.isAlpha && (mark == ':' || mark == '|')
  | _ => false

/-- One part up from some parts, last first. -/
def goUp (parts : List (List Char)) : List (List Char) :=
  match parts with
  | part :: outer => if isDrive part then part :: outer else outer
  | [] => []

/-- The parts of a path with its steps carried out, `done` being the parts so far, last first.
Behind a last step the path ends in a slash. -/
def walk (done : List (List Char)) : List (List Char) → List (List Char)
  | [] => done.reverse
  | part :: more =>
    let left := match points? part with
      | some 1 => some done
      | some 2 => some (goUp done)
      | _ => none
    match left with
    | none => walk (part :: done) more
    | some left => walk (if more.isEmpty then [] :: left else left) more

/-- The parts of a path with its steps carried out, from the text behind its first slash. -/
def readParts (isSlash : Char → Bool) (cs : List Char) : List (List Char) :=
  walk [] (partsFrom isSlash [] cs)

/-- The normal form of a path. -/
def showParts (parts : List (List Char)) : List Char :=
  parts.flatMap fun part => '/' :: escape .path part

end AssignmentGrid.Http
