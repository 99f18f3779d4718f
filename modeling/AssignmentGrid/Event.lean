import AssignmentGrid.Load.Request

/-!
# Events

What the grid tells its surroundings. Events wait in a queue in the order in which they arose until
they are taken out. Specification `GridEvent`, `SPEC_FULL.md:182–184`.
-/

namespace AssignmentGrid

/-- How serious a notice is. Specification `SPEC_FULL.md:183`. -/
inductive NoticeLevel where
  | info
  | warning
  | error
  deriving DecidableEq, Repr

/-- Something of which the surroundings are told. Specification `GridEvent`, `SPEC_FULL.md:182–184`.
-/
inductive Event where
  /-- A message for the user. -/
  | notice (level : NoticeLevel) (message : String)
  /-- A write has landed, so that analyses of the data are out of date. -/
  | analyticsInvalidated
  /-- A job has come further. -/
  | progress (percent : UInt8) (message? : Option String)
  /-- A load has finished, and what it delivered is shown. -/
  | loaded (generation : UInt64) (path : LoadPath)
  deriving DecidableEq, Repr

namespace Event

/-- The notice that an event is, if it is one. -/
def notice? : Event → Option (NoticeLevel × String)
  | notice level message => some (level, message)
  | _ => none

/-- The notices among events, in their order. -/
def notices (events : List Event) : List (NoticeLevel × String) := events.filterMap notice?

end Event

end AssignmentGrid
