import AssignmentGrid.Http.Message

/-!
# Scripted servers

A server that answers requests from a list, one answer for each request, and remembers what it
was asked. A server that cannot be reached sees nothing of the requests.
-/

namespace AssignmentGrid.Http

/-- A server with the answers it still has to give; `none` ends a connection without an
answer. -/
structure Server where
  answers : List (Option Response) := []
  isReachable : Bool := true
  received : List Request := []

namespace Server

/-- What a server says when there is no answer left. -/
def outOfAnswers : Response := ⟨500, "unscripted"⟩

/-- Take a request. -/
def take (s : Server) (r : Request) : Option Response × Server :=
  if s.isReachable then
    match s.answers with
    | first :: more => (first, { s with answers := more, received := s.received ++ [r] })
    | [] => (some outOfAnswers, { s with received := s.received ++ [r] })
  else (none, s)

/-- The transport to a scripted server, which answers at once. -/
def transport : Transport Server where
  send r s := s.take r
  patience config _ := config.patience

end Server

end AssignmentGrid.Http
