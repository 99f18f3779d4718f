import AssignmentGrid.Load.Request
import AssignmentGrid.Http.Address
import AssignmentGrid.Json.Value

/-!
# Messages

A request and what comes back for it. How a request travels is left to a transport, which either
brings a response back or nothing. Specification `SPEC_FULL.md:207–208,299–300`.
-/

namespace AssignmentGrid.Http

/-- What a request is for. -/
inductive Method where
  | get
  | post
  | patch
  | delete
  deriving DecidableEq, Repr

/-- The name of a method. -/
def Method.name : Method → String
  | get => "GET"
  | post => "POST"
  | patch => "PATCH"
  | delete => "DELETE"

/-- Whether a request with the method changes something on the server. -/
def Method.writes : Method → Bool
  | get => false
  | post | patch | delete => true

/-- A request. -/
structure Request where
  method : Method
  address : Address
  /-- The token by which the user is known. -/
  token : String
  body? : Option Json := none

/-- Whether a request carries a random number by which the server can tell writes apart.
Specification `SPEC_FULL.md:299–300`. -/
def Request.isNumbered (r : Request) : Bool := r.method.writes

/-- The program as it introduces itself to a server. -/
def userAgent : String := "sgrid/0.4.0"

/-- What comes back for a request. -/
structure Response where
  status : UInt16
  body : String
  deriving DecidableEq, Repr

/-- Whether the server has done what it was asked for. -/
def Response.isSuccess (r : Response) : Bool := 200 ≤ r.status && r.status < 300

/-- How requests travel, over states `τ` of the network. -/
structure Transport (τ : Type) where
  /-- What comes back for a request, or `none` if there is no answer. If a server sends a request
  on to another place, this is part of its travel. -/
  send : Request → τ → Option Response × τ
  /-- How many polls may find a job still running before it has taken too long, which depends on the
  time that requests take. -/
  patience : LoadConfig → τ → Nat

/-- The state of a network with what has been sent and what came back, in order. -/
structure Recorded (τ : Type) where
  network : τ
  exchanges : List (Request × Option Response) := []

/-- The same transport, with a record of everything that is sent. -/
def Transport.recorded {τ : Type} (t : Transport τ) : Transport (Recorded τ) where
  send r s :=
    let (response?, network) := t.send r s.network
    (response?, ⟨network, s.exchanges ++ [(r, response?)]⟩)
  patience config s := t.patience config s.network

end AssignmentGrid.Http
