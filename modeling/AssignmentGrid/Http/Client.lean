import AssignmentGrid.Backend.Basic
import AssignmentGrid.Backend.User
import AssignmentGrid.Credentials
import AssignmentGrid.Http.Message

/-!
# The client

The backend as it is reached over the network. Every call is one request with the user's token.
Whether the server runs jobs is asked only once; a server that does not answer that runs none.
Specification `HttpBackend`, `SPEC_FULL.md:207–224`.
-/

namespace AssignmentGrid.Http

/-- Where the server is and by which token the user is known. -/
structure Client where
  apiBase : String
  token : String
  deriving DecidableEq, Repr

/-- The state of the network and what is known of the server. -/
structure Connection (τ : Type) where
  network : τ
  /-- Whether the server runs jobs, if it was asked: its answer, or why there is none. -/
  capability? : Option (Answer Bool) := none

/-- A request before its address is known to be one. -/
structure Ask where
  method : Method := .get
  path : String
  query : List (String × String) := []
  body? : Option Json := none

/-- Whether a text may be sent in a header: it has no control characters other than the tab. -/
def isHeaderText (s : String) : Bool :=
  s.toList.all fun c => c == '\t' || (0x20 ≤ c.toNat && c.toNat != 0x7F)

namespace Client

/-- The client with given credentials. -/
def ofCredentials (c : Credentials) : Client where
  apiBase := withoutEndSlashes c.apiBase
  token := c.token

variable {τ : Type}

/-- The error for a response that is not a success. Specification `SPEC_FULL.md:223–224`. -/
def refusal (r : Response) : BackendError :=
  if r.status = 400 ∨ r.status = 422 then .validation r.body
  else if r.status = 404 then .notFound r.body
  else .http r.status r.body

/-- The request that is sent for what is asked, or why none can be sent. -/
def request (c : Client) (ask : Ask) : Answer Request :=
  match Destination.ofText (c.apiBase ++ ask.path) with
  | .invalid => .error (.network "builder error")
  | .hostless text => .error (.network s!"builder error for url ({text})")
  | .host address =>
    let address := address.ask ask.query
    if !isHeaderText c.token then .error (.network "builder error")
    else if address.isReachable then
      .ok { method := ask.method, address, token := c.token, body? := ask.body? }
    else .error (.network s!"builder error for url ({address.text})")

/-- Send a request and wait for a success. Operation `send`, specification
`SPEC_FULL.md:207–208,223–224`. -/
def send (c : Client) (t : Transport τ) (ask : Ask) (s : Connection τ) :
    Answer Response × Connection τ :=
  match c.request ask with
  | .error e => (.error e, s)
  | .ok r =>
    let (response?, network) := t.send r s.network
    let s := { s with network }
    match response? with
    | none => (.error (.network s!"error sending request for url ({r.address.text})"), s)
    | some response =>
      if response.isSuccess then (.ok response, s) else (.error (refusal response), s)

/-- What a body says when it is not what it should be. -/
def undecodable : BackendError := .parse "error decoding response body"

/-- The body of a response as a JSON value. -/
def bodyJson (r : Response) : Answer Json :=
  match Json.parse r.body.toList with
  | .ok j => .ok j
  | .error _ => .error undecodable

/-- The body of a response as a value of the domain. The members of its objects are looked at in
the order in which they were sent, so that one that is sent twice is noticed. -/
def bodyValue {α : Type} (read : Json → Json.Decoded α) (r : Response) : Answer α :=
  match Json.parseInOrder r.body.toList with
  | .error _ => .error undecodable
  | .ok j =>
    match read j with
    | .ok value => .ok value
    | .error _ => .error undecodable

/-- The body of a response about a job; what the job has built is kept in its canonical form. -/
def bodyStatus (r : Response) : Answer JobStatus := do
  let status ← bodyValue JobStatus.ofJson r
  return { status with result? := status.result?.map Json.canonical }

/-- Send a request and take the answer from the body of the response. -/
def exchange {α : Type} (c : Client) (t : Transport τ) (ask : Ask) (read : Response → Answer α)
    (s : Connection τ) : Answer α × Connection τ :=
  match c.send t ask s with
  | (.error e, s) => (.error e, s)
  | (.ok response, s) => (read response, s)

/-- The user to whom the token belongs. Operation `verify_token`, specification
`SPEC_FULL.md:227–228`. -/
def verifyToken (c : Client) (t : Transport τ) (s : Connection τ) : Answer User × Connection τ :=
  c.exchange t { path := "/api/auth/me/" } (bodyValue User.ofJson) s

/-- A value of the domain from part of a body. -/
def partValue {α : Type} (read : Json → Json.Decoded α) (j : Json) : Answer α :=
  match read j with
  | .ok value => .ok value
  | .error e => .error (.parse e.message)

/-- The name of a job: a text or an integer. Specification `SPEC_FULL.md:213`. -/
def jobName (r : Response) : Answer String := do
  match (← bodyJson r).member? "job_id" with
  | some (.string name) => return name
  | some (.number n) =>
    match n.toInt64 with
    | .ok id => return Decimal.intText id.toInt
    | .error _ => throw (.parse "Missing job_id in response")
  | _ => throw (.parse "Missing job_id in response")

/-- The rows of a person: a list, or an object that holds it. Specification `SPEC_FULL.md:215`. -/
def rowList (r : Response) : Answer (List Assignment) := do
  let j ← bodyJson r
  let rows := match j with
    | .array _ => j
    | _ => (j.member? "results").getD .null
  partValue (Json.toList Assignment.ofJson) rows

/-- The results for a batch. Specification `SPEC_FULL.md:219`. -/
def resultList (r : Response) : Answer (List RowResult) := do
  match (← bodyJson r).member? "results" with
  | some results => partValue (Json.toList RowResult.ofJson) results
  | none => throw (.parse "Missing results in response")

/-- The number of people: the length of a list, or what an object says. Specification
`SPEC_FULL.md:220`. -/
def peopleCount (r : Response) : Answer UInt64 := do
  let j ← bodyJson r
  match j, j.member? "count" with
  | .array items, _ => return UInt64.ofNat items.length
  | _, some (.number (.whole n)) => return n
  | _, _ => throw (.parse "Missing count in response")

/-- Whether the server says that it runs jobs, under either of two names. -/
def capability (r : Response) : Answer Bool := do
  let j ← bodyJson r
  match j.member? "async_jobs", j.member? "asyncJobs" with
  | some (.bool b), _ => return b
  | _, some (.bool b) => return b
  | _, _ => return false

/-- Whether the server runs jobs, asked for at most once. Specification `supports_async_jobs`,
`SPEC_FULL.md:221`. -/
def runsJobs (c : Client) (t : Transport τ) (s : Connection τ) : Bool × Connection τ :=
  match s.capability? with
  | some known => (known.toOption.getD false, s)
  | none =>
    let (answer, s) := c.exchange t { path := "/api/capabilities/" } capability s
    (answer.toOption.getD false, { s with capability? := some answer })

/-- A number of weeks in a query. -/
def weeksQuery (weeks : UInt32) (scope : Scope) : List (String × String) :=
  ("weeks", Decimal.intText weeks.toNat) :: scope.query

/-- The backend as it is reached by a client. Specification `HttpBackend`, `SPEC_FULL.md:207–221`.
-/
def backend (c : Client) (t : Transport τ) : Backend (Connection τ) where
  fetchSnapshot weeks scope s :=
    c.exchange t { path := "/api/assignments/grid_snapshot/", query := weeksQuery weeks scope }
      (bodyValue Snapshot.ofJson) s
  submitJob weeks scope s :=
    let body := Json.ofMembers [("weeks", .ofUInt64 weeks.toUInt64),
      ("department", match scope.department? with
        | some d => .ofInt64 d
        | none => .null),
      ("include_children", .bool scope.withChildren)]
    let path := "/api/assignments/grid_snapshot_async/"
    c.exchange t { method := .post, path, body? := some body } jobName s
  pollJob job s := c.exchange t { path := s!"/api/jobs/{job}/" } bodyStatus s
  fetchRows p s :=
    let path := s!"/api/assignments/by_person/{Decimal.intText p.toInt}/"
    c.exchange t { path } rowList s
  createRow p q s :=
    let body := Json.ofMembers [("person", .ofInt64 p), ("project", .ofInt64 q),
      ("weekly_hours", .object [])]
    c.exchange t { method := .post, path := "/api/assignments/", body? := some body }
      (bodyValue Assignment.ofJson) s
  deleteRow id s :=
    let path := s!"/api/assignments/{Decimal.intText id.toInt}/"
    c.exchange t { method := .delete, path } (fun _ => .ok ()) s
  updateHours id hours s :=
    let body := Json.ofMembers [("weekly_hours", hours.toJson)]
    let path := s!"/api/assignments/{Decimal.intText id.toInt}/"
    c.exchange t { method := .patch, path, body? := some body } (bodyValue Assignment.ofJson) s
  updateMany updates s :=
    let body := Json.ofMembers [("updates", .array (updates.map HoursUpdate.toJson))]
    let path := "/api/assignments/bulk_update_hours/"
    c.exchange t { method := .patch, path, body? := some body } resultList s
  countPeople scope s :=
    let query := ("page_size", "1") :: scope.query
    c.exchange t { path := "/api/people/", query } peopleCount s
  runsJobs s := c.runsJobs t s
  patience config s := t.patience config s.network

end Client

end AssignmentGrid.Http
