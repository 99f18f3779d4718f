import Mathlib.Data.List.TakeWhile
import AssignmentGrid.Proofs.DataRequests

/-!
# The host of an address

All requests of a client go to paths below one base. Scheme and host of an address on the web stand
in front of the path, and the path begins with a slash, so that they are the same for every path:
where one request can be sent, all others can be sent as well.
-/

namespace AssignmentGrid.Http

/-- Whether a path leads to the service. -/
def IsApiPath (path : String) : Prop := ∃ middle, path = "/api/" ++ middle ++ "/"

theorem isApiPath_rowPath (id : AssignmentId) : IsApiPath (rowPath id) :=
  ⟨"assignments/" ++ Decimal.intText id.toInt, by rw [← String.append_assoc]; rfl⟩

theorem isApiPath_job (job : String) : IsApiPath s!"/api/jobs/{job}/" :=
  ⟨"jobs/" ++ job, by rw [← String.append_assoc]; rfl⟩

theorem isApiPath_snapshot : IsApiPath "/api/assignments/grid_snapshot/" :=
  ⟨"assignments/grid_snapshot", rfl⟩

/-! ### In front of a slash -/

section

variable {α : Type} {p : α → Bool} {c : α} (hc : p c = false) (xs ys : List α)
include hc

theorem takeWhile_append_cons : (xs ++ c :: ys).takeWhile p = xs.takeWhile p := by
  rw [List.takeWhile_append]
  split
  · next hall =>
    rw [(List.takeWhile_prefix p).eq_of_length hall, List.takeWhile_cons_of_neg (by simp [hc]),
      List.append_nil]
  · rfl

theorem dropWhile_append_cons : (xs ++ c :: ys).dropWhile p = xs.dropWhile p ++ c :: ys := by
  rw [List.dropWhile_append]
  split
  · next hnone =>
    rw [List.isEmpty_iff.mp hnone, List.dropWhile_cons_of_neg (by simp [hc]), List.nil_append]
  · rfl

end

/-- A slash ends the name of a scheme and is no colon. -/
theorem splitScheme?_append (cs rest : List Char) :
    splitScheme? (cs ++ '/' :: rest) =
      (splitScheme? cs).map fun x ↦ (x.1, x.2 ++ '/' :: rest) := by
  unfold splitScheme?
  rw [takeWhile_append_cons (by decide), dropWhile_append_cons (by decide)]
  cases cs.takeWhile isSchemeChar with
  | nil => rfl
  | cons first more =>
    cases cs.dropWhile isSchemeChar with
    | nil => rfl
    | cons c behind =>
      rw [List.cons_append]
      by_cases hcolon : c = ':'
      · subst hcolon
        by_cases hletter : first.isAlpha = true
        · simp [hletter]
        · simp [hletter]
      · simp [hcolon]

/-- What names the host in an address on the web, behind its scheme. -/
def authorityOf (cs : List Char) : List Char :=
  (cs.dropWhile Style.web.isSlash).takeWhile fun c ↦ !Style.web.endsHost c

/-- The path ends the authority at its second slash at the latest. -/
theorem authorityOf_append (front tail : List Char) :
    authorityOf (front ++ "/api/".toList ++ tail) =
      ((front ++ ['/']).dropWhile Style.web.isSlash ++ "api".toList).takeWhile
        fun c ↦ !Style.web.endsHost c := by
  have hletter : front ++ "/api/".toList ++ tail =
      (front ++ ['/']) ++ 'a' :: ("pi/".toList ++ tail) := by
    rw [List.append_assoc, List.append_assoc]
    rfl
  unfold authorityOf
  rw [hletter, dropWhile_append_cons (by decide)]
  exact (congrArg _ (List.append_assoc _ "api".toList ('/' :: tail)).symm).trans
    (takeWhile_append_cons (by decide) _ _)

/-- User, host and port do not depend on what follows them. -/
theorem readAuthority?_web (scheme : String) (cs : List Char) :
    let authority := cs.takeWhile fun c ↦ !Style.web.endsHost c
    readAuthority? .web scheme cs = (readAuthority? .web scheme authority).map fun x ↦
      (x.1, x.2.1, x.2.2.1, x.2.2.2 ++ cs.drop authority.length) := by
  intro authority
  have hsame : (authority.takeWhile fun c ↦ !Style.web.endsHost c) = authority :=
    List.takeWhile_idem
  unfold readAuthority?
  dsimp only
  rw [hsame, show (cs.takeWhile fun c ↦ !Style.web.endsHost c) = authority from rfl]
  generalize splitUser authority = user
  generalize splitHost false user.2 = place
  rw [if_pos rfl, if_pos rfl]
  cases readHost? place.1 with
  | none => rfl
  | some host =>
    cases readPort? place.2 with
    | none => rfl
    | some port =>
      cases host with
      | nil => simp
      | cons c cs => simp

/-- Addresses with the same authority are on the same host. -/
theorem readWeb_of_authorityOf {scheme : String} {cs cs' : List Char}
    (hsame : authorityOf cs' = authorityOf cs) {a : Address} (ha : readWeb scheme cs = .host a) :
    ∃ a', readWeb scheme cs' = .host a' ∧ a'.scheme = a.scheme ∧ a'.host = a.host := by
  unfold readWeb at ha ⊢
  unfold authorityOf at hsame
  rw [readAuthority?_web] at ha ⊢
  rw [hsame]
  cases hread : readAuthority? .web scheme
      ((cs.dropWhile Style.web.isSlash).takeWhile fun c ↦ !Style.web.endsHost c) with
  | none =>
    rw [hread] at ha
    cases ha
  | some x =>
    rw [hread] at ha
    obtain rfl := Destination.host.inj ha
    exact ⟨_, rfl, rfl, rfl⟩

/-! ### From a base and a path -/

/-- Blanks and controls do not count in front of a base; a path keeps its slashes at both ends. -/
theorem trimAddress_append (base path : List Char) :
    trimAddress (base ++ '/' :: path ++ ['/']) =
      (base.dropWhile fun c ↦ c.toNat ≤ 0x20) ++ '/' :: path ++ ['/'] := by
  have hfront : (base ++ '/' :: path ++ ['/']).dropWhile (fun c ↦ c.toNat ≤ 0x20) =
      (base.dropWhile fun c ↦ c.toNat ≤ 0x20) ++ '/' :: path ++ ['/'] := by
    rw [List.append_assoc, List.cons_append, dropWhile_append_cons (by decide), List.append_assoc]
    rfl
  unfold trimAddress
  dsimp only
  rw [hfront, List.reverse_append, List.reverse_singleton, List.singleton_append,
    List.dropWhile_cons_of_neg (by decide), List.reverse_cons, List.reverse_reverse]

/-- The characters of an address that count. -/
def countedChars (cs : List Char) : List Char :=
  cs.filter fun c ↦ c != '\t' && c != '\n' && c != '\r'

/-- An address below a base: scheme and authority come from the base. -/
theorem ofText_append (base : String) {path : String} (h : IsApiPath path) :
    ∃ tail, Destination.ofText (base ++ path) =
      match splitScheme? (countedChars (base.toList.dropWhile fun c ↦ c.toNat ≤ 0x20)) with
      | none => .invalid
      | some (scheme, rest) =>
        match styleOf scheme with
        | .web => readWeb scheme (rest ++ "/api/".toList ++ tail)
        | .file => readFile (rest ++ "/api/".toList ++ tail)
        | .other => readOther scheme (rest ++ "/api/".toList ++ tail) := by
  obtain ⟨middle, rfl⟩ := h
  refine ⟨countedChars (middle.toList ++ ['/']), ?_⟩
  have hpath : ("/api/" ++ middle ++ "/").toList =
      '/' :: ("api/".toList ++ middle.toList) ++ ['/'] := by
    rw [String.toList_append, String.toList_append]
    rfl
  have hchars : countedChars (trimAddress (base ++ ("/api/" ++ middle ++ "/")).toList) =
      countedChars (base.toList.dropWhile fun c ↦ c.toNat ≤ 0x20) ++
        '/' :: ("api/".toList ++ countedChars (middle.toList ++ ['/'])) := by
    rw [String.toList_append, hpath, ← List.append_assoc, trimAddress_append, List.append_assoc]
    unfold countedChars
    rw [List.filter_append, List.cons_append, List.append_assoc]
    rfl
  unfold Destination.ofText
  dsimp only
  rw [show (trimAddress (base ++ ("/api/" ++ middle ++ "/")).toList).filter
    (fun c ↦ c != '\t' && c != '\n' && c != '\r') = _ from hchars, splitScheme?_append]
  cases splitScheme? (countedChars (base.toList.dropWhile fun c ↦ c.toNat ≤ 0x20)) with
  | none => rfl
  | some x =>
    simp only [Option.map_some, List.append_assoc]
    rfl

theorem scheme_of_readOther {scheme : String} {cs : List Char} {a : Address}
    (h : readOther scheme cs = .host a) : a.scheme = scheme := by
  unfold readOther at h
  dsimp only at h
  split at h
  · split at h
    · split at h
      · cases h
      · obtain rfl := Destination.host.inj h
        rfl
    · cases h
  · cases h
  · cases h

theorem scheme_of_readFile {cs : List Char} {a : Address} (h : readFile cs = .host a) :
    a.scheme = "file" := by
  unfold readFile at h
  dsimp only at h
  split at h
  · split at h
    · split at h
      · cases h
      · split at h
        · cases h
        · split at h
          · cases h
          · split at h
            · cases h
            · obtain rfl := Destination.host.inj h
              rfl
    · cases h
  · cases h

/-- Below one base all requests go to the same host. -/
theorem exists_host_of_isReachable {base path path' : String} (h : IsApiPath path)
    (h' : IsApiPath path') {a : Address} (ha : Destination.ofText (base ++ path) = .host a)
    (hreachable : a.isReachable = true) :
    ∃ a', Destination.ofText (base ++ path') = .host a' ∧ a'.scheme = a.scheme ∧
      a'.host = a.host := by
  have hscheme : a.scheme = "http" ∨ a.scheme = "https" := by
    rw [Address.isReachable, Bool.and_eq_true, Bool.or_eq_true, beq_iff_eq, beq_iff_eq]
      at hreachable
    exact hreachable.1
  obtain ⟨tail, htail⟩ := ofText_append base h
  obtain ⟨tail', htail'⟩ := ofText_append base h'
  rw [htail] at ha
  rw [htail']
  cases hsplit : splitScheme? (countedChars (base.toList.dropWhile fun c ↦ c.toNat ≤ 0x20)) with
  | none =>
    rw [hsplit] at ha
    cases ha
  | some x =>
    rw [hsplit] at ha
    dsimp only at ha ⊢
    cases hstyle : styleOf x.1 with
    | web =>
      rw [hstyle] at ha
      have hsame : authorityOf (x.2 ++ "/api/".toList ++ tail') =
          authorityOf (x.2 ++ "/api/".toList ++ tail) := by
        rw [authorityOf_append, authorityOf_append]
      exact readWeb_of_authorityOf hsame ha
    | file =>
      rw [hstyle] at ha
      rw [scheme_of_readFile ha] at hscheme
      exact absurd hscheme (by decide)
    | other =>
      rw [hstyle] at ha
      rw [scheme_of_readOther ha] at hscheme
      rcases hscheme with hx | hx
      · rw [hx] at hstyle
        cases hstyle
      · rw [hx] at hstyle
        cases hstyle

/-- Whether a request can be sent depends on scheme and host only. -/
theorem Address.isReachable_congr {a a' : Address} (hscheme : a'.scheme = a.scheme)
    (hhost : a'.host = a.host) : a'.isReachable = a.isReachable := by
  unfold isReachable
  rw [hscheme, hhost]

theorem Address.isReachable_ask (a : Address) (pairs : List (String × String)) :
    (a.ask pairs).isReachable = a.isReachable := by
  cases pairs with
  | nil => rfl
  | cons pair pairs => rfl

/-! ### Clients -/

namespace Client

variable {c : Client} {ask ask' : Ask}

theorem request_eq_ok_iff {r : Request} : c.request ask = .ok r ↔
    ∃ a, Destination.ofText (c.apiBase ++ ask.path) = .host a ∧ isHeaderText c.token = true ∧
      a.isReachable = true ∧
      r = { method := ask.method, address := a.ask ask.query, token := c.token
            body? := ask.body? } := by
  unfold request
  cases Destination.ofText (c.apiBase ++ ask.path) with
  | invalid => simp
  | hostless text => simp
  | host a =>
    simp only [Destination.host.injEq, Address.isReachable_ask, exists_eq_left']
    by_cases htoken : isHeaderText c.token = true
    · by_cases hreachable : a.isReachable = true
      · simp only [htoken, hreachable, Bool.not_true, Bool.false_eq_true, if_false, if_true,
          Except.ok.injEq, true_and]
        exact eq_comm
      · simp [htoken, hreachable]
    · simp [htoken]

/-- A client that can send one request can send every request. -/
theorem exists_request {r : Request} (h : IsApiPath ask.path) (h' : IsApiPath ask'.path)
    (hr : c.request ask = .ok r) : ∃ r', c.request ask' = .ok r' := by
  obtain ⟨a, ha, htoken, hreachable, -⟩ := request_eq_ok_iff.mp hr
  obtain ⟨a', ha', hscheme, hhost⟩ := exists_host_of_isReachable h h' ha hreachable
  have hreachable' := (Address.isReachable_congr hscheme hhost).trans hreachable
  exact ⟨_, request_eq_ok_iff.mpr ⟨a', ha', htoken, hreachable', rfl⟩⟩

variable {τ α : Type} (t : Transport τ) (read : Response → Answer α) (s : Connection τ)

/-- What cannot be sent is not answered. -/
theorem exchange_of_request_error {e : BackendError} (h : c.request ask = .error e) :
    c.exchange t ask read s = (.error e, s) := by
  unfold exchange send
  rw [h]

theorem not_ok_of_request_error {e : BackendError} (h : c.request ask = .error e) (a : α) :
    (c.exchange t ask read s).1 ≠ .ok a := by
  rw [exchange_of_request_error t read s h]
  nofun

/-- A client that can send nothing obtains no snapshot. -/
theorem supplies_nothing (h : ∀ ask, IsApiPath ask.path → ∃ e, c.request ask = .error e) :
    (c.backend t).Supplies (fun _ ↦ True) (fun _ ↦ False) where
  fetchSnapshot weeks scope s _ := by
    obtain ⟨e, he⟩ := h { path := "/api/assignments/grid_snapshot/"
                          query := weeksQuery weeks scope } isApiPath_snapshot
    exact ⟨trivial, fun snapshot ↦ not_ok_of_request_error t _ s he snapshot⟩
  submitJob _ _ _ _ := trivial
  pollJob job s _ := by
    obtain ⟨e, he⟩ := h { path := s!"/api/jobs/{job}/" } (isApiPath_job job)
    exact ⟨trivial, fun status snapshot hstatus ↦
      absurd hstatus (not_ok_of_request_error t _ s he status)⟩
  countPeople _ _ _ := trivial
  runsJobs _ _ := trivial

end Client

end AssignmentGrid.Http
