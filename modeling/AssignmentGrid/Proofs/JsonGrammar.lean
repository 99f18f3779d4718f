import AssignmentGrid.Proofs.JsonScanning
import Mathlib.Tactic.Tauto

/-!
# The grammar of JSON

A raw value has one sequence of tokens, which the parser takes to the value again. The grammar says
in which ways a raw value is spelled: with white space around values, names and separators, strings
with escapes, numbers with a fraction and a power of ten. Every spelling is scanned to the tokens
of the value, so that every text of the grammar is parsed, and as the value that it spells.
-/

namespace AssignmentGrid.Json

/-! ### The tokens of a value -/

mutual

/-- The tokens of a value. -/
def Raw.tokens : Raw → List Token
  | .null => [.null]
  | .bool b => [.bool b]
  | .number t => [.number t]
  | .text pieces => [.text pieces]
  | .array items => .openBracket :: (itemTokens items ++ [.closeBracket])
  | .object members => .openBrace :: (memberTokens members ++ [.closeBrace])

/-- The tokens of the items of an array. -/
def Raw.itemTokens : List Raw → List Token
  | [] => []
  | [item] => item.tokens
  | item :: more => item.tokens ++ .comma :: itemTokens more

/-- The tokens of the members of an object. -/
def Raw.memberTokens : List (List Piece × Raw) → List Token
  | [] => []
  | [(key, item)] => .text key :: .colon :: item.tokens
  | (key, item) :: more => .text key :: .colon :: (item.tokens ++ .comma :: memberTokens more)

end

namespace Machine

variable {frames : List Frame} {m : Machine} {ts : List Token}

theorem run_cons (m : Machine) (t : Token) (ts : List Token) :
    m.run (t :: ts) = (m.step t).bind fun next ↦ next.run ts := by
  rw [run, List.foldlM_cons]
  rfl

theorem step_value (frames : List Frame) {t : Token} (h : t ≠ .closeBracket) :
    (mk frames .value).step t = takeValue frames t := by
  cases frames with
  | nil => rfl
  | cons frame outer =>
    cases frame with
    | object => rfl
    | array => cases t <;> first | rfl | exact (h rfl).elim

theorem step_valueOrClose (frames : List Frame) {t : Token} (h : t ≠ .closeBracket) :
    (mk frames .valueOrClose).step t = takeValue frames t := by
  cases t <;> first | rfl | exact (h rfl).elim

theorem run_value_cons (frames : List Frame) {t : Token} (h : t ≠ .closeBracket)
    (ts : List Token) :
    (mk frames .value).run (t :: ts) = (takeValue frames t).bind fun next ↦ next.run ts := by
  rw [run_cons, step_value frames h]

/-- What begins a value may stand where an array may be closed. -/
theorem run_valueOrClose (hts : ts ≠ []) (h : (mk frames .value).run ts = .ok m) :
    (mk frames .valueOrClose).run ts = .ok m := by
  cases ts with
  | nil => exact (hts rfl).elim
  | cons t ts =>
    rw [run_cons] at h ⊢
    by_cases ht : t = .closeBracket
    · subst ht
      cases frames with
      | nil => cases h
      | cons frame outer => cases frame <;> cases h
    · rwa [step_valueOrClose frames ht, ← step_value frames ht]

theorem step_key (frames : List Frame) {t : Token} (h : t ≠ .closeBrace) :
    (mk frames .key).step t = takeKey frames t := by
  cases t <;> first | rfl | exact (h rfl).elim

theorem step_keyOrClose (frames : List Frame) {t : Token} (h : t ≠ .closeBrace) :
    (mk frames .keyOrClose).step t = takeKey frames t := by
  cases t <;> first | rfl | exact (h rfl).elim

/-- What begins a member may stand where an object may be closed. -/
theorem run_keyOrClose (hts : ts ≠ []) (h : (mk frames .key).run ts = .ok m) :
    (mk frames .keyOrClose).run ts = .ok m := by
  cases ts with
  | nil => exact (hts rfl).elim
  | cons t ts =>
    rw [run_cons] at h ⊢
    by_cases ht : t = .closeBrace
    · subst ht
      cases h
    · rwa [step_keyOrClose frames ht, ← step_key frames ht]

end Machine

theorem Raw.itemTokens_ne_nil (item : Raw) (more : List Raw) : itemTokens (item :: more) ≠ [] := by
  cases more with
  | nil => cases item <;> simp [itemTokens, tokens]
  | cons => simp [itemTokens]

theorem Raw.memberTokens_ne_nil (first : List Piece × Raw) (more : List (List Piece × Raw)) :
    memberTokens (first :: more) ≠ [] := by
  cases more <;> simp [memberTokens]

mutual

/-- The parser takes the tokens of a value to the value. -/
theorem Machine.run_tokens : ∀ (raw : Raw) (frames : List Frame),
    (mk frames .value).run raw.tokens = .ok (complete raw frames)
  | .null, frames | .bool _, frames | .number _, frames | .text _, frames => by
    rw [Raw.tokens, run_value_cons]
    · rfl
    · exact nofun
  | .array items, frames => by
    rw [Raw.tokens, run_value_cons]
    · change (mk (.array [] :: frames) .valueOrClose).run _ = _
      cases items with
      | nil => rfl
      | cons item more =>
        have hitems := run_valueOrClose (Raw.itemTokens_ne_nil item more)
          (run_items (item :: more) [] frames (List.cons_ne_nil _ _))
        rw [run_append, hitems]
        simp [Except.bind, run, step, takeSeparator]
    · exact nofun
  | .object members, frames => by
    rw [Raw.tokens, run_value_cons]
    · change (mk (.object [] none :: frames) .keyOrClose).run _ = _
      cases members with
      | nil => rfl
      | cons first more =>
        have hmembers := run_keyOrClose (Raw.memberTokens_ne_nil first more)
          (run_members (first :: more) [] none frames (List.cons_ne_nil _ _))
        rw [run_append, hmembers]
        simp [Except.bind, run, step, takeSeparator]
    · exact nofun

/-- The items of an array are put behind those that it has. -/
theorem Machine.run_items : ∀ (items done : List Raw) (frames : List Frame), items ≠ [] →
    (mk (.array done :: frames) .value).run (Raw.itemTokens items) =
      .ok ⟨.array (items.reverse ++ done) :: frames, .separator⟩
  | [], _, _, hne => (hne rfl).elim
  | [item], done, frames, _ => by
    rw [Raw.itemTokens, run_tokens item]
    rfl
  | item :: second :: more, done, frames, _ => by
    have hmore := run_items (second :: more) (item :: done) frames (List.cons_ne_nil _ _)
    rw [Raw.itemTokens, run_append, run_tokens item]
    · change (mk (.array (item :: done) :: frames) .value).run _ = _
      rw [hmore]
      simp
    · exact List.cons_ne_nil _ _

/-- The members of an object are put behind those that it has. -/
theorem Machine.run_members : ∀ (members done : List (List Piece × Raw))
    (key? : Option (List Piece)) (frames : List Frame), members ≠ [] →
    (mk (.object done key? :: frames) .key).run (Raw.memberTokens members) =
      .ok ⟨.object (members.reverse ++ done) none :: frames, .separator⟩
  | [], _, _, _, hne => (hne rfl).elim
  | [(key, item)], done, key?, frames, _ => by
    rw [Raw.memberTokens]
    change (mk (.object done (some key) :: frames) .value).run _ = _
    rw [run_tokens item]
    rfl
  | (key, item) :: second :: more, done, key?, frames, _ => by
    have hmore := run_members (second :: more) ((key, item) :: done) none frames
      (List.cons_ne_nil _ _)
    rw [Raw.memberTokens]
    · change (mk (.object done (some key) :: frames) .value).run _ = _
      rw [run_append, run_tokens item]
      change (mk (.object ((key, item) :: done) none :: frames) .key).run _ = _
      rw [hmore]
      simp
    · exact List.cons_ne_nil _ _

end

/-- The tokens of a value have that value. -/
theorem Raw.read_tokens (raw : Raw) : Raw.read raw.tokens = .ok raw := by
  rw [Raw.read, Machine.start, Machine.run_tokens raw []]
  rfl

/-- A text with the tokens of a value is parsed as that value. -/
theorem Raw.parse_of_tokens {cs : List Char} {raw : Raw} (h : Json.tokens cs = raw.tokens) :
    Raw.parse cs = .ok raw := by
  rw [Raw.parse_eq_read, h, Raw.read_tokens]

theorem Raw.flawless_tokens (raw : Raw) : Flawless raw.tokens :=
  Raw.flawless_of_read raw.read_tokens

theorem Raw.flawless_itemTokens (items : List Raw) : Flawless (itemTokens items) := by
  have h := (Raw.array items).flawless_tokens
  rw [Raw.tokens, flawless_cons, flawless_append] at h
  exact h.2.1

theorem Raw.flawless_memberTokens (members : List (List Piece × Raw)) :
    Flawless (memberTokens members) := by
  have h := (Raw.object members).flawless_tokens
  rw [Raw.tokens, flawless_cons, flawless_append] at h
  exact h.2.1

/-! ### Numbers as texts -/

/-- An array or object has been opened: it is open still, or it is what has been read. -/
def Machine.HasOpened (m : Machine) : Prop :=
  match m.expected with
  | .nothing v => ∀ t, v ≠ .number t
  | _ => m.frames ≠ []

theorem Machine.hasOpened_complete {v : Raw} {frames : List Frame}
    (h : frames ≠ [] ∨ ∀ t, v ≠ .number t) : (complete v frames).HasOpened := by
  cases frames with
  | nil => exact h.resolve_left fun hne ↦ hne rfl
  | cons frame outer =>
    cases frame with
    | array => exact List.cons_ne_nil _ _
    | object members key? => cases key? <;> exact List.cons_ne_nil _ _

theorem Machine.hasOpened_takeValue {frames : List Frame} (hframes : frames ≠ []) {t : Token}
    {next : Machine} (h : takeValue frames t = .ok next) : next.HasOpened := by
  cases t with
  | null | bool | number | text =>
    cases h
    exact hasOpened_complete (.inl hframes)
  | openBrace | openBracket =>
    cases h
    exact List.cons_ne_nil _ _
  | closeBrace | closeBracket | colon | comma | flaw => cases h

theorem Machine.hasOpened_takeKey {frames : List Frame} {t : Token} {next : Machine}
    (h : takeKey frames t = .ok next) : next.HasOpened := by
  unfold takeKey at h
  split at h
  · split at h
    · cases h
      exact List.cons_ne_nil _ _
    · cases h
  all_goals cases h

theorem Machine.hasOpened_takeSeparator {frames : List Frame} {t : Token} {next : Machine}
    (h : takeSeparator frames t = .ok next) : next.HasOpened := by
  unfold takeSeparator at h
  split at h
  case h_1 | h_4 =>
    cases h
    exact hasOpened_complete (.inr nofun)
  case h_2 | h_5 =>
    cases h
    exact List.cons_ne_nil _ _
  all_goals cases h

theorem Machine.HasOpened.step {m : Machine} (hm : m.HasOpened) {t : Token} {next : Machine}
    (h : m.step t = .ok next) : next.HasOpened := by
  obtain ⟨frames, expected⟩ := m
  cases expected with
  | nothing v => cases h
  | separator => exact hasOpened_takeSeparator h
  | value =>
    by_cases ht : t = .closeBracket
    · subst ht
      cases frames with
      | nil => cases h
      | cons frame outer => cases frame <;> cases h
    · rw [step_value frames ht] at h
      exact hasOpened_takeValue hm h
  | valueOrClose =>
    by_cases ht : t = .closeBracket
    · subst ht
      exact hasOpened_takeSeparator h
    · rw [step_valueOrClose frames ht] at h
      exact hasOpened_takeValue hm h
  | key =>
    by_cases ht : t = .closeBrace
    · subst ht
      cases h
    · rw [step_key frames ht] at h
      exact hasOpened_takeKey h
  | keyOrClose =>
    by_cases ht : t = .closeBrace
    · subst ht
      exact hasOpened_takeSeparator h
    · rw [step_keyOrClose frames ht] at h
      exact hasOpened_takeKey h
  | colon =>
    cases t with
    | colon =>
      cases h
      exact hm
    | _ => cases h

/-- Once something has been opened, no number is read. -/
theorem Machine.HasOpened.finish_ne {m : Machine} (hm : m.HasOpened) {ts : List Token}
    {t : NumberText} : ((m.run ts).bind fun last ↦ last.finish) ≠ .ok (.number t) := by
  induction ts generalizing m with
  | nil =>
    obtain ⟨frames, expected⟩ := m
    intro h
    cases expected with
    | nothing v => exact hm t (Except.ok.inj h)
    | separator =>
      cases frames with
      | nil => cases h
      | cons frame outer => cases frame <;> cases h
    | _ => cases h
  | cons t ts ih =>
    rw [run_cons]
    cases hstep : m.step t with
    | error fault => exact nofun
    | ok next => exact ih (hm.step hstep)

/-- Behind a whole value nothing may follow. -/
theorem Machine.eq_of_run_nothing {frames : List Frame} {v raw : Raw} {ts : List Token}
    (h : ((mk frames (.nothing v)).run ts).bind (fun last ↦ last.finish) = .ok raw) :
    ts = [] ∧ v = raw := by
  cases ts with
  | nil => exact ⟨rfl, Except.ok.inj h⟩
  | cons t ts => cases h

/-- A text that is parsed as a number is the one token of that number. -/
theorem Raw.tokens_of_parse {cs : List Char} {t : NumberText}
    (h : Raw.parse cs = .ok (.number t)) : Json.tokens cs = [.number t] := by
  change (Machine.start.run (Json.tokens cs)).bind (fun last ↦ last.finish) = _ at h
  cases hcs : Json.tokens cs with
  | nil =>
    rw [hcs] at h
    cases h
  | cons first more =>
    rw [hcs, Machine.start, Machine.run_cons] at h
    cases first with
    | number t' =>
      obtain ⟨rfl, hsame⟩ := Machine.eq_of_run_nothing h
      rw [Raw.number.inj hsame]
    | null | bool | text => cases (Machine.eq_of_run_nothing h).2
    | openBrace =>
      have hopen : (Machine.mk [.object [] none] .keyOrClose).HasOpened := List.cons_ne_nil _ _
      exact (hopen.finish_ne h).elim
    | openBracket =>
      have hopen : (Machine.mk [.array []] .valueOrClose).HasOpened := List.cons_ne_nil _ _
      exact (hopen.finish_ne h).elim
    | closeBrace | closeBracket | colon | comma | flaw => cases h

/-! ### The grammar -/

namespace Grammar

/-- White space. -/
def IsSpace (cs : List Char) : Prop := ∀ c ∈ cs, c = ' ' ∨ c = '\t' ∨ c = '\n' ∨ c = '\r'

/-- Digits, at least one. -/
def IsDigits (ds : List Char) : Prop := ds ≠ [] ∧ ∀ d ∈ ds, d.isDigit = true

/-- The digits in front of the point, which begin with a zero only if there is no other. -/
def IsWhole (ds : List Char) : Prop := ds = ['0'] ∨ IsDigits ds ∧ ds.head? ≠ some '0'

/-- The digits behind the point, if there is one, and how they are spelled. -/
inductive Fraction : List Char → List Char → Prop where
  | none : Fraction [] []
  | digits {ds : List Char} (hds : IsDigits ds) : Fraction ds ('.' :: ds)

/-- A power of ten, if there is one, and how it is spelled. -/
inductive Power : Option (Bool × List Char) → List Char → Prop where
  | none : Power none []
  | plain {mark : Char} {ds : List Char} (hmark : mark = 'e' ∨ mark = 'E') (hds : IsDigits ds) :
    Power (some (false, ds)) (mark :: ds)
  | plus {mark : Char} {ds : List Char} (hmark : mark = 'e' ∨ mark = 'E') (hds : IsDigits ds) :
    Power (some (false, ds)) (mark :: '+' :: ds)
  | minus {mark : Char} {ds : List Char} (hmark : mark = 'e' ∨ mark = 'E') (hds : IsDigits ds) :
    Power (some (true, ds)) (mark :: '-' :: ds)

/-- How a number is spelled: its sign, the digits in front of the point, those behind it and the
power of ten. -/
inductive Number : NumberText → List Char → Prop where
  | plain {whole fraction behind : List Char} {power : Option (Bool × List Char)}
    {scaling : List Char} (hwhole : IsWhole whole) (hfraction : Fraction fraction behind)
    (hpower : Power power scaling) :
    Number ⟨false, whole, fraction, power⟩ (whole ++ (behind ++ scaling))
  | minus {whole fraction behind : List Char} {power : Option (Bool × List Char)}
    {scaling : List Char} (hwhole : IsWhole whole) (hfraction : Fraction fraction behind)
    (hpower : Power power scaling) :
    Number ⟨true, whole, fraction, power⟩ ('-' :: (whole ++ (behind ++ scaling)))

/-- How a character of a string is spelled: as itself unless it is a quote, a backslash or a
control character, with a letter behind a backslash, or as four hexadecimal digits. -/
inductive Character : Piece → List Char → Prop where
  | plain {c : Char} (hquote : c ≠ '\"') (hbackslash : c ≠ '\\') (hcontrol : 0x20 ≤ c.toNat) :
    Character (.char c) [c]
  | escaped {letter c : Char} (h : Scanner.escaped? letter = some c) :
    Character (.char c) ['\\', letter]
  | unit {c₁ c₂ c₃ c₄ : Char} {n₁ n₂ n₃ n₄ : Nat} (h₁ : Scanner.hexValue? c₁ = some n₁)
    (h₂ : Scanner.hexValue? c₂ = some n₂) (h₃ : Scanner.hexValue? c₃ = some n₃)
    (h₄ : Scanner.hexValue? c₄ = some n₄) :
    Character (.unit (16 * (16 * (16 * n₁ + n₂) + n₃) + n₄)) ['\\', 'u', c₁, c₂, c₃, c₄]

/-- How the characters of a string are spelled. -/
inductive Characters : List Piece → List Char → Prop where
  | nil : Characters [] []
  | cons {piece : Piece} {pieces : List Piece} {front rest : List Char}
    (hpiece : Character piece front) (hpieces : Characters pieces rest) :
    Characters (piece :: pieces) (front ++ rest)

/-- How a string is spelled. -/
inductive Text : List Piece → List Char → Prop where
  | quoted {pieces : List Piece} {cs : List Char} (h : Characters pieces cs) :
    Text pieces ('\"' :: (cs ++ ['\"']))

/-- How the name of a member is spelled, the colon behind it included. -/
inductive Name : List Piece → List Char → Prop where
  | mk {key : List Piece} {before cs after : List Char} (hbefore : IsSpace before)
    (hcs : Text key cs) (hafter : IsSpace after) : Name key (before ++ (cs ++ (after ++ [':'])))

mutual

/-- How a value is spelled, with white space around it. -/
inductive Value : Raw → List Char → Prop where
  | null : Value .null ['n', 'u', 'l', 'l']
  | true : Value (.bool true) ['t', 'r', 'u', 'e']
  | false : Value (.bool false) ['f', 'a', 'l', 's', 'e']
  | number {t : NumberText} {cs : List Char} (h : Number t cs) : Value (.number t) cs
  | text {pieces : List Piece} {cs : List Char} (h : Text pieces cs) : Value (.text pieces) cs
  | emptyArray {cs : List Char} (h : IsSpace cs) : Value (.array []) ('[' :: (cs ++ [']']))
  | array {items : List Raw} {cs : List Char} (h : Items items cs) :
    Value (.array items) ('[' :: (cs ++ [']']))
  | emptyObject {cs : List Char} (h : IsSpace cs) :
    Value (.object []) ('\x7b' :: (cs ++ ['\x7d']))
  | object {members : List (List Piece × Raw)} {cs : List Char} (h : Members members cs) :
    Value (.object members) ('\x7b' :: (cs ++ ['\x7d']))
  | padded {raw : Raw} {before cs after : List Char} (hbefore : IsSpace before)
    (h : Value raw cs) (hafter : IsSpace after) : Value raw (before ++ (cs ++ after))

/-- How the items of an array are spelled, of which there is at least one. -/
inductive Items : List Raw → List Char → Prop where
  | one {item : Raw} {cs : List Char} (h : Value item cs) : Items [item] cs
  | more {item : Raw} {items : List Raw} {cs rest : List Char} (h : Value item cs)
    (hrest : Items items rest) : Items (item :: items) (cs ++ ',' :: rest)

/-- How the members of an object are spelled, of which there is at least one. -/
inductive Members : List (List Piece × Raw) → List Char → Prop where
  | one {key : List Piece} {item : Raw} {name cs : List Char} (hname : Name key name)
    (h : Value item cs) : Members [(key, item)] (name ++ cs)
  | more {key : List Piece} {item : Raw} {members : List (List Piece × Raw)}
    {name cs rest : List Char} (hname : Name key name) (h : Value item cs)
    (hrest : Members members rest) : Members ((key, item) :: members) (name ++ (cs ++ ',' :: rest))

end

end Grammar

/-! ### Scanning a text of the grammar -/

namespace Scanner

/-- A scanner reads characters without handing out a token, and stands somewhere else then. -/
def PassesTo (s : Scanner) (cs : List Char) (next : Scanner) : Prop :=
  ∀ rest, s.scan (cs ++ rest) = next.scan rest

variable {s next last : Scanner} {cs ds : List Char}

theorem PassesTo.refl (s : Scanner) : s.PassesTo [] s := fun _ ↦ rfl

theorem PassesTo.of_step {c : Char} (h : s.step c = ([], next)) : s.PassesTo [c] next := by
  intro rest
  rw [List.singleton_append, scan_cons, h]
  rfl

theorem PassesTo.append (h : s.PassesTo cs next) (h' : next.PassesTo ds last) :
    s.PassesTo (cs ++ ds) last := by
  intro rest
  rw [List.append_assoc, h, h']

theorem PassesTo.cons {c : Char} (h : s.step c = ([], next)) (h' : next.PassesTo cs last) :
    s.PassesTo (c :: cs) last :=
  (PassesTo.of_step h).append h'

theorem passesTo_space (h : Grammar.IsSpace cs) : between.PassesTo cs between := by
  induction cs with
  | nil => exact .refl _
  | cons c cs ih =>
    have hc : between.step c = ([], between) := by
      rcases h c List.mem_cons_self with rfl | rfl | rfl | rfl <;> rfl
    exact .cons hc (ih fun d hd ↦ h d (List.mem_cons_of_mem _ hd))

/-- Within a phase that collects digits all digits are collected. -/
theorem passesTo_digits (phase : NumberPhase) (collected : List Char → NumberText)
    (hstep : ∀ done d, d.isDigit = true → NumberScan.step ⟨phase, collected done⟩ d =
      .more ⟨phase, collected (done ++ [d])⟩) (h : ∀ d ∈ ds, d.isDigit = true)
    (done : List Char) :
    (number ⟨phase, collected done⟩).PassesTo ds (number ⟨phase, collected (done ++ ds)⟩) := by
  induction ds generalizing done with
  | nil =>
    rw [List.append_nil]
    exact .refl _
  | cons d ds ih =>
    have hd : (number ⟨phase, collected done⟩).step d =
        ([], number ⟨phase, collected (done ++ [d])⟩) := by
      rw [Scanner.step, hstep done d (h d List.mem_cons_self)]
    have hmore := ih (fun c hc ↦ h c (List.mem_cons_of_mem _ hc)) (done ++ [d])
    rw [List.append_assoc, List.singleton_append] at hmore
    exact .cons hd hmore

/-- A digit that is not a zero begins a number. -/
theorem begin_of_isDigit {d : Char} (h : d.isDigit = true) (hzero : d ≠ '0') :
    begin d = ([], number ⟨.whole, ⟨false, [d], [], none⟩⟩) := by
  have hstart : NumberScan.start? d = some ⟨.whole, ⟨false, [d], [], none⟩⟩ := by
    have hminus : d ≠ '-' := by
      rintro rfl
      cases h
    simp [NumberScan.start?, hminus, hzero, h]
  unfold begin
  split
  case h_11 =>
    have hspace : isSpace d = false := by
      by_contra hspace
      rcases isSpace_iff.mp (Bool.of_not_eq_false hspace) with rfl | rfl | rfl | rfl <;> cases h
    simp [hspace, hstart]
  all_goals cases h

/-- In front of the digits of a number, behind its sign. -/
def inFrontOfDigits : Bool → Scanner
  | true => number ⟨.sign, ⟨true, [], [], none⟩⟩
  | false => between

theorem passesTo_whole (h : Grammar.IsWhole ds) (negative : Bool) :
    ∃ phase, (phase = .zero ∨ phase = .whole) ∧
      (inFrontOfDigits negative).PassesTo ds (number ⟨phase, ⟨negative, ds, [], none⟩⟩) := by
  rcases h with rfl | ⟨⟨hne, hdigits⟩, hzero⟩
  · refine ⟨.zero, .inl rfl, .of_step ?_⟩
    cases negative <;> rfl
  · cases ds with
    | nil => exact (hne rfl).elim
    | cons d ds =>
      have hd : d.isDigit = true := hdigits d List.mem_cons_self
      have hdzero : d ≠ '0' := by
        rintro rfl
        exact hzero rfl
      have hfirst : (inFrontOfDigits negative).step d =
          ([], number ⟨.whole, ⟨negative, [d], [], none⟩⟩) := by
        cases negative with
        | true => simp [inFrontOfDigits, Scanner.step, NumberScan.step, hd, hdzero]
        | false => exact begin_of_isDigit hd hdzero
      have hmore := passesTo_digits .whole (fun ds ↦ ⟨negative, ds, [], none⟩)
        (fun _ _ h ↦ if_pos h) (fun c hc ↦ hdigits c (List.mem_cons_of_mem _ hc)) [d]
      exact ⟨.whole, .inr rfl, .cons hfirst hmore⟩

theorem passesTo_fraction {negative : Bool} {whole fraction : List Char} {phase : NumberPhase}
    (h : Grammar.Fraction fraction cs) (hphase : phase = .zero ∨ phase = .whole) :
    ∃ next, (next = .zero ∨ next = .whole ∨ next = .fraction) ∧
      (number ⟨phase, ⟨negative, whole, [], none⟩⟩).PassesTo cs
        (number ⟨next, ⟨negative, whole, fraction, none⟩⟩) := by
  cases h with
  | none => exact ⟨phase, by tauto, .refl _⟩
  | digits hds =>
    obtain ⟨hne, hdigits⟩ := hds
    cases fraction with
    | nil => exact (hne rfl).elim
    | cons d ds =>
      have hpoint : (number ⟨phase, ⟨negative, whole, [], none⟩⟩).step '.' =
          ([], number ⟨.point, ⟨negative, whole, [], none⟩⟩) := by
        rcases hphase with rfl | rfl <;> rfl
      have hfirst : (number ⟨.point, ⟨negative, whole, [], none⟩⟩).step d =
          ([], number ⟨.fraction, ⟨negative, whole, [d], none⟩⟩) := by
        simp [Scanner.step, NumberScan.step, hdigits d List.mem_cons_self]
      have hmore := passesTo_digits .fraction (fun ds ↦ ⟨negative, whole, ds, none⟩)
        (fun _ _ h ↦ if_pos h) (fun c hc ↦ hdigits c (List.mem_cons_of_mem _ hc)) [d]
      exact ⟨.fraction, by simp, .cons hpoint (.cons hfirst hmore)⟩

/-- Behind the mark of a power of ten and its sign the digits follow. -/
theorem passesTo_exponent {negative minus : Bool} {whole fraction : List Char}
    {phase : NumberPhase} {power : Option (Bool × List Char)} (hds : Grammar.IsDigits ds)
    (hfirst : ∀ d, d.isDigit = true →
      (number ⟨phase, ⟨negative, whole, fraction, power⟩⟩).step d =
        ([], number ⟨.exponent, ⟨negative, whole, fraction, some (minus, [d])⟩⟩)) :
    (number ⟨phase, ⟨negative, whole, fraction, power⟩⟩).PassesTo ds
      (number ⟨.exponent, ⟨negative, whole, fraction, some (minus, ds)⟩⟩) := by
  obtain ⟨hne, hdigits⟩ := hds
  cases ds with
  | nil => exact (hne rfl).elim
  | cons d ds =>
    have hmore := passesTo_digits .exponent
      (fun ds ↦ ⟨negative, whole, fraction, some (minus, ds)⟩)
      (fun _ _ h ↦ if_pos h) (fun c hc ↦ hdigits c (List.mem_cons_of_mem _ hc)) [d]
    exact .cons (hfirst d (hdigits d List.mem_cons_self)) hmore

theorem passesTo_power {negative : Bool} {whole fraction : List Char}
    {power : Option (Bool × List Char)} {phase : NumberPhase} (h : Grammar.Power power cs)
    (hphase : phase = .zero ∨ phase = .whole ∨ phase = .fraction) :
    ∃ next, NumberScan.isComplete ⟨next, ⟨negative, whole, fraction, power⟩⟩ = true ∧
      (number ⟨phase, ⟨negative, whole, fraction, none⟩⟩).PassesTo cs
        (number ⟨next, ⟨negative, whole, fraction, power⟩⟩) := by
  have hmark {mark : Char} (hmark : mark = 'e' ∨ mark = 'E') :
      (number ⟨phase, ⟨negative, whole, fraction, none⟩⟩).step mark =
        ([], number ⟨.mark, ⟨negative, whole, fraction, some (false, [])⟩⟩) := by
    rcases hmark with rfl | rfl <;> rcases hphase with rfl | rfl | rfl <;> rfl
  cases h with
  | none =>
    refine ⟨phase, ?_, .refl _⟩
    rcases hphase with rfl | rfl | rfl <;> rfl
  | plain he hds =>
    refine ⟨.exponent, rfl, .cons (hmark he) (passesTo_exponent hds fun d hd ↦ ?_)⟩
    have hplus : d ≠ '+' := by
      rintro rfl
      cases hd
    have hminus : d ≠ '-' := by
      rintro rfl
      cases hd
    simp [Scanner.step, NumberScan.step, hplus, hminus, hd]
    rfl
  | plus he hds =>
    have hsign : (number ⟨.mark, ⟨negative, whole, fraction, some (false, [])⟩⟩).step '+' =
        ([], number ⟨.markSign, ⟨negative, whole, fraction, some (false, [])⟩⟩) := rfl
    refine ⟨.exponent, rfl, .cons (hmark he) (.cons hsign (passesTo_exponent hds fun d hd ↦ ?_))⟩
    simp [Scanner.step, NumberScan.step, hd]
    rfl
  | minus he hds =>
    have hsign : (number ⟨.mark, ⟨negative, whole, fraction, some (false, [])⟩⟩).step '-' =
        ([], number ⟨.markSign, ⟨negative, whole, fraction, some (true, [])⟩⟩) := rfl
    refine ⟨.exponent, rfl, .cons (hmark he) (.cons hsign (passesTo_exponent hds fun d hd ↦ ?_))⟩
    simp [Scanner.step, NumberScan.step, hd]
    rfl

theorem passesTo_character {piece : Piece} (h : Grammar.Character piece cs) (done : List Piece) :
    (text done).PassesTo cs (text (done ++ [piece])) := by
  cases h with
  | plain hquote hbackslash hcontrol =>
    refine .of_step ?_
    simp [Scanner.step, hquote, hbackslash, hcontrol]
  | @escaped letter c h =>
    have hne : letter ≠ 'u' := by
      rintro rfl
      cases h
    have hletter : (escape done).step letter = ([], text (done ++ [.char c])) := by
      simp [Scanner.step, hne, h]
    exact .cons rfl (.of_step hletter)
  | unit h₁ h₂ h₃ h₄ =>
    have hdigit {c : Char} {n left : Nat} (value : Nat) (h : hexValue? c = some n)
        (hleft : 1 < left) :
        (hex done value left).step c = ([], hex done (16 * value + n) (left - 1)) := by
      simp [Scanner.step, h, hleft]
    have hlast {c : Char} {n value : Nat} (h : hexValue? c = some n) :
        (hex done value 1).step c = ([], text (done ++ [.unit (16 * value + n)])) := by
      simp [Scanner.step, h]
    have hfirst := hdigit 0 h₁ (show 1 < 4 by decide)
    rw [Nat.mul_zero, Nat.zero_add] at hfirst
    exact .cons rfl (.cons rfl (.cons hfirst (.cons (hdigit _ h₂ (by decide))
      (.cons (hdigit _ h₃ (by decide)) (.of_step (hlast h₄))))))

theorem passesTo_characters {pieces : List Piece} (h : Grammar.Characters pieces cs)
    (done : List Piece) : (text done).PassesTo cs (text (done ++ pieces)) := by
  induction h generalizing done with
  | nil =>
    rw [List.append_nil]
    exact .refl _
  | @cons piece _ _ _ hpiece _ ih =>
    have hmore := ih (done ++ [piece])
    rw [List.append_assoc, List.singleton_append] at hmore
    exact (passesTo_character hpiece done).append hmore

end Scanner

theorem tokens_space_append {before : List Char} (h : Grammar.IsSpace before) (cs : List Char) :
    tokens (before ++ cs) = tokens cs :=
  Scanner.passesTo_space h cs

theorem tokens_space {cs : List Char} (h : Grammar.IsSpace cs) : tokens cs = [] := by
  have hnone := tokens_space_append h []
  rwa [List.append_nil] at hnone

/-- White space behind a text has no tokens. -/
theorem tokens_append_space {cs after : List Char} (hcs : Flawless (tokens cs))
    (h : Grammar.IsSpace after) : tokens (cs ++ after) = tokens cs := by
  cases after with
  | nil => rw [List.append_nil]
  | cons c more =>
    have hdelimiter : isDelimiter c = true := by
      rcases h c List.mem_cons_self with rfl | rfl | rfl | rfl <;> rfl
    rw [tokens_append hcs hdelimiter, tokens_space h, List.append_nil]

theorem tokens_number {t : NumberText} {cs : List Char} (h : Grammar.Number t cs) :
    tokens cs = [.number t] := by
  have hnumber {scan : NumberScan} (hcomplete : scan.isComplete = true)
      (hpasses : Scanner.between.PassesTo cs (.number scan)) : tokens cs = [.number scan.text] := by
    have hscan := hpasses []
    rw [List.append_nil, Scanner.scan, Scanner.finish, hcomplete] at hscan
    exact hscan
  cases h with
  | plain hwhole hfraction hpower =>
    obtain ⟨phase, hphase, hdigits⟩ := Scanner.passesTo_whole hwhole false
    obtain ⟨phase, hphase, hbehind⟩ := Scanner.passesTo_fraction hfraction hphase
    obtain ⟨phase, hcomplete, hscaling⟩ := Scanner.passesTo_power hpower hphase
    exact hnumber hcomplete (hdigits.append (hbehind.append hscaling))
  | minus hwhole hfraction hpower =>
    obtain ⟨phase, hphase, hdigits⟩ := Scanner.passesTo_whole hwhole true
    obtain ⟨phase, hphase, hbehind⟩ := Scanner.passesTo_fraction hfraction hphase
    obtain ⟨phase, hcomplete, hscaling⟩ := Scanner.passesTo_power hpower hphase
    exact hnumber hcomplete (.cons rfl (hdigits.append (hbehind.append hscaling)))

theorem tokens_text_append {pieces : List Piece} {cs : List Char} (h : Grammar.Text pieces cs)
    (rest : List Char) : tokens (cs ++ rest) = .text pieces :: tokens rest := by
  cases h with
  | @quoted cs hcs =>
    have hscan : tokens ('\"' :: (cs ++ ['\"']) ++ rest) =
        (Scanner.text []).scan (cs ++ '\"' :: rest) := by
      rw [List.cons_append, List.append_assoc]
      rfl
    rw [hscan, Scanner.passesTo_characters hcs]
    rfl

theorem tokens_name_append {key : List Piece} {name : List Char} (h : Grammar.Name key name)
    (rest : List Char) : tokens (name ++ rest) = .text key :: .colon :: tokens rest := by
  cases h with
  | mk hbefore hcs hafter =>
    rw [List.append_assoc, tokens_space_append hbefore, List.append_assoc, tokens_text_append hcs,
      List.append_assoc, tokens_space_append hafter]
    rfl

theorem Grammar.Items.itemTokens_cons {items : List Raw} {cs : List Char}
    (h : Grammar.Items items cs) (item : Raw) :
    Raw.itemTokens (item :: items) = item.tokens ++ .comma :: Raw.itemTokens items := by
  cases h <;> rfl

theorem Grammar.Members.memberTokens_cons {members : List (List Piece × Raw)} {cs : List Char}
    (h : Grammar.Members members cs) (key : List Piece) (item : Raw) :
    Raw.memberTokens ((key, item) :: members) =
      .text key :: .colon :: (item.tokens ++ .comma :: Raw.memberTokens members) := by
  cases h <;> rfl

mutual

/-- A spelling of a value has the tokens of the value. -/
theorem tokens_of_value : ∀ {raw : Raw} {cs : List Char}, Grammar.Value raw cs →
    tokens cs = raw.tokens
  | _, _, .null | _, _, .true | _, _, .false => rfl
  | _, _, .number h => tokens_number h
  | _, _, .text h => by
    have htext := tokens_text_append h []
    rwa [List.append_nil] at htext
  | _, _, .emptyArray h => congrArg (Token.openBracket :: ·) (tokens_space_append h _)
  | _, _, .emptyObject h => congrArg (Token.openBrace :: ·) (tokens_space_append h _)
  | .array items, _, .array h => by
    have hitems := tokens_of_items h
    have hflawless := hitems ▸ Raw.flawless_itemTokens items
    change .openBracket :: tokens (_ ++ [']']) = _
    rw [tokens_append hflawless rfl, hitems]
    rfl
  | .object members, _, .object h => by
    have hmembers := tokens_of_members h
    have hflawless := hmembers ▸ Raw.flawless_memberTokens members
    change .openBrace :: tokens (_ ++ ['\x7d']) = _
    rw [tokens_append hflawless rfl, hmembers]
    rfl
  | raw, _, .padded hbefore h hafter => by
    have hcs := tokens_of_value h
    have hflawless := hcs ▸ raw.flawless_tokens
    rw [tokens_space_append hbefore, tokens_append_space hflawless hafter, hcs]

theorem tokens_of_items : ∀ {items : List Raw} {cs : List Char}, Grammar.Items items cs →
    tokens cs = Raw.itemTokens items
  | _, _, .one h => tokens_of_value h
  | item :: _, _, .more h hrest => by
    have hitem := tokens_of_value h
    have hflawless := hitem ▸ item.flawless_tokens
    rw [tokens_append hflawless rfl, hrest.itemTokens_cons, ← hitem, ← tokens_of_items hrest]
    rfl

theorem tokens_of_members : ∀ {members : List (List Piece × Raw)} {cs : List Char},
    Grammar.Members members cs → tokens cs = Raw.memberTokens members
  | _, _, .one hname h => by
    rw [tokens_name_append hname, tokens_of_value h]
    rfl
  | (_, item) :: _, _, .more hname h hrest => by
    have hitem := tokens_of_value h
    have hflawless := hitem ▸ item.flawless_tokens
    rw [tokens_name_append hname, tokens_append hflawless rfl, hrest.memberTokens_cons, ← hitem,
      ← tokens_of_members hrest]
    rfl

end

end AssignmentGrid.Json
