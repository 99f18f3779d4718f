import AssignmentGrid.Json.Parser
import AssignmentGrid.Text.Line
import Mathlib.Tactic.ByContra

/-!
# Scanning a text in pieces

White space, a comma and a closing bracket end the token in front of them, so that a text can be
scanned piece by piece. The end of a line does so even inside a token, which is then flawed on both
sides. A text is therefore scanned line by line, and a line of a JSON text is never a comment, since
no token begins with a slash.
-/

namespace AssignmentGrid.Json

/-! ### Flaws -/

/-- No flaw is among the tokens. -/
def Flawless (ts : List Token) : Prop := ∀ f, Token.flaw f ∉ ts

@[simp] theorem flawless_nil : Flawless [] := fun _ ↦ List.not_mem_nil

@[simp] theorem flawless_append {ts us : List Token} :
    Flawless (ts ++ us) ↔ Flawless ts ∧ Flawless us := by
  simp [Flawless, List.mem_append, not_or, forall_and]

theorem flawless_cons {t : Token} {ts : List Token} :
    Flawless (t :: ts) ↔ Flawless [t] ∧ Flawless ts :=
  @flawless_append [t] ts

theorem not_flawless_of_mem {f : Flaw} {ts : List Token} (h : Token.flaw f ∈ ts) :
    ¬ Flawless ts :=
  fun hts ↦ hts f h

/-- Token streams that no parser tells apart: equal ones, and any two with flaws. -/
def Alike (ts us : List Token) : Prop := Flawless ts ∨ Flawless us → ts = us

namespace Alike

variable {ts us vs ts' us' : List Token}

@[refl] theorem refl (ts : List Token) : Alike ts ts := fun _ ↦ rfl

@[symm] theorem symm (h : Alike ts us) : Alike us ts := fun hflawless ↦ (h hflawless.symm).symm

theorem flawless_iff (h : Alike ts us) : Flawless ts ↔ Flawless us :=
  ⟨fun hts ↦ h (.inl hts) ▸ hts, fun hus ↦ (h (.inr hus)).symm ▸ hus⟩

theorem trans (h : Alike ts us) (h' : Alike us vs) : Alike ts vs := by
  intro hflawless
  have hus : Flawless us := hflawless.elim h.flawless_iff.mp h'.flawless_iff.mpr
  rw [h (.inr hus), h' (.inl hus)]

theorem append (h : Alike ts us) (h' : Alike ts' us') : Alike (ts ++ ts') (us ++ us') := by
  intro hflawless
  have hboth : Flawless ts ∧ Flawless ts' := by
    rcases hflawless with hts | hus
    · exact flawless_append.mp hts
    · obtain ⟨hfront, hback⟩ := flawless_append.mp hus
      exact ⟨h.flawless_iff.mpr hfront, h'.flawless_iff.mpr hback⟩
  rw [h (.inl hboth.1), h' (.inl hboth.2)]

end Alike

/-! ### The parser behind the scanner -/

/-- The raw value of a token stream. -/
def Raw.read (ts : List Token) : Except Fault Raw := do (← Machine.start.run ts).finish

theorem Raw.parse_eq_read (cs : List Char) : Raw.parse cs = Raw.read (tokens cs) := rfl

/-- No flaw can be taken. -/
theorem Machine.exists_step_flaw (m : Machine) (f : Flaw) :
    ∃ fault, m.step (.flaw f) = .error fault := by
  obtain ⟨frames, expected⟩ := m
  cases expected with
  | value =>
    cases frames with
    | nil => exact ⟨_, rfl⟩
    | cons frame outer => cases frame <;> exact ⟨_, rfl⟩
  | valueOrClose | colon | nothing => exact ⟨_, rfl⟩
  | key | keyOrClose => cases f <;> exact ⟨_, rfl⟩
  | separator =>
    cases frames with
    | nil => exact ⟨_, rfl⟩
    | cons frame outer => cases frame <;> exact ⟨_, rfl⟩

theorem Machine.exists_run_flaw {ts : List Token} (h : ¬ Flawless ts) (m : Machine) :
    ∃ fault, m.run ts = .error fault := by
  induction ts generalizing m with
  | nil => exact (h flawless_nil).elim
  | cons t ts ih =>
    cases hstep : m.step t with
    | error fault => exact ⟨fault, by rw [run, List.foldlM_cons, hstep]; rfl⟩
    | ok next =>
      have hrest : ¬ Flawless ts := by
        intro hts
        apply h
        rw [flawless_cons]
        refine ⟨fun f hf ↦ ?_, hts⟩
        obtain rfl := List.mem_singleton.mp hf
        obtain ⟨fault, hfault⟩ := m.exists_step_flaw f
        cases hfault.symm.trans hstep
      obtain ⟨fault, hfault⟩ := ih hrest next
      exact ⟨fault, by rw [run, List.foldlM_cons, hstep]; exact hfault⟩

/-- A token stream that has a value is flawless. -/
theorem Raw.flawless_of_read {ts : List Token} {raw : Raw} (h : Raw.read ts = .ok raw) :
    Flawless ts := by
  by_contra hflawed
  obtain ⟨fault, hfault⟩ := Machine.exists_run_flaw hflawed Machine.start
  rw [Raw.read, hfault] at h
  cases h

/-- Streams that are alike have the same value, or none. -/
theorem Alike.toOption_read {ts us : List Token} (h : Alike ts us) :
    (Raw.read ts).toOption = (Raw.read us).toOption := by
  by_cases hts : Flawless ts
  · rw [h (.inl hts)]
  · have hnone {vs : List Token} (hvs : ¬ Flawless vs) : (Raw.read vs).toOption = none := by
      obtain ⟨fault, hfault⟩ := Machine.exists_run_flaw hvs Machine.start
      rw [Raw.read, hfault]
      rfl
    rw [hnone hts, hnone (mt h.flawless_iff.mpr hts)]

/-! ### Characters that end a token -/

/-- A character that ends the token in front of it. -/
def isDelimiter (c : Char) : Bool := [' ', '\t', '\n', '\r', ',', ']', '\x7d'].contains c

/-- A character of the end of a line, which ends every token. -/
def isLineEnd (c : Char) : Bool := c == '\n' || c == '\r'

theorem isLineEnd_iff {c : Char} : isLineEnd c = true ↔ c = '\n' ∨ c = '\r' := by
  simp [isLineEnd]

/-- A complete number stops in front of a delimiter. -/
theorem NumberScan.step_of_isDelimiter {c : Char} (hc : isDelimiter c = true)
    {scan : NumberScan} (h : scan.isComplete = true) : scan.step c = .stop := by
  obtain ⟨phase, text⟩ := scan
  simp only [isDelimiter, List.contains_eq_mem, List.mem_cons, List.not_mem_nil, or_false,
    decide_eq_true_eq] at hc
  rcases hc with rfl | rfl | rfl | rfl | rfl | rfl | rfl <;> cases phase <;>
    first | rfl | cases h

/-- An incomplete number cannot go on with the end of a line. -/
theorem NumberScan.step_of_isLineEnd {c : Char} (hc : isLineEnd c = true)
    {scan : NumberScan} (h : scan.isComplete = false) : scan.step c = .bad := by
  obtain ⟨phase, text⟩ := scan
  rcases isLineEnd_iff.mp hc with rfl | rfl <;> cases phase <;> first | rfl | cases h

namespace Scanner

theorem scan_cons (s : Scanner) (c : Char) (cs : List Char) :
    s.scan (c :: cs) = (s.step c).1 ++ (s.step c).2.scan cs := rfl

theorem isSpace_iff {c : Char} : isSpace c = true ↔ c = ' ' ∨ c = '\t' ∨ c = '\n' ∨ c = '\r' := by
  simp [isSpace, or_assoc]

/-- A scanner that is not behind a flaw. Within a word some letters of it are still to come. -/
def IsLive : Scanner → Prop
  | .word _ left => left ≠ [] ∧ ∀ c ∈ left, c.isAlpha = true
  | .stuck => False
  | _ => True

theorem isLive_begin (c : Char) : Flawless (begin c).1 → (begin c).2.IsLive := by
  have hword {token : Token} {left : List Char} (hne : left ≠ [])
      (hletters : left.all Char.isAlpha = true) : (Scanner.word token left).IsLive :=
    ⟨hne, List.all_eq_true.mp hletters⟩
  unfold begin
  split
  case h_8 | h_9 | h_10 => exact fun _ ↦ hword (List.cons_ne_nil _ _) rfl
  case h_11 =>
    split
    · exact fun _ ↦ trivial
    · split
      · exact fun _ ↦ trivial
      · exact fun h ↦ (h .stray List.mem_cons_self).elim
  all_goals exact fun _ ↦ trivial

/-- A scanner stays live as long as it meets no flaw. -/
theorem IsLive.step {s : Scanner} (hs : s.IsLive) (c : Char) :
    Flawless (s.step c).1 → (s.step c).2.IsLive := by
  cases s with
  | between => exact isLive_begin c
  | stuck => exact hs.elim
  | word token left =>
    obtain ⟨hleft, hletters⟩ := hs
    cases left with
    | nil => exact (hleft rfl).elim
    | cons expected more =>
      rw [Scanner.step]
      split
      · split
        · exact fun _ ↦ trivial
        · next hmore =>
          exact fun _ ↦ ⟨by simpa using hmore, fun d hd ↦ hletters d (List.mem_cons_of_mem _ hd)⟩
      · exact fun h ↦ (h .word List.mem_cons_self).elim
  | number scan =>
    rw [Scanner.step]
    split
    · exact fun _ ↦ trivial
    · exact fun h ↦ (h .number List.mem_cons_self).elim
    · exact fun h ↦ isLive_begin c (flawless_cons.mp h).2
  | text done =>
    rw [Scanner.step]
    split
    · exact fun _ ↦ trivial
    · split
      · exact fun _ ↦ trivial
      · split
        · exact fun h ↦ (h .control List.mem_cons_self).elim
        · exact fun _ ↦ trivial
  | escape done =>
    rw [Scanner.step]
    split
    · exact fun _ ↦ trivial
    · split
      · exact fun _ ↦ trivial
      · exact fun h ↦ (h .escape List.mem_cons_self).elim
  | hex done value left =>
    rw [Scanner.step]
    split
    · exact fun h ↦ (h .escape List.mem_cons_self).elim
    · split <;> exact fun _ ↦ trivial

/-- A live scanner that may stop stands between tokens or behind a whole number. -/
theorem IsLive.step_of_isDelimiter {s : Scanner} (hs : s.IsLive) {c : Char}
    (hc : isDelimiter c = true) (h : Flawless s.finish) :
    s.step c = (s.finish ++ (begin c).1, (begin c).2) := by
  cases s with
  | between => rfl
  | stuck => exact hs.elim
  | word => exact (h .cutShort List.mem_cons_self).elim
  | text | escape | hex => exact (h .openText List.mem_cons_self).elim
  | number scan =>
    cases hcomplete : scan.isComplete with
    | false =>
      rw [finish, hcomplete] at h
      exact (h .cutShort List.mem_cons_self).elim
    | true =>
      rw [Scanner.step, NumberScan.step_of_isDelimiter hc hcomplete, finish, hcomplete]
      rfl

/-- A live scanner that may not stop meets a flaw at the end of a line. -/
theorem IsLive.flawed_of_isLineEnd {s : Scanner} (hs : s.IsLive) {c : Char}
    (hc : isLineEnd c = true) (h : ¬ Flawless s.finish) : ¬ Flawless (s.step c).1 := by
  have hcases : c = '\n' ∨ c = '\r' := isLineEnd_iff.mp hc
  cases s with
  | between | stuck => exact (h flawless_nil).elim
  | text | escape | hex =>
    rcases hcases with rfl | rfl <;> exact not_flawless_of_mem List.mem_cons_self
  | word token left =>
    obtain ⟨hleft, halpha⟩ := hs
    cases left with
    | nil => exact (hleft rfl).elim
    | cons expected more =>
      have hne : c ≠ expected := by
        rintro rfl
        have hletter := halpha c List.mem_cons_self
        rcases hcases with rfl | rfl <;> cases hletter
      rw [Scanner.step, if_neg hne]
      exact not_flawless_of_mem List.mem_cons_self
  | number scan =>
    cases hcomplete : scan.isComplete with
    | false =>
      rw [Scanner.step, NumberScan.step_of_isLineEnd hc hcomplete]
      exact not_flawless_of_mem List.mem_cons_self
    | true =>
      rw [finish, hcomplete] at h
      exact (h fun _ hf ↦ nomatch List.mem_singleton.mp hf).elim

/-- A flawless piece in front of a delimiter is scanned for itself. -/
theorem IsLive.scan_append {s : Scanner} (hs : s.IsLive) {c : Char} (hc : isDelimiter c = true)
    {cs : List Char} (h : Flawless (s.scan cs)) (rest : List Char) :
    s.scan (cs ++ c :: rest) = s.scan cs ++ between.scan (c :: rest) := by
  induction cs generalizing s with
  | nil =>
    have hstep := hs.step_of_isDelimiter hc h
    rw [List.nil_append, scan_cons, hstep, List.append_assoc]
    rfl
  | cons d ds ih =>
    obtain ⟨hfirst, hrest⟩ := flawless_append.mp h
    rw [List.cons_append, scan, scan, ih (hs.step d hfirst) hrest, List.append_assoc]

/-- The end of a line does not stand within a token. -/
theorem IsLive.flawless_of_isLineEnd {s : Scanner} (hs : s.IsLive) {c : Char}
    (hc : isLineEnd c = true) {cs rest : List Char} (h : Flawless (s.scan (cs ++ c :: rest))) :
    Flawless (s.scan cs) := by
  induction cs generalizing s with
  | nil =>
    by_contra hflawed
    exact hs.flawed_of_isLineEnd hc hflawed (flawless_append.mp h).1
  | cons d ds ih =>
    obtain ⟨hfirst, hrest⟩ := flawless_append.mp h
    exact flawless_append.mpr ⟨hfirst, ih (hs.step d hfirst) hrest⟩

end Scanner

/-! ### Texts -/

/-- A flawless text in front of a delimiter is scanned for itself. -/
theorem tokens_append {cs : List Char} (h : Flawless (tokens cs)) {c : Char}
    (hc : isDelimiter c = true) (rest : List Char) :
    tokens (cs ++ c :: rest) = tokens cs ++ tokens (c :: rest) :=
  Scanner.IsLive.scan_append (s := .between) trivial hc h rest

/-- What stands on two sides of the end of a line is scanned apart. -/
theorem alike_tokens_append {c : Char} (hc : isLineEnd c = true) (cs rest : List Char) :
    Alike (tokens (cs ++ c :: rest)) (tokens cs ++ tokens rest) := by
  have hdelimiter : isDelimiter c = true := by
    rcases isLineEnd_iff.mp hc with rfl | rfl <;> rfl
  have hskipped : tokens (c :: rest) = tokens rest := by
    rcases isLineEnd_iff.mp hc with rfl | rfl <;> rfl
  intro h
  have hcs : Flawless (tokens cs) := by
    rcases h with h | h
    · exact Scanner.IsLive.flawless_of_isLineEnd (s := .between) trivial hc h
    · exact (flawless_append.mp h).1
  rw [tokens_append hcs hdelimiter, hskipped]

/-- A carriage return at the end of a line does not matter. -/
theorem alike_tokens_dropReturn (line : List Char) :
    Alike (tokens (Text.dropReturn line)) (tokens line) := by
  unfold Text.dropReturn
  split
  · next hlast =>
    obtain ⟨front, rfl⟩ := List.getLast?_eq_some_iff.mp hlast
    rw [List.dropLast_concat]
    have halike := alike_tokens_append (c := '\r') rfl front []
    rw [show tokens [] = [] from rfl, List.append_nil] at halike
    exact halike.symm
  · rfl

theorem alike_tokens_linesFrom (current cs : List Char) :
    Alike (tokens (current ++ cs)) ((Text.linesFrom current cs).flatMap tokens) := by
  induction cs generalizing current with
  | nil =>
    cases current with
    | nil => rfl
    | cons c cs => simp [Text.linesFrom, Alike.refl]
  | cons c cs ih =>
    by_cases hc : c = '\n'
    · subst hc
      rw [Text.linesFrom_newline, List.flatMap_cons]
      have hlines := (alike_tokens_dropReturn current).symm.append (ih [])
      exact (alike_tokens_append rfl current cs).trans hlines
    · have hmore := ih (current ++ [c])
      rw [List.append_assoc, List.singleton_append] at hmore
      rwa [Text.linesFrom, if_neg hc]

/-- A text is scanned line by line. -/
theorem alike_tokens_lines (cs : List Char) :
    Alike (tokens cs) ((Text.lines cs).flatMap tokens) :=
  alike_tokens_linesFrom [] cs

/-- Joined lines are scanned line by line. -/
theorem alike_tokens_unlines (ls : List (List Char)) :
    Alike (tokens (Text.unlines ls)) (ls.flatMap tokens) := by
  induction ls with
  | nil => rfl
  | cons line more ih =>
    cases more with
    | nil => simp [Text.unlines, Alike.refl]
    | cons second others =>
      rw [Text.unlines, List.flatMap_cons]
      · exact (alike_tokens_append rfl line _).trans ((Alike.refl _).append ih)
      · exact List.cons_ne_nil _ _

end AssignmentGrid.Json
