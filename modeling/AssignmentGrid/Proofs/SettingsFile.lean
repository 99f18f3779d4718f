import AssignmentGrid.Proofs.CommentLines
import AssignmentGrid.Proofs.JsonObjects
import AssignmentGrid.Proofs.JsonPrinting
import AssignmentGrid.Settings

/-!
# The file of the settings

A file that is a JSON text gives what it gives without looking for comments, and comment lines do
not change what any file gives. Settings that are saved are loaded again as the same settings.
Specification `SPEC_FULL.md:286–295`.
-/

namespace AssignmentGrid

namespace Json

/-! ### Values that are read back -/

theorem toUInt64_ofUInt64 (n : UInt64) : (ofUInt64 n).toUInt64 = .ok n := by
  have hbound : n.toNat ≤ UInt64.size - 1 := Nat.le_sub_one_of_lt n.toNat_lt_size
  rw [ofUInt64, toUInt64, Number.toBounded, if_pos hbound]
  simp [Except.map]

theorem toUInt32_ofUInt64 (n : UInt32) : (ofUInt64 n.toUInt64).toUInt32 = .ok n := by
  have hbound : n.toUInt64.toNat ≤ UInt32.size - 1 := by
    rw [UInt32.toNat_toUInt64]
    exact Nat.le_sub_one_of_lt n.toNat_lt_size
  rw [ofUInt64, toUInt32, Number.toBounded, if_pos hbound]
  simp [Except.map]

theorem exists_text_of_ofRaw {raw : Raw} {n : Number} (h : ofRaw raw = .ok (.number n)) :
    ∃ t, raw = .number t ∧ Number.ofText t = some n := by
  cases raw with
  | number t =>
    refine ⟨t, rfl, ?_⟩
    unfold ofRaw at h
    cases hn : Number.ofText t with
    | none =>
      rw [hn] at h
      cases h
    | some found =>
      rw [hn] at h
      cases h
      rfl
  | null | bool => cases h
  | text pieces =>
    unfold ofRaw at h
    cases hpieces : readPieces pieces <;> rw [hpieces] at h <;> cases h
  | array items =>
    unfold ofRaw at h
    cases hitems : ofRawItems items <;> rw [hitems] at h <;> cases h
  | object members =>
    unfold ofRaw at h
    cases hmembers : ofRawMembers members <;> rw [hmembers] at h <;> cases h

/-- A text that is read as a number is the one token of a number that denotes it. -/
theorem exists_token_of_parse {cs : List Char} {n : Number} (h : parse cs = .ok (.number n)) :
    ∃ t, tokens cs = [.number t] ∧ Number.ofText t = some n := by
  unfold parse parseInOrder at h
  cases hraw : Raw.parse cs with
  | error fault =>
    rw [hraw] at h
    cases h
  | ok raw =>
    cases hvalue : ofRaw raw with
    | error fault =>
      simp only [hraw, hvalue, bind, Except.bind] at h
      cases h
    | ok value =>
      simp only [hraw, hvalue, bind, Except.bind] at h
      split at h
      · cases h
      · cases value with
        | number found =>
          cases h
          obtain ⟨t, rfl, ht⟩ := exists_text_of_ofRaw hvalue
          exact ⟨t, Raw.tokens_of_parse hraw, ht⟩
        | _ => cases h

/-- A double whose text denotes it is read back. -/
theorem readsBack_real {x : Float} (h : parse (Number.real x).chars = .ok (.number (.real x)))
    (level : Nat) : ReadsBack level (.number (.real x)) := by
  obtain ⟨t, htokens, ht⟩ := exists_token_of_parse h
  refine ⟨.number t, htokens, ?_⟩
  rw [ofRaw, ht]

/-- What is read is not refused. -/
theorem refusal_eq_none {α : Type} {m : Member α} {j : Json} {a : α} (h : m.read j = .ok a) :
    m.field.refusal j = none := by
  simp [Member.field, h]

/-- Of members that are all known none is left out. -/
theorem knownMembers_eq_ok {fields : List Field} {raws : List (List Piece × Raw)}
    {members : List (String × Json)} (h : ofRawMembers raws = .ok members)
    (hknown : ∀ m ∈ members, (fields.any fun f ↦ f.answersTo m.1) = true) :
    knownMembers fields raws = .ok members := by
  induction raws generalizing members with
  | nil => exact h
  | cons first more ih =>
    obtain ⟨key, item⟩ := first
    unfold ofRawMembers at h
    cases hname : readPieces key with
    | error fault =>
      rw [hname] at h
      cases h
    | ok name =>
      cases hvalue : ofRaw item with
      | error fault =>
        rw [hname, hvalue] at h
        cases h
      | ok value =>
        cases hmore : ofRawMembers more with
        | error fault =>
          rw [hname, hvalue, hmore] at h
          cases h
        | ok others =>
          rw [hname, hvalue, hmore] at h
          cases h
          have hfirst := hknown _ List.mem_cons_self
          have hothers := ih hmore fun m hm ↦ hknown m (List.mem_cons_of_mem _ hm)
          simp [knownMembers, hname, hfirst, hvalue, hothers, bind, Except.bind, pure, Except.pure]

end Json

namespace Settings

open Json

/-! ### Files -/

/-- Texts with the same raw value, or none, give the same settings, or none. -/
theorem toOption_ofPlainText_congr {cs ds : List Char}
    (h : (Raw.parse cs).toOption = (Raw.parse ds).toOption) :
    (ofPlainText cs).toOption = (ofPlainText ds).toOption := by
  have hplain (cs : List Char) : (ofPlainText cs).toOption =
      (Raw.parse cs).toOption.bind fun raw ↦
        (ofRawRecord fields raw).toOption.bind fun j ↦ (ofJson j).toOption := by
    unfold ofPlainText parseRecord
    cases Raw.parse cs with
    | error fault => rfl
    | ok raw =>
      cases hrecord : ofRawRecord fields raw with
      | error fault => simp [hrecord, Except.toOption, bind, Except.bind]
      | ok j =>
        cases hread : ofJson j <;> simp [hrecord, hread, Except.toOption]
  rw [hplain, hplain, h]

/-- A file with the tokens of a raw value gives the same settings without looking for comments. -/
theorem toOption_ofText_of_flawless {cs : List Char} (h : Flawless (tokens cs)) :
    (ofText cs).toOption = (ofPlainText cs).toOption := by
  refine toOption_ofPlainText_congr ?_
  rw [Raw.parse_eq_read, tokens_dropComments h, Raw.parse_eq_read]

theorem toOption_ofText_of_commentsPut {cs ds : List Char} (h : Text.CommentsPut cs ds) :
    (ofText ds).toOption = (ofText cs).toOption := by
  refine toOption_ofPlainText_congr ?_
  rw [Raw.parse_eq_read, Raw.parse_eq_read, (alike_tokens_of_commentsPut h).toOption_read]

section

variable (s : Settings)

/-- The members that are saved. -/
def members : List (String × Json) :=
  [("grid.hoursCap", .ofFloat s.hoursCap),
    ("grid.defaultWeeks", .ofUInt64 s.defaultWeeks.toUInt64),
    ("loader.asyncWeekThreshold", .ofUInt64 s.weekThreshold.toUInt64),
    ("loader.asyncPeopleThreshold", .ofUInt64 s.peopleThreshold),
    ("loader.pollIntervalMs", .ofUInt64 s.pollInterval),
    ("loader.pollTimeoutSecs", .ofUInt64 s.pollTimeout),
    ("api.base", .string s.apiBase), ("api.timeoutSecs", .ofUInt64 s.apiTimeout)]

theorem toJson_eq_object : s.toJson = .object s.members := rfl

variable {s}

/-- No member that is saved is refused. -/
theorem checkMembers_members (h : s.hoursCap.isFinite = true) :
    checkMembers fields [] s.members = .ok () := by
  have haccepted {e : String × Json} {f : Field} (hfield : fieldOf? fields e = some f)
      (hvalue : f.refusal e.2 = none) :
      ∀ g, fieldOf? fields e = some g → g.refusal e.2 = none := by
    intro g hg
    rwa [← Option.some.inj (hfield.symm.trans hg)]
  refine (checkMembers_eq_ok_iff fields [] s.members).mpr ⟨?_, ?_, List.disjoint_nil_right _⟩
  · simp only [members, List.forall_mem_cons]
    refine ⟨haccepted rfl (refusal_eq_none (toFloat_ofFloat h)),
      haccepted rfl (refusal_eq_none (toUInt32_ofUInt64 _)),
      haccepted rfl (refusal_eq_none (toUInt32_ofUInt64 _)),
      haccepted rfl (refusal_eq_none (toUInt64_ofUInt64 _)),
      haccepted rfl (refusal_eq_none (toUInt64_ofUInt64 _)),
      haccepted rfl (refusal_eq_none (toUInt64_ofUInt64 _)),
      haccepted rfl (refusal_eq_none (toText_string _)),
      haccepted rfl (refusal_eq_none (toUInt64_ofUInt64 _)), List.forall_mem_nil _⟩
  · have hnames : namesRead fields s.members = s.members.map Prod.fst := rfl
    rw [hnames]
    simp [members]

/-- Settings are read back from their value. -/
theorem ofJson_toJson (h : s.hoursCap.isFinite = true) : ofJson s.toJson = .ok s := by
  have hmembers : s.toJson.toMembers title fields = .ok s.members := by
    rw [toJson_eq_object, toMembers_object, checkMembers_members h]
    rfl
  have hcap : hoursCapMember.get s.members = .ok s.hoursCap := toFloat_ofFloat h
  have hweeks : defaultWeeksMember.get s.members = .ok s.defaultWeeks := toUInt32_ofUInt64 _
  have hweekThreshold : weekThresholdMember.get s.members = .ok s.weekThreshold :=
    toUInt32_ofUInt64 _
  have hpeopleThreshold : peopleThresholdMember.get s.members = .ok s.peopleThreshold :=
    toUInt64_ofUInt64 _
  have hinterval : pollIntervalMember.get s.members = .ok s.pollInterval := toUInt64_ofUInt64 _
  have htimeout : pollTimeoutMember.get s.members = .ok s.pollTimeout := toUInt64_ofUInt64 _
  have hbase : apiBaseMember.get s.members = .ok s.apiBase := rfl
  have hapiTimeout : apiTimeoutMember.get s.members = .ok s.apiTimeout := toUInt64_ofUInt64 _
  simp only [ofJson, hmembers, hcap, hweeks, hweekThreshold, hpeopleThreshold, hinterval,
    htimeout, hbase, hapiTimeout, ok_bind]
  rfl

/-- All that is saved is known when it is loaded. -/
theorem ofRawRecord_of_ofRaw {raw : Raw} (h : ofRaw raw = .ok s.toJson) :
    ofRawRecord fields raw = .ok s.toJson := by
  cases raw with
  | object raws =>
    unfold ofRaw at h
    cases hmembers : ofRawMembers raws with
    | error fault =>
      rw [hmembers] at h
      cases h
    | ok members =>
      rw [hmembers] at h
      obtain rfl := object.inj (Except.ok.inj h)
      have hknown : ∀ m ∈ s.members, (fields.any fun f ↦ f.answersTo m.1) = true := by
        simp only [members, List.forall_mem_cons]
        exact ⟨rfl, rfl, rfl, rfl, rfl, rfl, rfl, rfl, List.forall_mem_nil _⟩
      rw [ofRawRecord, knownMembers_eq_ok hmembers hknown]
      rfl
  | _ => exact h

theorem readsBack_toJson (hcap : s.hoursCap.isFinite = true)
    (hreread : parse (Number.real s.hoursCap).chars = .ok (.number (.real s.hoursCap))) :
    ReadsBack 0 s.toJson := by
  refine readsBack_object fun m hm ↦ ?_
  simp only [List.mem_cons, List.not_mem_nil, or_false] at hm
  rcases hm with rfl | rfl | rfl | rfl | rfl | rfl | rfl | rfl
  case inl =>
    rw [ofFloat, if_pos hcap]
    exact readsBack_real hreread _
  case inr.inr.inr.inr.inr.inr.inl => exact readsBack_string _ _
  all_goals exact readsBack_ofUInt64 _ _

/-- Settings that are saved are loaded again. -/
theorem load_text (hcap : s.hoursCap.isFinite = true)
    (hreread : parse (Number.real s.hoursCap).chars = .ok (.number (.real s.hoursCap))) :
    load s.text = s := by
  obtain ⟨raw, htokens, hraw⟩ := readsBack_toJson hcap hreread
  have hflawless : Flawless (tokens s.text) := htokens ▸ raw.flawless_tokens
  have hparse : Raw.parse s.text = .ok raw := Raw.parse_of_tokens htokens
  have hplain : ofPlainText s.text = .ok s := by
    simp only [ofPlainText, parseRecord, hparse, ofRawRecord_of_ofRaw hraw, ok_bind,
      ofJson_toJson hcap]
  have htext := toOption_ofText_of_flawless hflawless
  unfold load
  cases hload : ofText s.text with
  | error cause =>
    rw [hload, hplain] at htext
    cases htext
  | ok loaded =>
    rw [hload, hplain] at htext
    exact Option.some.inj htext

end

/-- A text of the JSON grammar gives the same settings, or none, whether or not comment lines are
looked for. Comment lines that are put into any text do not change what it gives. Settings with a
finite cap whose text denotes it are loaded from what is saved of them. -/
theorem comments_and_saving :
    (∀ raw cs, Grammar.Value raw cs → (ofText cs).toOption = (ofPlainText cs).toOption) ∧
    (∀ cs ds, Text.CommentsPut cs ds → (ofText ds).toOption = (ofText cs).toOption) ∧
    ∀ s : Settings, s.hoursCap.isFinite = true →
      parse (Number.real s.hoursCap).chars = .ok (.number (.real s.hoursCap)) →
      load s.text = s := by
  refine ⟨fun raw cs h ↦ ?_, fun _ _ ↦ toOption_ofText_of_commentsPut, fun _ ↦ load_text⟩
  have hflawless : Flawless (tokens cs) := tokens_of_value h ▸ raw.flawless_tokens
  exact toOption_ofText_of_flawless hflawless

/-- The address looks like a comment, has a line of its own in the text and is saved and loaded with
its quote, its backslash and its control characters. -/
theorem comments_and_saving_with_slashes :
    let s : Settings := { hoursCap := 37.5, apiBase := "//\"\\\n// \x01" }
    let member : List Char := "\"api.base\":\n\"// a\"".toList
    (ofText ('\x7b' :: (member ++ ['\x7d']))).toOption =
        (ofPlainText ('\x7b' :: (member ++ ['\x7d']))).toOption ∧
      (ofText (['\x7b', '\n'] ++ " // b".toList ++ '\n' :: (member ++ ['\x7d']))).toOption =
        (ofText (['\x7b', '\n'] ++ (member ++ ['\x7d']))).toOption ∧
      load s.text = s := by
  intro s member
  obtain ⟨hplain, hcomments, hsaved⟩ := comments_and_saving
  obtain ⟨key, hkey, -⟩ := exists_text "api.base"
  obtain ⟨address, haddress, -⟩ := exists_text "// a"
  have hname : Grammar.Name key ([] ++ (quoted "api.base" ++ ([] ++ [':']))) := .mk nofun hkey nofun
  have hvalue : Grammar.Value (.text address) (['\n'] ++ (quoted "// a" ++ [])) :=
    .padded (by simp [Grammar.IsSpace]) (.text haddress) nofun
  have hobject := Grammar.Value.object (.one hname hvalue)
  have hreread : parse (Number.real 37.5).chars = .ok (.number (.real 37.5)) := by rfl
  refine ⟨hplain _ _ hobject, hcomments _ _ (.single ?_), hsaved s (by decide +kernel) hreread⟩
  exact .infront (.inr ⟨['\x7b'], rfl⟩) (by decide) (by decide)

end Settings

end AssignmentGrid
