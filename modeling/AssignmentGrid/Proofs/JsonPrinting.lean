import AssignmentGrid.Json.Decode
import AssignmentGrid.Json.Printer
import AssignmentGrid.Proofs.IntegerNames
import AssignmentGrid.Proofs.JsonGrammar

/-!
# Reading what is printed

A string, a whole number and an object that are printed over several lines are scanned to the tokens
of a raw value that denotes them again. For a double this is not shown here: that its text denotes
the double again is a condition.
-/

namespace AssignmentGrid.Json

/-! ### Strings -/

theorem hexValue?_hexDigit : ∀ n < 16, Scanner.hexValue? (hexDigit n) = some n := by decide

theorem readPieces_char (c : Char) (more : List Piece) :
    readPieces (.char c :: more) = (readPieces more).map (c :: ·) := by
  rw [readPieces]

/-- A small unit stands for itself whatever follows. -/
theorem readPieces_unit {n : Nat} (h : n < 0xD800) (more : List Piece) :
    readPieces (.unit n :: more) = (readPieces more).map (Char.ofNat n :: ·) := by
  have hhigh : isHigh n = false := by
    simp [isHigh]
    omega
  have hlow : isLow n = false := by
    simp [isLow]
    omega
  cases more with
  | nil => simp [readPieces, hhigh, hlow]
  | cons piece more => cases piece <;> simp [readPieces, hhigh, hlow]

/-- The characters for which there is an escape of one letter. -/
def shortEscapes : List Char := ['\"', '\\', '\x08', '\t', '\n', '\x0c', '\r']

theorem exists_letter {c : Char} (h : c ∈ shortEscapes) :
    ∃ letter, escape c = ['\\', letter] ∧ Scanner.escaped? letter = some c := by
  simp only [shortEscapes, List.mem_cons, List.not_mem_nil, or_false] at h
  rcases h with rfl | rfl | rfl | rfl | rfl | rfl | rfl <;> exact ⟨_, rfl, rfl⟩

theorem escape_of_not_mem {c : Char} (h : c ∉ shortEscapes) :
    escape c = if c.toNat < 0x20 then
      ['\\', 'u', '0', '0', hexDigit (c.toNat / 16), hexDigit (c.toNat % 16)] else [c] := by
  simp only [shortEscapes, List.mem_cons, List.not_mem_nil, or_false, not_or] at h
  simp [escape, h]

/-- What is printed for a character spells a piece that is read as the character. -/
theorem exists_piece (c : Char) : ∃ piece, Grammar.Character piece (escape c) ∧
    ∀ more, readPieces (piece :: more) = (readPieces more).map (c :: ·) := by
  by_cases hshort : c ∈ shortEscapes
  · obtain ⟨letter, hescape, hletter⟩ := exists_letter hshort
    rw [hescape]
    exact ⟨.char c, .escaped hletter, readPieces_char c⟩
  rw [escape_of_not_mem hshort]
  split
  · next hcontrol =>
    have hzero : Scanner.hexValue? '0' = some 0 := rfl
    have hupper : Scanner.hexValue? (hexDigit (c.toNat / 16)) = some (c.toNat / 16) :=
      hexValue?_hexDigit _ (by omega)
    have hlower : Scanner.hexValue? (hexDigit (c.toNat % 16)) = some (c.toNat % 16) :=
      hexValue?_hexDigit _ (by omega)
    have hunit := Grammar.Character.unit hzero hzero hupper hlower
    rw [show 16 * (16 * (16 * 0 + 0) + c.toNat / 16) + c.toNat % 16 = c.toNat by omega] at hunit
    refine ⟨.unit c.toNat, hunit, fun more ↦ ?_⟩
    rw [readPieces_unit (by omega), Char.ofNat_toNat]
  · next hcontrol =>
    have hquote : c ≠ '\"' := by
      rintro rfl
      exact hshort (by decide)
    have hbackslash : c ≠ '\\' := by
      rintro rfl
      exact hshort (by decide)
    exact ⟨.char c, .plain hquote hbackslash (Nat.le_of_not_lt hcontrol), readPieces_char c⟩

theorem exists_pieces (cs : List Char) :
    ∃ pieces, Grammar.Characters pieces (cs.flatMap escape) ∧ readPieces pieces = .ok cs := by
  induction cs with
  | nil => exact ⟨[], .nil, rfl⟩
  | cons c cs ih =>
    obtain ⟨piece, hpiece, hread⟩ := exists_piece c
    obtain ⟨pieces, hpieces, hcs⟩ := ih
    refine ⟨piece :: pieces, .cons hpiece hpieces, ?_⟩
    rw [hread, hcs]
    rfl

/-- What is printed for a string spells the string. -/
theorem exists_text (s : String) :
    ∃ pieces, Grammar.Text pieces (quoted s) ∧ readPieces pieces = .ok s.toList := by
  obtain ⟨pieces, hpieces, hread⟩ := exists_pieces s.toList
  exact ⟨pieces, .quoted hpieces, hread⟩

/-! ### Numbers -/

/-- The digits of a number spell it. -/
theorem number_toDigits (n : Nat) :
    Grammar.Number ⟨false, Nat.toDigits 10 n, [], none⟩ (Nat.toDigits 10 n) := by
  have hwhole : Grammar.IsWhole (Nat.toDigits 10 n) := by
    rcases Nat.eq_zero_or_pos n with rfl | hpos
    · exact .inl rfl
    · obtain ⟨d, ds, hdigits, hzero, hd, hds⟩ := Decimal.exists_toDigits_eq hpos
      rw [hdigits]
      refine .inr ⟨⟨List.cons_ne_nil _ _, List.forall_mem_cons.mpr ⟨hd, hds⟩⟩, ?_⟩
      exact fun hhead ↦ hzero (Option.some.inj hhead)
  have hnumber := Grammar.Number.plain hwhole .none .none
  rwa [List.append_nil, List.append_nil] at hnumber

theorem Number.ofText_toDigits (n : UInt64) :
    Number.ofText ⟨false, Nat.toDigits 10 n.toNat, [], none⟩ = some (.whole n) := by
  have hsize : n.toNat < UInt64.size := n.toNat_lt_size
  simp [Number.ofText, Decimal.natOfDigits_toDigits, hsize]

/-! ### Values -/

/-- The text that is printed of a value at a level has the tokens of a raw value that denotes it. -/
def ReadsBack (level : Nat) (j : Json) : Prop :=
  ∃ raw, tokens (prettyAt level j) = raw.tokens ∧ ofRaw raw = .ok j

theorem readsBack_string (level : Nat) (s : String) : ReadsBack level (.string s) := by
  obtain ⟨pieces, htext, hread⟩ := exists_text s
  refine ⟨.text pieces, tokens_of_value (.text htext), ?_⟩
  rw [ofRaw, hread]
  simp [Except.map]

theorem readsBack_ofUInt64 (level : Nat) (n : UInt64) : ReadsBack level (.ofUInt64 n) := by
  refine ⟨_, tokens_of_value (.number (number_toDigits n.toNat)), ?_⟩
  rw [ofRaw, Number.ofText_toDigits]
  rfl

theorem tokens_newline_append (level : Nat) (cs : List Char) :
    tokens (newline level ++ cs) = tokens cs := by
  refine tokens_space_append (fun c hc ↦ ?_) cs
  rcases List.mem_cons.mp hc with rfl | hblank
  · simp
  · exact .inl (List.eq_of_mem_replicate hblank)

/-- Behind the value of a member a delimiter follows. -/
theorem tokens_append_prettyMembers {cs : List Char} (h : Flawless (tokens cs)) (level : Nat)
    (more : List (String × Json)) :
    tokens (cs ++ prettyMembers level more) = tokens cs ++ tokens (prettyMembers level more) := by
  cases more with
  | nil => exact tokens_append h rfl _
  | cons first more => exact tokens_append h rfl _

/-- A member that is printed has the tokens of a name and a value. -/
theorem exists_member {level : Nat} {value : Json} (h : ReadsBack level value) (name : String) :
    ∃ key raw, (∀ rest, tokens (quoted name ++ ':' :: ' ' :: rest) =
        .text key :: .colon :: tokens rest) ∧
      tokens (prettyAt level value) = raw.tokens ∧
      ∀ raws, ofRawMembers ((key, raw) :: raws) =
        (ofRawMembers raws).map ((name, value) :: ·) := by
  obtain ⟨raw, htokens, hraw⟩ := h
  obtain ⟨key, htext, hkey⟩ := exists_text name
  refine ⟨key, raw, fun rest ↦ ?_, htokens, fun raws ↦ ?_⟩
  · rw [tokens_text_append htext]
    rfl
  · rw [ofRawMembers, hkey, hraw]
    cases ofRawMembers raws <;> simp [bind, Except.bind, pure, Except.pure, Except.map]

/-- The members behind the first one are printed with the tokens of raw members. -/
theorem exists_moreMembers {level : Nat} {more : List (String × Json)}
    (h : ∀ m ∈ more, ReadsBack (level + 1) m.2) :
    ∃ raws, ofRawMembers raws = .ok more ∧ ∀ key (raw : Raw),
      .text key :: .colon :: (raw.tokens ++ tokens (prettyMembers level more)) =
        Raw.memberTokens ((key, raw) :: raws) ++ [.closeBrace] := by
  induction more with
  | nil =>
    refine ⟨[], rfl, fun key raw ↦ ?_⟩
    rw [prettyMembers, tokens_newline_append]
    rfl
  | cons first more ih =>
    obtain ⟨name, value⟩ := first
    obtain ⟨raws, hraws, hmore⟩ := ih fun m hm ↦ h m (List.mem_cons_of_mem _ hm)
    obtain ⟨key, raw, hname, hvalue, hmember⟩ := exists_member (h _ List.mem_cons_self) name
    refine ⟨(key, raw) :: raws, ?_, fun before item ↦ ?_⟩
    · rw [hmember, hraws]
      rfl
    · have htokens : tokens (prettyMembers level ((name, value) :: more)) =
          .comma :: (Raw.memberTokens ((key, raw) :: raws) ++ [.closeBrace]) := by
        rw [prettyMembers, ← hmore, ← hvalue,
          ← tokens_append_prettyMembers (hvalue ▸ raw.flawless_tokens), ← hname,
          List.append_assoc]
        exact congrArg (Token.comma :: ·) (tokens_newline_append _ _)
      have hcons : Raw.memberTokens ((before, item) :: (key, raw) :: raws) = .text before :: .colon ::
          (item.tokens ++ .comma :: Raw.memberTokens ((key, raw) :: raws)) := rfl
      rw [htokens, hcons]
      simp only [List.cons_append, List.append_assoc]

/-- An object is read back if the values of its members are. -/
theorem readsBack_object {level : Nat} {members : List (String × Json)}
    (h : ∀ m ∈ members, ReadsBack (level + 1) m.2) : ReadsBack level (.object members) := by
  cases members with
  | nil => exact ⟨.object [], rfl, rfl⟩
  | cons first more =>
    obtain ⟨name, value⟩ := first
    obtain ⟨raws, hraws, hmore⟩ := exists_moreMembers fun m hm ↦ h m (List.mem_cons_of_mem _ hm)
    obtain ⟨key, raw, hname, hvalue, hmember⟩ := exists_member (h _ List.mem_cons_self) name
    refine ⟨.object ((key, raw) :: raws), ?_, ?_⟩
    · rw [prettyAt, Raw.tokens, ← hmore, ← hvalue,
        ← tokens_append_prettyMembers (hvalue ▸ raw.flawless_tokens), ← hname, List.append_assoc]
      exact congrArg (Token.openBrace :: ·) (tokens_newline_append _ _)
    · rw [ofRaw, hmember, hraws]
      rfl

end AssignmentGrid.Json
