import AssignmentGrid.Proofs.JsonScanning
import Mathlib.Logic.Relation

/-!
# Comment lines in a JSON text

Taking the comment lines out of a JSON text leaves its tokens as they are, because no line of it
looks like a comment. Putting comment lines into any text, in front of a line or behind the last
one, leaves the tokens of what is read as they are: at most a carriage return is lost which then
belongs to the ending of a line. Specification `SPEC_FULL.md:288–289`.
-/

namespace AssignmentGrid

namespace Text

section

variable {front line comment : List Char}

/-! ### Comments -/

/-- The ending of a line does not make it a comment. -/
theorem isComment_dropReturn (line : List Char) : isComment (dropReturn line) = isComment line := by
  unfold dropReturn
  split
  · next hlast =>
    obtain ⟨front, rfl⟩ := List.getLast?_eq_some_iff.mp hlast
    rw [List.dropLast_concat, isComment, isComment, trim_concat_of_isBlank (by decide)]
  · rfl

/-- What is left of a comment without the blanks in front begins with a slash. -/
theorem exists_trimStart_of_isComment (h : isComment line = true) :
    ∃ more, trimStart line = '/' :: more := by
  unfold isComment trim at h
  split at h
  · next more hslashes =>
    obtain ⟨blanks, hblanks⟩ : trimEnd (trimStart line) <+: trimStart line := by
      rw [← List.reverse_suffix, trimEnd, List.reverse_reverse]
      exact List.dropWhile_suffix _
    rw [hslashes] at hblanks
    exact ⟨_, hblanks.symm⟩
  · cases h

/-! ### Lines -/

/-- A text that ends where a line ends, or has no lines. -/
def EndsLine (cs : List Char) : Prop := cs = [] ∨ ∃ front, cs = front ++ ['\n']

theorem linesFrom_append_newline (current front rest : List Char) :
    linesFrom current (front ++ '\n' :: rest) =
      linesFrom current (front ++ ['\n']) ++ lines rest := by
  induction front generalizing current with
  | nil => rfl
  | cons c cs ih =>
    simp only [List.cons_append, linesFrom]
    split
    · rw [ih, List.cons_append]
    · rw [ih]

/-- Behind whole lines the lines of the rest follow. -/
theorem lines_append (h : EndsLine front) (rest : List Char) :
    lines (front ++ rest) = lines front ++ lines rest := by
  rcases h with rfl | ⟨front, rfl⟩
  · rfl
  · rw [List.append_assoc]
    exact linesFrom_append_newline [] front rest

theorem lines_append_newline (h : '\n' ∉ line) (rest : List Char) :
    lines (line ++ '\n' :: rest) = dropReturn line :: lines rest := by
  rw [lines, linesFrom_append h, linesFrom_newline, List.nil_append]
  rfl

theorem lines_of_not_mem (h : '\n' ∉ line) (hne : line ≠ []) : lines line = [line] := by
  have hlines := linesFrom_append h [] []
  rw [List.append_nil, List.nil_append, linesFrom, if_neg (by simpa using hne)] at hlines
  exact hlines

/-- A text is whole lines and what stands behind the last line feed. -/
theorem exists_last_line (cs : List Char) :
    ∃ front last, cs = front ++ last ∧ EndsLine front ∧ '\n' ∉ last := by
  induction cs with
  | nil => exact ⟨[], [], rfl, .inl rfl, List.not_mem_nil⟩
  | cons c cs ih =>
    obtain ⟨front, last, rfl, hfront, hlast⟩ := ih
    rcases hfront with rfl | ⟨front, rfl⟩
    · by_cases hc : c = '\n'
      · subst hc
        exact ⟨['\n'], last, rfl, .inr ⟨[], rfl⟩, hlast⟩
      · exact ⟨[], c :: last, rfl, .inl rfl, by simp [Ne.symm hc, hlast]⟩
    · exact ⟨c :: (front ++ ['\n']), last, rfl, .inr ⟨c :: front, rfl⟩, hlast⟩

/-! ### Lines that are kept -/

/-- The lines of a text that are no comments. -/
def keptLines (cs : List Char) : List (List Char) := (lines cs).filter fun line ↦ !isComment line

theorem keptLines_append (h : EndsLine front) (rest : List Char) :
    keptLines (front ++ rest) = keptLines front ++ keptLines rest := by
  rw [keptLines, lines_append h, List.filter_append]
  rfl

/-- A comment with a line feed behind it is not kept. -/
theorem keptLines_comment_newline (h : '\n' ∉ comment) (hcomment : isComment comment = true)
    (rest : List Char) : keptLines (comment ++ '\n' :: rest) = keptLines rest := by
  rw [keptLines, lines_append_newline h, List.filter_cons_of_neg]
  · rfl
  · simp [isComment_dropReturn, hcomment]

/-- A comment at the end of a text is not kept. -/
theorem keptLines_comment (h : '\n' ∉ comment) (hcomment : isComment comment = true) :
    keptLines comment = [] := by
  have hne : comment ≠ [] := by
    rintro rfl
    cases hcomment
  simp [keptLines, lines_of_not_mem h hne, hcomment]

end

/-- A comment line is put into a text. -/
inductive CommentPut : List Char → List Char → Prop where
  /-- In front of a line, or behind the last one if that is ended. -/
  | infront {front comment rest : List Char} (hfront : EndsLine front) (hline : '\n' ∉ comment)
    (hcomment : isComment comment = true) :
    CommentPut (front ++ rest) (front ++ comment ++ '\n' :: rest)
  /-- Behind the last line, without being ended itself. -/
  | last {text comment : List Char} (htext : EndsLine text) (hline : '\n' ∉ comment)
    (hcomment : isComment comment = true) : CommentPut text (text ++ comment)
  /-- Behind a last line that is not ended before. -/
  | behind {text comment ending : List Char} (htext : ¬ EndsLine text) (hline : '\n' ∉ comment)
    (hcomment : isComment comment = true) (hending : ending = [] ∨ ending = ['\n']) :
    CommentPut text (text ++ '\n' :: (comment ++ ending))

/-- Any number of comment lines are put into a text, one after the other. -/
abbrev CommentsPut : List Char → List Char → Prop := Relation.ReflTransGen CommentPut

end Text

namespace Json

/-- No token begins with a slash. -/
theorem flawed_of_trimStart {cs more : List Char} (h : Text.trimStart cs = '/' :: more) :
    ¬ Flawless (tokens cs) := by
  induction cs with
  | nil => cases h
  | cons c cs ih =>
    by_cases hblank : Text.isBlank c = true
    · have hrest : Text.trimStart cs = '/' :: more := by
        simpa [Text.trimStart, hblank] using h
      by_cases hspace : Scanner.isSpace c = true
      · have hbegin : Scanner.begin c = ([], .between) := by
          rcases Scanner.isSpace_iff.mp hspace with rfl | rfl | rfl | rfl <;> rfl
        rw [tokens, Scanner.scan_cons, Scanner.step, hbegin]
        exact ih hrest
      · have hstart : NumberScan.start? c = none := by
          have hdigit : c.isDigit = false := by
            by_contra hdigit
            have hnot := Text.isBlank_eq_false_of_isDigit (Bool.of_not_eq_false hdigit)
            cases hblank.symm.trans hnot
          have hminus : c ≠ '-' := by
            rintro rfl
            exact absurd hblank (by decide)
          have hzero : c ≠ '0' := by
            rintro rfl
            exact absurd hblank (by decide)
          simp [NumberScan.start?, hdigit, hminus, hzero]
        have hbegin : Scanner.begin c = ([.flaw .stray], .stuck) := by
          unfold Scanner.begin
          split
          case h_11 => simp [hspace, hstart]
          all_goals exact absurd hblank (by decide)
        rw [tokens, Scanner.scan_cons, Scanner.step, hbegin]
        exact not_flawless_of_mem List.mem_cons_self
    · have hcons : c :: cs = '/' :: more := by
        simpa [Text.trimStart, hblank] using h
      rw [hcons]
      exact not_flawless_of_mem List.mem_cons_self

theorem flawed_of_isComment {line : List Char} (h : Text.isComment line = true) :
    ¬ Flawless (tokens line) := by
  obtain ⟨more, hmore⟩ := Text.exists_trimStart_of_isComment h
  exact flawed_of_trimStart hmore

theorem alike_tokens_dropComments (cs : List Char) :
    Alike (tokens (Text.dropComments cs)) ((Text.keptLines cs).flatMap tokens) :=
  alike_tokens_unlines _

/-- A text without flaws has no comment lines. -/
theorem keptLines_of_flawless {cs : List Char} (h : Flawless (tokens cs)) :
    Text.keptLines cs = Text.lines cs := by
  refine List.filter_eq_self.mpr fun line hline ↦ ?_
  have hlines : Flawless ((Text.lines cs).flatMap tokens) := (alike_tokens_lines cs).flawless_iff.mp h
  have hclean : Flawless (tokens line) :=
    fun f hf ↦ hlines f (List.mem_flatMap.mpr ⟨line, hline, hf⟩)
  simpa using mt flawed_of_isComment (not_not_intro hclean)

/-- Nothing is taken out of a text without flaws. -/
theorem tokens_dropComments {cs : List Char} (h : Flawless (tokens cs)) :
    tokens (Text.dropComments cs) = tokens cs := by
  have hkept := alike_tokens_dropComments cs
  rw [keptLines_of_flawless h] at hkept
  exact ((alike_tokens_lines cs).trans hkept.symm (.inl h)).symm

/-- A comment line leaves the tokens of the kept lines as they are. -/
theorem alike_keptLines_of_commentPut {cs ds : List Char} (h : Text.CommentPut cs ds) :
    Alike ((Text.keptLines ds).flatMap tokens) ((Text.keptLines cs).flatMap tokens) := by
  cases h with
  | infront hfront hline hcomment =>
    rw [List.append_assoc, Text.keptLines_append hfront, Text.keptLines_append hfront,
      Text.keptLines_comment_newline hline hcomment]
  | last htext hline hcomment =>
    rw [Text.keptLines_append htext, Text.keptLines_comment hline hcomment, List.append_nil]
  | @behind _ comment ending htext hline hcomment hending =>
    obtain ⟨front, last, rfl, hfront, hlast⟩ := Text.exists_last_line cs
    have hne : last ≠ [] := by
      rintro rfl
      exact htext (by rwa [List.append_nil])
    have hnone : Text.keptLines (comment ++ ending) = [] := by
      rcases hending with rfl | rfl
      · rw [List.append_nil, Text.keptLines_comment hline hcomment]
      · rw [Text.keptLines_comment_newline hline hcomment]
        rfl
    have hbefore : Text.keptLines last = if !Text.isComment last then [last] else [] := by
      rw [Text.keptLines, Text.lines_of_not_mem hlast hne, List.filter_cons, List.filter_nil]
    -- Only the ending of the line in front of the comment is new.
    have hafter : Text.keptLines (last ++ '\n' :: (comment ++ ending)) =
        if !Text.isComment last then [Text.dropReturn last] else [] := by
      rw [Text.keptLines, Text.lines_append_newline hlast, List.filter_cons,
        Text.isComment_dropReturn, ← Text.keptLines, hnone]
    rw [List.append_assoc, Text.keptLines_append hfront, Text.keptLines_append hfront, hbefore,
      hafter, List.flatMap_append, List.flatMap_append]
    refine (Alike.refl _).append ?_
    split
    · simpa using alike_tokens_dropReturn last
    · rfl

/-- Comment lines leave the tokens of what is read as they are. -/
theorem alike_tokens_of_commentsPut {cs ds : List Char} (h : Text.CommentsPut cs ds) :
    Alike (tokens (Text.dropComments ds)) (tokens (Text.dropComments cs)) := by
  have hkept : Alike ((Text.keptLines ds).flatMap tokens) ((Text.keptLines cs).flatMap tokens) := by
    induction h with
    | refl => rfl
    | tail _ hput ih => exact (alike_keptLines_of_commentPut hput).trans ih
  exact ((alike_tokens_dropComments ds).trans hkept).trans (alike_tokens_dropComments cs).symm

end Json

end AssignmentGrid
