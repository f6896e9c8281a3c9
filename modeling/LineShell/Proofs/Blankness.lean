import LineShell.Input.Editor
import LineShell.Proofs.Encoding
import LineShell.Proofs.Entries
import LineShell.Proofs.Layouts

/-!
# Blank for the history, blank for the shell

There are two notions of a blank line. The history leaves out a line that is all white space; the
shell carries out nothing for a line that is all delimiters. They are not the same: the bell is a
delimiter and no white space, whereas most white space, from the vertical tab to the blanks beyond
ASCII, is no delimiter. So a line can be carried out without being recorded, and be recorded without
being carried out. The two notions agree on lines with a character that is neither white space nor a
delimiter, and on lines that have a bell if and only if they have white space that is no delimiter
(`recorded_iff_carried_out_on`).
-/

namespace LineShell

/-! ## Characters -/

/-- Whether a character is a delimiter. -/
def isDelimiterChar (c : Char) : Bool :=
  [' ', '\t', '\r', '\n', '\x07'].contains c

/-- The encoding of a character is made of delimiters exactly if the character is one. -/
theorem isGap_utf8EncodeChar_iff (c : Char) :
    IsGap (String.utf8EncodeChar c) ↔ isDelimiterChar c = true := by
  constructor
  · intro hgap
    obtain ⟨b, hb⟩ := List.exists_mem_of_ne_nil _ (String.utf8EncodeChar_ne_nil (c := c))
    have hcases : b = 32 ∨ b = 9 ∨ b = 13 ∨ b = 10 ∨ b = 7 := by
      simpa [isDelimiter, delimiters] using hgap b hb
    have hsmall : b < 128 := by
      rcases hcases with rfl | rfl | rfl | rfl | rfl <;> decide
    -- a byte below 128 is the encoding of its own character and of no other one
    have hcode : c.toNat = b.toNat := (mem_utf8EncodeChar_iff hsmall c).1 hb
    rw [← Char.ofNat_toNat c, hcode]
    rcases hcases with rfl | rfl | rfl | rfl | rfl <;> rfl
  · intro hc
    have hcases : c = ' ' ∨ c = '\t' ∨ c = '\r' ∨ c = '\n' ∨ c = '\x07' := by
      simpa [isDelimiterChar] using hc
    have hgap : ∀ d : Char, (String.utf8EncodeChar d).all isDelimiter = true →
        IsGap (String.utf8EncodeChar d) := fun d hd b hb => List.all_eq_true.1 hd b hb
    rcases hcases with rfl | rfl | rfl | rfl | rfl <;> exact hgap _ rfl

/-- The shell carries out nothing for a text exactly if all of its characters are delimiters. -/
theorem tokenize_encode_eq_nil_iff (cs : List Char) :
    tokenize (encode cs) = [] ↔ ∀ c ∈ cs, isDelimiterChar c = true := by
  rw [tokenize_eq_words, words_eq_nil_iff]
  constructor
  · intro hgap c hc
    exact (isGap_utf8EncodeChar_iff c).1 fun b hb => hgap b (List.mem_flatMap.2 ⟨c, hc, hb⟩)
  · intro hall b hb
    obtain ⟨c, hc, hbc⟩ := List.mem_flatMap.1 hb
    exact (isGap_utf8EncodeChar_iff c).2 (hall c hc) b hbc

namespace Text

/-- Trimming leaves nothing of a text exactly if it is all white space. -/
theorem trim_eq_nil_iff (cs : List Char) : trim cs = [] ↔ isBlankText cs = true := by
  have hall : isBlankText cs = true ↔ ∀ c ∈ cs, isBlank c = true := List.all_eq_true
  rw [hall, trim, List.reverse_eq_nil_iff, List.dropWhile_eq_nil_iff]
  constructor
  · intro htrimmed c hc
    rw [← List.takeWhile_append_dropWhile (p := isBlank) (l := cs)] at hc
    rcases List.mem_append.1 hc with hc | hc
    · exact List.mem_takeWhile_imp hc
    · exact htrimmed c (List.mem_reverse.2 hc)
  · intro hblank c hc
    exact hblank c ((List.dropWhile_sublist isBlank).subset (List.mem_reverse.1 hc))

/-- The only delimiter that is no white space is the bell. -/
theorem isBlank_of_isDelimiterChar {c : Char} (hc : isDelimiterChar c = true) :
    isBlank c = true ↔ c ≠ '\x07' := by
  have hcases : c = ' ' ∨ c = '\t' ∨ c = '\r' ∨ c = '\n' ∨ c = '\x07' := by
    simpa [isDelimiterChar] using hc
  rcases hcases with rfl | rfl | rfl | rfl | rfl <;> decide

/-- A text is not all white space exactly if it has a bell or a character that is neither white
space nor a delimiter. -/
theorem exists_not_isBlank_iff (cs : List Char) :
    (∃ c ∈ cs, isBlank c = false) ↔
      '\x07' ∈ cs ∨ ∃ c ∈ cs, isBlank c = false ∧ isDelimiterChar c = false := by
  constructor
  · rintro ⟨c, hc, hblank⟩
    cases hdelim : isDelimiterChar c with
    | false => exact .inr ⟨c, hc, hblank, hdelim⟩
    | true =>
      have hbell : c = '\x07' := by
        by_contra hne
        rw [(isBlank_of_isDelimiterChar hdelim).2 hne] at hblank
        cases hblank
      exact .inl (hbell ▸ hc)
  · rintro (hbell | ⟨c, hc, hblank, -⟩)
    · exact ⟨'\x07', hbell, by decide⟩
    · exact ⟨c, hc, hblank⟩

/-- A text is not all delimiters exactly if it has white space that is no delimiter, or a character
that is neither. -/
theorem exists_not_isDelimiterChar_iff (cs : List Char) :
    (∃ c ∈ cs, isDelimiterChar c = false) ↔
      (∃ c ∈ cs, isBlank c = true ∧ isDelimiterChar c = false) ∨
        ∃ c ∈ cs, isBlank c = false ∧ isDelimiterChar c = false := by
  constructor
  · rintro ⟨c, hc, hdelim⟩
    cases hblank : isBlank c with
    | true => exact .inl ⟨c, hc, hblank, hdelim⟩
    | false => exact .inr ⟨c, hc, hblank, hdelim⟩
  · rintro (⟨c, hc, -, hdelim⟩ | ⟨c, hc, -, hdelim⟩) <;> exact ⟨c, hc, hdelim⟩

end Text

/-! ## The history -/

/-- What the shell adds to the history for the result of a use of its editor. -/
def EditorResult.recorded : EditorResult → List Bytes
  | line cs => if Text.isBlankText cs then [] else [encode cs]
  | interrupted | endOfInput | failed _ | broken _ => []

namespace EditorSource

variable {ε : Type} [LineComposer ε]

theorem remembered_readLine (text : Bytes) (s : EditorSource ε) :
    (readLine text s).journal.remembered
      = (LineComposer.compose text s.editor).result.recorded := by
  have hnone := Journal.remembered_of_composing (LineComposer.ofComposing_compose text s.editor)
  unfold readLine ofComposed
  split
  · next cs hr =>
    rw [hr, EditorResult.recorded]
    split
    · exact hnone
    · rw [Journal.remembered_append, hnone]
      rfl
  · next hr =>
    rw [hr, Journal.remembered_append, hnone]
    rfl
  all_goals
    next hr =>
      rw [hr]
      exact hnone

/-- The shell adds a line to the history: this is seen of the read, and it is done to the editor. -/
structure Records (text : Bytes) (s : EditorSource ε) (cs : List Char) : Prop where
  remembered : (readLine text s).journal.remembered = [encode cs]
  editor : (readLine text s).after.editor
    = LineComposer.remember cs (LineComposer.compose text s.editor).after

/-- The shell adds nothing to the history. -/
structure PassesOver (text : Bytes) (s : EditorSource ε) : Prop where
  remembered : (readLine text s).journal.remembered = []
  editor : (readLine text s).after.editor = (LineComposer.compose text s.editor).after

variable {text : Bytes} {s : EditorSource ε} {cs : List Char}
  (hline : (LineComposer.compose text s.editor).result = .line cs)

include hline

theorem passesOver_of_isBlankText (hcs : Text.isBlankText cs = true) : s.PassesOver text where
  remembered := by rw [remembered_readLine, hline, EditorResult.recorded, if_pos hcs]
  editor := by simp only [readLine, ofComposed, hline, hcs, if_true]

theorem records_of_not_isBlankText (hcs : Text.isBlankText cs ≠ true) : s.Records text cs where
  remembered := by rw [remembered_readLine, hline, EditorResult.recorded, if_neg hcs]
  editor := by simp only [readLine, ofComposed, hline, hcs, if_false, Bool.false_eq_true]

/-- A line is recorded exactly if it is not all white space. -/
theorem records_iff : s.Records text cs ↔ Text.isBlankText cs ≠ true := by
  constructor
  · intro hrecords hcs
    have hnone := (passesOver_of_isBlankText hline hcs).remembered
    rw [hrecords.remembered] at hnone
    cases hnone
  · exact records_of_not_isBlankText hline

/-- Nothing is done for a line exactly if it is all white space. -/
theorem passesOver_iff : s.PassesOver text ↔ Text.isBlankText cs = true := by
  constructor
  · intro hpasses
    by_contra hcs
    have hone := (records_of_not_isBlankText hline hcs).remembered
    rw [hpasses.remembered] at hone
    cases hone
  · exact passesOver_of_isBlankText hline

/-- The shell gets the characters of the line, whatever they are. -/
theorem result_readLine_of_line : (readLine text s).result = .line (encode cs) := by
  unfold readLine ofComposed
  rw [hline]
  dsimp only
  split <;> rfl

end EditorSource

/-- **A line is recorded if trimming leaves something of it, and carried out if it holds more than
delimiters.** A line that an editor gives goes to the history if one of its characters is no white
space, and nothing is done to the history otherwise. It has words if one of its characters is no
delimiter. What makes the two notions differ are bells and the white space that is no delimiter:
they agree on a line exactly if it holds a character that is neither white space nor a delimiter, or
if it holds a bell just in case it holds such white space. -/
theorem recorded_iff_carried_out_on {ε : Type} [LineComposer ε] {text : Bytes} {s : EditorSource ε}
    {cs : List Char} (hline : (LineComposer.compose text s.editor).result = .line cs) :
    (s.readLine text).result = .line (encode cs) ∧
      (s.Records text cs ↔ Text.trim cs ≠ []) ∧
      (s.PassesOver text ↔ Text.trim cs = []) ∧
      (tokenize (encode cs) ≠ [] ↔ ∃ c ∈ cs, isDelimiterChar c = false) ∧
      ((s.Records text cs ↔ tokenize (encode cs) ≠ []) ↔
        (∃ c ∈ cs, Text.isBlank c = false ∧ isDelimiterChar c = false) ∨
          ('\x07' ∈ cs ↔ ∃ c ∈ cs, Text.isBlank c = true ∧ isDelimiterChar c = false)) := by
  have hrecords : s.Records text cs ↔ Text.isBlankText cs ≠ true := EditorSource.records_iff hline
  have hpasses : s.PassesOver text ↔ Text.isBlankText cs = true :=
    EditorSource.passesOver_iff hline
  have hwords : tokenize (encode cs) ≠ [] ↔ ∃ c ∈ cs, isDelimiterChar c = false := by
    simp [tokenize_encode_eq_nil_iff]
  refine ⟨EditorSource.result_readLine_of_line hline, ?_, ?_, hwords, ?_⟩
  · exact hrecords.trans (not_congr (Text.trim_eq_nil_iff cs).symm)
  · rw [hpasses, Text.trim_eq_nil_iff]
  · have hnotBlank : Text.isBlankText cs ≠ true ↔ ∃ c ∈ cs, Text.isBlank c = false := by
      simp [Text.isBlankText]
    rw [hrecords, hnotBlank, hwords, Text.exists_not_isBlank_iff,
      Text.exists_not_isDelimiterChar_iff]
    -- a character that is neither makes both notions see the line
    by_cases hneither : ∃ c ∈ cs, Text.isBlank c = false ∧ isDelimiterChar c = false
    · simp only [hneither, or_true, true_or]
    · simp only [hneither, or_false, false_or]

/-- A bell and a no-break space: together they are recorded, and carried out. -/
theorem recorded_iff_carried_out_on_bell_and_nbsp :
    let cs : List Char := ['\x07', '\u00a0']
    let s : EditorSource ListedEditor := ⟨⟨[.line cs]⟩⟩
    (LineComposer.compose prompt s.editor).result = .line cs ∧
      (s.readLine prompt).result = .line [0x07, 0xc2, 0xa0] ∧
      s.Records prompt cs ∧ tokenize (encode cs) ≠ [] := by
  intro cs s
  have hline : (LineComposer.compose prompt s.editor).result = .line cs := rfl
  obtain ⟨hresult, hrecords, -, hwords, -⟩ := recorded_iff_carried_out_on hline
  have hnbsp : '\u00a0' ∈ cs := List.mem_cons_of_mem _ List.mem_cons_self
  exact ⟨hline, hresult.trans rfl, hrecords.2 (by decide), hwords.2 ⟨'\u00a0', hnbsp, rfl⟩⟩

/-- A no-break space is a command that is not recorded, and a bell is recorded and no command. -/
theorem nbsp_is_not_recorded_and_bell_is :
    let s : EditorSource ListedEditor := ⟨⟨[.line ['\u00a0']]⟩⟩
    let t : EditorSource ListedEditor := ⟨⟨[.line ['\x07']]⟩⟩
    (LineComposer.compose prompt s.editor).result = .line ['\u00a0'] ∧
      s.PassesOver prompt ∧ tokenize (encode ['\u00a0']) = [[0xc2, 0xa0]] ∧
      ¬ (s.Records prompt ['\u00a0'] ↔ tokenize (encode ['\u00a0']) ≠ []) ∧
    (LineComposer.compose prompt t.editor).result = .line ['\x07'] ∧
      t.Records prompt ['\x07'] ∧ tokenize (encode ['\x07']) = [] ∧
      ¬ (t.Records prompt ['\x07'] ↔ tokenize (encode ['\x07']) ≠ []) := by
  intro s t
  have hpasses : s.PassesOver prompt := EditorSource.passesOver_of_isBlankText rfl (by decide)
  have hnbsp : tokenize (encode ['\u00a0']) = [[0xc2, 0xa0]] := by decide
  have hrecords : t.Records prompt ['\x07'] :=
    EditorSource.records_of_not_isBlankText rfl (by decide)
  have hbell : tokenize (encode ['\x07']) = [] := by decide
  refine ⟨rfl, hpasses, hnbsp, ?_, rfl, hrecords, hbell, fun hiff => hiff.1 hrecords hbell⟩
  intro hiff
  have hne : tokenize (encode ['\u00a0']) ≠ [] := by
    rw [hnbsp]
    exact List.cons_ne_nil _ _
  cases (hiff.2 hne).remembered.symm.trans hpasses.remembered

end LineShell
