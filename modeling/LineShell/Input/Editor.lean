import LineShell.Input.Source
import LineShell.Text.Blank

/-!
# Line editors as line sources

A line editor lets a user compose a line before it is entered. Its lines are texts without an end
of line. The shell gets them as bytes; a line that is not blank goes to the editor's history first.
A user who interrupts the editor drops the line and gets a new prompt, so an interrupt counts as an
empty line. A composer of lines may go on for ever; an editor is a finite one, as a source is a
finite reader.
-/

namespace LineShell

/-- The result of one use of a line editor. -/
inductive EditorResult where
  /-- A line was entered. -/
  | line (cs : List Char)
  /-- The line was dropped. -/
  | interrupted
  /-- There is no more input. -/
  | endOfInput
  /-- Reading or writing failed. -/
  | failed (cause : Fault)
  /-- The editor failed in another way, which it describes. -/
  | broken (reason : String)
  deriving DecidableEq, Repr

/-- Whether the shell asks for another line after a result. -/
def EditorResult.isLine : EditorResult → Bool
  | line _ | interrupted => true
  | endOfInput | failed _ | broken _ => false

/-- A composer of lines with states in `ε`. -/
class LineComposer (ε : Type) where
  /-- Show a prompt and let a line be composed. -/
  compose : Bytes → ε → Act EditorResult ε
  /-- Add a line to the history. -/
  remember : List Char → ε → ε
  /-- Nothing but the composing of a line is seen of it. It is the shell that adds to the
  history. -/
  ofComposing_compose (prompt : Bytes) (e : ε) :
    ∀ entry ∈ (compose prompt e).journal, entry.ofComposing

/-- A line editor with states in `ε`. -/
class LineEditor (ε : Type) extends LineComposer ε where
  /-- A bound on the number of lines still to come. -/
  remaining : ε → Nat
  /-- Every line uses up some of the input. -/
  remaining_lt (prompt : Bytes) (e : ε) :
    (compose prompt e).result.isLine → remaining (compose prompt e).after < remaining e
  /-- Adding to the history brings no input back. -/
  remaining_remember (cs : List Char) (e : ε) : remaining (remember cs e) ≤ remaining e

/-- A line editor that the shell reads from. -/
structure EditorSource (ε : Type) where
  editor : ε
  deriving DecidableEq, Repr

namespace EditorSource

section Composer

variable {ε : Type} [LineComposer ε]

/-- What the shell gets from a use of its editor. -/
def ofComposed (act : Act EditorResult ε) : Act ReadResult (EditorSource ε) :=
  match act.result with
  | .line cs =>
    if Text.isBlankText cs then ⟨.line (encode cs), act.journal, ⟨act.after⟩⟩
    else
      ⟨.line (encode cs), act.journal ++ [.remembered (encode cs)],
        ⟨LineComposer.remember cs act.after⟩⟩
  | .interrupted => ⟨.line [], act.journal ++ [.logged .lineDiscarded], ⟨act.after⟩⟩
  | .endOfInput => ⟨.endOfInput, act.journal, ⟨act.after⟩⟩
  | .failed cause => ⟨.failed cause, act.journal, ⟨act.after⟩⟩
  | .broken reason => ⟨.failed (.other reason), act.journal, ⟨act.after⟩⟩

/-- Show a prompt and read a line. -/
def readLine (prompt : Bytes) (s : EditorSource ε) : Act ReadResult (EditorSource ε) :=
  ofComposed (LineComposer.compose prompt s.editor)

/-- The shell gets a line only from an editor that gave one or was interrupted. -/
theorem isLine_of_ofComposed {act : Act EditorResult ε} {b : Bytes}
    (h : (ofComposed act).result = .line b) : act.result.isLine := by
  unfold ofComposed at h
  split at h
  · next he => simp [he, EditorResult.isLine]
  · next he => simp [he, EditorResult.isLine]
  all_goals cases h

/-- What the shell does with the use of an editor is still part of reading a line. -/
theorem ofReading_ofComposed (act : Act EditorResult ε)
    (h : ∀ entry ∈ act.journal, entry.ofReading) :
    ∀ entry ∈ (ofComposed act).journal, entry.ofReading := by
  have hsnoc : ∀ last : Entry, last.ofReading →
      ∀ entry ∈ act.journal ++ [last], entry.ofReading := by
    intro last hlast entry he
    rcases List.mem_append.1 he with he | he
    · exact h entry he
    · rw [List.mem_singleton.1 he]
      exact hlast
  unfold ofComposed
  split
  · split
    · exact h
    · exact hsnoc _ rfl
  · exact hsnoc _ rfl
  all_goals exact h

end Composer

theorem remaining_ofComposed_le {ε : Type} [LineEditor ε] (act : Act EditorResult ε) :
    LineEditor.remaining (ofComposed act).after.editor ≤ LineEditor.remaining act.after := by
  unfold ofComposed
  split
  · split
    · exact Nat.le_refl _
    · exact LineEditor.remaining_remember _ _
  all_goals exact Nat.le_refl _

end EditorSource

instance {ε : Type} [LineComposer ε] : LineReader (EditorSource ε) where
  readLine := EditorSource.readLine
  ofReading_readLine prompt s :=
    EditorSource.ofReading_ofComposed _ fun entry he =>
      Entry.ofReading_of_ofComposing (LineComposer.ofComposing_compose prompt s.editor entry he)

instance {ε : Type} [LineEditor ε] : LineSource (EditorSource ε) where
  remaining s := LineEditor.remaining s.editor
  remaining_lt prompt s _ h :=
    Nat.lt_of_le_of_lt (EditorSource.remaining_ofComposed_le _)
      (LineEditor.remaining_lt prompt s.editor (EditorSource.isLine_of_ofComposed h))

/-- A line editor that gives its results from a list, and the end of input after them. -/
structure ListedEditor where
  results : List EditorResult
  deriving DecidableEq, Repr

/-- The next result of a list. -/
def ListedEditor.next (e : ListedEditor) : Act EditorResult ListedEditor :=
  match e.results with
  | [] => ⟨.endOfInput, [], e⟩
  | r :: rest => ⟨r, [], ⟨rest⟩⟩

instance : LineEditor ListedEditor where
  compose _ e := e.next
  remember _ e := e
  ofComposing_compose _ e := by
    unfold ListedEditor.next
    split <;> simp
  remaining e := e.results.length
  remaining_lt _ e h := by
    unfold ListedEditor.next at h ⊢
    split at h
    · cases h
    · next r rest hr => simp [hr]
  remaining_remember _ _ := Nat.le_refl _

end LineShell
