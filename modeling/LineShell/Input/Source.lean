import LineShell.Host

/-!
# Line sources

Where the shell gets its lines from. A reader of lines shows a prompt and gives a line, the end of
input or a fault; it may go on for ever. A source is a finite one: whatever state it is in, it can
give only so many more lines, which is why reading until the end comes to an end.
-/

namespace LineShell

/-- A reader of lines with states in `ι`. -/
class LineReader (ι : Type) where
  /-- Show a prompt and read one line. -/
  readLine : Bytes → ι → Act ReadResult ι
  /-- Nothing but the reading of a line is seen of it. -/
  ofReading_readLine (prompt : Bytes) (s : ι) :
    ∀ e ∈ (readLine prompt s).journal, e.ofReading

/-- A source of lines with states in `ι`. -/
class LineSource (ι : Type) extends LineReader ι where
  /-- A bound on the number of lines still to come. -/
  remaining : ι → Nat
  /-- Every line that is given uses up some of the source. -/
  remaining_lt (prompt : Bytes) (s : ι) (b : Bytes) :
    (readLine prompt s).result = .line b → remaining (readLine prompt s).after < remaining s

namespace LineSource

export LineReader (readLine)

end LineSource

/-- A source that gives its results from a list, and the end of input after them. It shows no
prompt. -/
structure ListedSource where
  results : List ReadResult
  deriving DecidableEq, Repr

/-- The next result of a list. -/
def ListedSource.next (s : ListedSource) : Act ReadResult ListedSource :=
  match s.results with
  | [] => ⟨.endOfInput, [], s⟩
  | r :: rest => ⟨r, [], ⟨rest⟩⟩

instance : LineSource ListedSource where
  readLine _ s := s.next
  ofReading_readLine _ s := by
    unfold ListedSource.next
    split <;> simp
  remaining s := s.results.length
  remaining_lt _ s b h := by
    unfold ListedSource.next at h ⊢
    split at h
    · cases h
    · next r rest hr => simp [hr]

/-- Either of two sources. -/
instance {ι κ : Type} [LineSource ι] [LineSource κ] : LineSource (ι ⊕ κ) where
  readLine prompt
    | .inl s =>
      let act := LineSource.readLine prompt s
      ⟨act.result, act.journal, .inl act.after⟩
    | .inr s =>
      let act := LineSource.readLine prompt s
      ⟨act.result, act.journal, .inr act.after⟩
  ofReading_readLine prompt s := by
    cases s with
    | inl s => exact LineReader.ofReading_readLine prompt s
    | inr s => exact LineReader.ofReading_readLine prompt s
  remaining
    | .inl s => LineSource.remaining s
    | .inr s => LineSource.remaining s
  remaining_lt prompt s b h := by
    cases s with
    | inl s => exact LineSource.remaining_lt prompt s b h
    | inr s => exact LineSource.remaining_lt prompt s b h

end LineShell
