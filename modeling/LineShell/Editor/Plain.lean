import LineShell.Input.Editor
import LineShell.Input.Supply
import LineShell.Text.Cluster

/-!
# Editing without a terminal

Input that does not come from a terminal, or comes from one without a movable cursor, is not edited
key by key: each line of it is entered as it stands, without its end of line and with its
backspaces carried out. Such a line has to be well-formed UTF-8.
-/

namespace LineShell.Editor

/-- A line without its line feed and, if it had one, without the carriage return before it. -/
def withoutLineEnd (cs : List Char) : List Char :=
  match cs.reverse with
  | '\n' :: '\r' :: rest => rest.reverse
  | '\n' :: rest => rest.reverse
  | _ => cs

/-- Carry out the backspaces on a sequence of clusters: each removes the cluster before it.
`kept` holds what is left so far, in reverse, and `sizes` the sizes of its clusters, last one first.
The size of a cluster is kept in one byte. -/
def rubOut (kept : List UInt8) (sizes : List UInt8) : List (List Char) → List UInt8
  | [] => kept.reverse
  | g :: rest =>
    if g = ['\x08'] then
      match sizes with
      | [] => rubOut kept [] rest
      | n :: sizes => rubOut (kept.drop n.toNat) sizes rest
    else
      let b := encode g
      rubOut (b.reverse ++ kept) (UInt8.ofNat b.length :: sizes) rest

/-- A text with its backspaces carried out. -/
def withoutBackspaces (cs : List Char) : List Char :=
  if '\x08' ∈ cs then (Bytes.decode? (rubOut [] [] (Text.clusters cs))).getD [] else cs

/-- The line that is entered by a line of input. -/
def enteredLine (cs : List Char) : List Char :=
  withoutBackspaces (withoutLineEnd cs)

/-- Where prompts can be printed. -/
inductive Screen where
  /-- Nowhere. -/
  | absent
  /-- On standard output. -/
  | ready
  /-- On standard output, which fails. -/
  | broken (cause : Fault)
  deriving DecidableEq, Repr

/-- A line editor whose input is not from a terminal. -/
structure PlainEditor where
  /-- The input. -/
  supply : Supply
  /-- Where the prompt is printed before each line. -/
  screen : Screen := .absent
  deriving DecidableEq, Repr

namespace PlainEditor

/-- The result of reading a line of input. -/
def ofRead : ReadResult → EditorResult
  | .line b =>
    match Bytes.decode? b with
    | some cs => .line (enteredLine cs)
    | none => .failed .illFormedInput
  | .endOfInput => .endOfInput
  | .failed cause => .failed cause

/-- Read a line. -/
def compose (prompt : Bytes) (e : PlainEditor) : Act EditorResult PlainEditor :=
  match e.screen with
  | .broken cause => ⟨.failed cause, [], e⟩
  | .ready =>
    ⟨ofRead e.supply.readLine.1, [.printed .out prompt], { e with supply := e.supply.readLine.2 }⟩
  | .absent => ⟨ofRead e.supply.readLine.1, [], { e with supply := e.supply.readLine.2 }⟩

/-- An editor without a terminal enters a line only if there was one in its input. -/
theorem line_of_isLine {prompt : Bytes} {e : PlainEditor}
    (h : (compose prompt e).result.isLine) : ∃ b, e.supply.readLine.1 = .line b := by
  have hr : (ofRead e.supply.readLine.1).isLine := by
    unfold compose at h
    split at h
    · cases h
    all_goals exact h
  cases hb : e.supply.readLine.1 with
  | line b => exact ⟨b, rfl⟩
  | endOfInput => rw [hb] at hr; cases hr
  | failed f => rw [hb] at hr; cases hr

instance : LineEditor PlainEditor where
  compose := compose
  remember _ e := e
  ofComposing_compose prompt e := by
    unfold compose
    split <;> simp [Entry.ofComposing]
  remaining e := e.supply.size
  remaining_lt prompt e h := by
    obtain ⟨b, hb⟩ := line_of_isLine h
    unfold compose at h ⊢
    split at h
    · cases h
    all_goals exact Supply.size_readLine_lt hb
  remaining_remember _ _ := Nat.le_refl _

end PlainEditor

end LineShell.Editor
