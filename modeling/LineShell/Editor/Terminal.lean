import LineShell.Editor.Search
import LineShell.Input.Editor
import LineShell.Text.Lossy

/-!
# Editing on a terminal

On a terminal every key is seen as it is typed, and the line is edited until it is entered. The
keys that a user types for one line are given as bytes; they are read as characters, and bytes that
are no character make the read fail. Keys typed behind the one that ends a read are dropped.
-/

namespace LineShell.Editor

/-- A terminal with a user in front of it. -/
structure Terminal where
  /-- What the user types for each read; after that the user ends the input. -/
  typed : List Bytes
  /-- The cut texts. -/
  ring : KillRing := {}
  /-- The lines entered before. -/
  history : History := {}
  /-- Why nothing can be shown on the screen, if nothing can. -/
  screenFault : Option Fault := none

/-- How many columns a text takes on the screen. -/
def width (b : Bytes) : Nat :=
  (Text.clusters ((Bytes.decode? b).getD [])).length

/-- Edit a draft by the characters typed. Characters that run out end the read as `atEnd` says. -/
def edit (width : Nat) (atEnd : EditorResult) (d : Draft) :
    List Char → EditorResult × Draft
  | [] => (atEnd, d)
  | c :: cs =>
    match Command.readFrom d.line.isEmpty c cs with
    | none => (atEnd, d)
    | some (command, ⟨rest, _⟩) =>
      let d := if command.keepsRing then d else { d with ring := d.ring.rest }
      match command with
      | .accept => (.line d.line.text, d)
      | .interrupt => (.interrupted, d)
      | .endInput => (.endOfInput, d)
      | .searchOlder =>
        if d.history.lines.isEmpty then edit width atEnd d rest
        else
          match (Search.begin d).readOn d rest with
          | none => (atEnd, d)
          | some ((last, d'), ⟨rest', _⟩) =>
            match last with
            | .accept => (.line d'.line.text, d')
            | .interrupt => (.interrupted, d')
            | .endInput => (.endOfInput, d')
            | last => edit width atEnd (d'.carryOut width last) rest'
      | command => edit width atEnd (d.carryOut width command) rest
termination_by cs => cs.length
decreasing_by all_goals (simp; omega)

/-- The characters that bytes hold up to the first that is none, and how a read ends if they do
not suffice. -/
def typedChars (b : Bytes) : List Char × EditorResult :=
  let ps := Text.pieces b
  let whole := ps.takeWhile Text.Piece.whole
  ((Bytes.decode? (whole.flatMap Text.Piece.bytes)).getD [],
    if whole.length = ps.length then .endOfInput else .failed .illFormedKey)

namespace Terminal

/-- Let the user type a line. -/
def compose (prompt : Bytes) (t : Terminal) : Act EditorResult Terminal :=
  match t.screenFault, t.typed with
  | some f, _ => ⟨.failed f, [], t⟩
  | none, [] => ⟨.endOfInput, [], { t with ring := t.ring.rest }⟩
  | none, b :: rest =>
    let (cs, atEnd) := typedChars b
    let (result, d) := edit (width prompt) atEnd (.start t.ring t.history) cs
    ⟨result, [], { t with typed := rest, ring := d.ring }⟩

instance : LineEditor Terminal where
  compose := compose
  remember cs t := { t with history := t.history.enter cs }
  ofComposing_compose prompt t := by
    unfold compose
    split <;> simp
  remaining t := t.typed.length
  remaining_lt prompt t h := by
    unfold compose at h ⊢
    split at h
    · cases h
    · cases h
    · next hs ht => simp [ht]
  remaining_remember _ _ := Nat.le_refl _

end Terminal

end LineShell.Editor
