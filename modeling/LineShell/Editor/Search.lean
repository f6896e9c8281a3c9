import LineShell.Editor.Draft

/-!
# Searching the history

During a search every typed character lengthens the text that is looked for, and the draft shows
the line in which it was last found. Any other command ends the search and is carried out on that
line, except those that correct, repeat or abort the search.
-/

namespace LineShell.Editor

/-- A search that is going on. -/
structure Search where
  /-- The draft, with the line found last. -/
  draft : Draft
  /-- The text that is looked for. -/
  needle : List Char := []
  /-- The place in the history where the search goes on. -/
  place : Nat
  /-- Whether it goes towards older lines. -/
  older : Bool := true
  deriving DecidableEq, Repr

namespace Search

/-- Begin a search. -/
def begin (d : Draft) : Search where
  draft := { d with changes := d.changes.startGroup }
  place := d.history.lines.size - 1

/-- Look for the text from the present place on. -/
def look (s : Search) : Search :=
  match s.draft.history.search s.needle s.place s.older with
  | some f => { s with place := f.place, draft := s.draft.replace f.line f.offset }
  | none => s

/-- Go on with the search, if the command does not end it. -/
def next? (s : Search) (c : Command) : Option Search :=
  match c with
  | .type _ c => some { s with needle := s.needle ++ [c] }.look
  | .cut (.charsBack _) => some { s with needle := s.needle.dropLast }
  | .searchOlder =>
    let s := { s with older := true }
    some (if s.place = 0 then s else { s with place := s.place - 1 }.look)
  | .searchNewer =>
    let s := { s with older := false }
    some (if s.draft.history.lines.size ≤ s.place + 1 then s
      else { s with place := s.place + 1 }.look)
  | _ => none

/-- The draft when a search that began on the draft `before` is ended by the command. Aborting
brings back the line and forgets the changes since, but leaves their group open. -/
def finish (before : Draft) (s : Search) (c : Command) : Draft :=
  if c = .abort then
    { s.draft with
      line := before.line
      changes := (s.draft.changes.forgetSince before.changes.noted.length) }
  else { s.draft with changes := s.draft.changes.endGroups }

/-- Read commands until one ends the search: that command and the draft. -/
def readOn (before : Draft) (s : Search) : Reader (Command × Draft) := fun cs =>
  match cs with
  | [] => none
  | c :: cs' =>
    match Command.readFrom s.draft.line.isEmpty c cs' with
    | none => none
    | some (command, ⟨rest, h⟩) =>
      match s.next? command with
      | none => some ((command, finish before s command), ⟨rest, by simp; omega⟩)
      | some s' =>
        match readOn before s' rest with
        | none => none
        | some (r, ⟨rest', h'⟩) => some (r, ⟨rest', by simp; omega⟩)
termination_by cs => cs.length
decreasing_by simp; omega

end Search

end LineShell.Editor
