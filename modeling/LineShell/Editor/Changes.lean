import LineShell.Editor.Line

/-!
# Changes and undoing them

Every change to the text is noted, so that it can be taken back. Letters that are typed one after
another are one change, and so are letters that are deleted one after another; changes that one
command makes together are a group, and a group is taken back as a whole.
-/

namespace LineShell.Editor

/-- A noted change. Places count characters from the start of the text. -/
inductive Change where
  /-- A group starts. -/
  | groupStart
  /-- A group ends. -/
  | groupEnd
  /-- A text was inserted at a place. -/
  | inserted (place : Nat) (cs : List Char)
  /-- A text was deleted from a place. -/
  | deleted (place : Nat) (cs : List Char)
  deriving DecidableEq, Repr

/-- A line with a change taken back, the cursor where the change was. -/
def Change.takenBack (l : Line) : Change → Line
  | groupStart | groupEnd => l
  | inserted place cs => ⟨l.text.take place, l.text.drop (place + cs.length)⟩
  | deleted place cs => ⟨l.text.take place ++ cs, l.text.drop place⟩

/-- The changes of a line. -/
structure Changes where
  /-- The changes that can be taken back, last one first. -/
  noted : List Change := []
  /-- How many groups were started and not yet ended. -/
  openGroups : Nat := 0
  deriving DecidableEq, Repr

namespace Changes

/-- Note that a character was typed at a place. A letter or digit right behind an insertion joins
it. -/
def typed (place : Nat) (c : Char) (ch : Changes) : Changes :=
  match ch.noted with
  | .inserted i cs :: rest =>
    if Text.isAlphanumeric c ∧ i + cs.length = place then
      { ch with noted := .inserted i (cs ++ [c]) :: rest }
    else { ch with noted := .inserted place [c] :: ch.noted }
  | _ => { ch with noted := .inserted place [c] :: ch.noted }

/-- Note that a text was inserted at a place. -/
def inserted (place : Nat) (cs : List Char) (ch : Changes) : Changes :=
  if cs.isEmpty then ch else { ch with noted := .inserted place cs :: ch.noted }

/-- Whether a text is a single letter or digit with its marks. -/
def isSingleLetter (cs : List Char) : Bool :=
  match Text.clusters cs with
  | [g] => g.all Text.isAlphanumeric
  | _ => false

/-- Note that a text was deleted from a place. A single letter or digit next to the last deletion
joins it, on the side where it stood. -/
def deleted (place : Nat) (cs : List Char) (ch : Changes) : Changes :=
  if cs.isEmpty then ch
  else
    match ch.noted with
    | .deleted i ds :: rest =>
      if isSingleLetter cs ∧ i = place then { ch with noted := .deleted i (ds ++ cs) :: rest }
      else if isSingleLetter cs ∧ i = place + cs.length then
        { ch with noted := .deleted place (cs ++ ds) :: rest }
      else { ch with noted := .deleted place cs :: ch.noted }
    | _ => { ch with noted := .deleted place cs :: ch.noted }

/-- Start a group. -/
def startGroup (ch : Changes) : Changes :=
  ⟨.groupStart :: ch.noted, ch.openGroups + 1⟩

/-- End `n` groups: one that holds nothing leaves no trace. -/
def endGroupsOf : Nat → List Change → List Change
  | 0, noted => noted
  | n + 1, .groupStart :: rest => endGroupsOf n rest
  | n + 1, noted => endGroupsOf n (.groupEnd :: noted)

/-- End all open groups. -/
def endGroups (ch : Changes) : Changes :=
  ⟨endGroupsOf ch.openGroups ch.noted, 0⟩

/-- Forget the changes noted since there were only `n` of them. Groups started since then stay
open. -/
def forgetSince (n : Nat) (ch : Changes) : Changes :=
  { ch with noted := ch.noted.drop (ch.noted.length - n) }

/-- Take back changes, last one first, until `n` of them or of the groups they form are undone.
`unclosed` counts the groups that were entered and not yet left. -/
def undoFrom (n : Nat) (unclosed : Int) : List Change → Line → List Change × Line
  | [], l => ([], l)
  | c :: rest, l =>
    let unclosed := match c with
      | .groupStart => unclosed - 1
      | .groupEnd => unclosed + 1
      | _ => unclosed
    if unclosed ≤ 0 then
      if n ≤ 1 then (rest, c.takenBack l) else undoFrom (n - 1) unclosed rest (c.takenBack l)
    else undoFrom n unclosed rest (c.takenBack l)

/-- Undo the last `n` changes or groups of changes. -/
def undo (n : Nat) (ch : Changes) (l : Line) : Changes × Line :=
  let (noted, l') := undoFrom n 0 ch.noted l
  ({ ch with noted := noted }, l')

end Changes

end LineShell.Editor
