import LineShell.Editor.Changes
import LineShell.Editor.Command
import LineShell.Editor.History
import LineShell.Editor.KillRing

/-!
# Drafts

A draft is a line on its way to being entered: the text with its cursor, the changes made to it,
and what the user has at hand, which is the ring of cut texts and the history. Every change of the
text goes through three operations that also note it: inserting at the cursor, and deleting before
or after it.
-/

namespace LineShell.Editor

/-- The letters of a word after a change of case. For a capital its whole first cluster counts. -/
def CaseChange.apply (cs : List Char) : CaseChange → List Char
  | upper => Text.upper cs
  | lower => Text.lower cs
  | capital =>
    let first := (Text.clusters cs).headD []
    Text.upper first ++ Text.lower (cs.drop first.length)

/-- A line that is being edited. -/
structure Draft where
  /-- The text and the cursor. -/
  line : Line := {}
  /-- The changes made so far. -/
  changes : Changes := {}
  /-- The cut texts. -/
  ring : KillRing
  /-- The lines entered before. -/
  history : History
  /-- The place in the history; behind its end stands the line that is being written. -/
  place : Nat
  /-- The line that was left for one of the history. -/
  left : Line := {}
  deriving DecidableEq, Repr

namespace Draft

/-- A new draft. -/
def start (ring : KillRing) (history : History) : Draft :=
  { ring := ring.rest, history := history, place := history.lines.size }

/-! ## Changing the text -/

/-- Insert a text before the cursor. -/
def insert (cs : List Char) (d : Draft) : Draft :=
  { d with
    line := ⟨d.line.before ++ cs, d.line.after⟩
    changes := d.changes.inserted d.line.place cs }

/-- Insert a single character, which may join the last insertion. -/
def type (c : Char) (d : Draft) : Draft :=
  { d with
    line := ⟨d.line.before ++ [c], d.line.after⟩
    changes := d.changes.typed d.line.place c }

/-- Delete `n` characters after the cursor. -/
def deleteAhead (n : Nat) (d : Draft) : Draft :=
  { d with
    line := ⟨d.line.before, d.line.after.drop n⟩
    changes := d.changes.deleted d.line.place (d.line.after.take n) }

/-- Delete `n` characters before the cursor. -/
def deleteBack (n : Nat) (d : Draft) : Draft :=
  let l := d.line.back n
  ({ d with line := l }).deleteAhead (d.line.place - l.place)

/-- Replace the whole text, leaving the cursor behind `n` characters. -/
def replace (cs : List Char) (n : Nat) (d : Draft) : Draft :=
  let d' := (({ d with line := d.line.goTo 0 }).deleteAhead d.line.text.length).insert cs
  { d' with line := d'.line.goTo n }

/-- Make changes as a group. -/
def group (f : Draft → Draft) (d : Draft) : Draft :=
  let d' := f { d with changes := d.changes.startGroup }
  { d' with changes := d'.changes.endGroups }

/-! ## Moving and cutting -/

/-- Move the cursor. -/
def move (m : Motion) (d : Draft) : Draft :=
  let n := d.line.distance m
  { d with line := if m.isBack then d.line.back n else d.line.ahead n }

/-- The motion over what is cut: at the end of a row that is the line feed there, and at its start
the one before it. -/
def cutMotion (d : Draft) (m : Motion) : Motion :=
  match m, d.line.distance m with
  | .rowEnd, 0 => .charsAhead 1
  | .rowStart, 0 => .charsBack 1
  | m, _ => m

/-- Delete what a motion passes over. Text deleted by words or rows goes to the ring. -/
def cut (m : Motion) (d : Draft) : Draft :=
  let n := d.line.distance (d.cutMotion m)
  if n = 0 then d
  else
    let gone :=
      if m.isBack then d.line.before.drop (d.line.before.length - n) else d.line.after.take n
    let d' := if m.isBack then d.deleteBack n else d.deleteAhead n
    match m with
    | .charsBack _ | .charsAhead _ => d'
    | _ => { d' with ring := d'.ring.keep gone m.isBack }

/-- Insert the current text of the ring `n` times. -/
def yank (n : Nat) (d : Draft) : Draft :=
  match d.ring.take with
  | none => d
  | some (cs, ring) => ({ d with ring := ring }).insert (List.replicate n cs).flatten

/-- Replace the text just inserted by what was cut before it. -/
def yankEarlier (d : Draft) : Draft :=
  match d.ring.takeEarlier with
  | none => d
  | some (n, cs, ring) => ({ d with ring := ring }).group fun d => (d.deleteBack n).insert cs

/-! ## Words and characters -/

/-- Exchange the clusters before and after the cursor, or the last two if it stands at the end. -/
def swapChars (d : Draft) : Draft :=
  d.group fun d =>
    if d.line.before.isEmpty ∨ (Text.clusters d.line.text).length < 2 then d
    else
      let d := if d.line.after.isEmpty then d.move (.charsBack 1) else d
      let cs := d.line.after.take (d.line.distance (.charsAhead 1))
      (((d.deleteAhead cs.length).move (.charsBack 1)).insert cs).move (.charsAhead 1)

/-- Exchange the word at the cursor and the one before it. Where there are no two words the cursor
has moved all the same. -/
def swapWords (n : Nat) (d : Draft) : Draft :=
  d.group fun d =>
    let d₁ := d.move (.wordsAhead .alphanumeric n)
    let end₂ := d₁.line.place
    let d₂ := d₁.move (.wordsBack .alphanumeric 1)
    let start₂ := d₂.line.place
    let d₃ := d₂.move (.wordsBack .alphanumeric n)
    let start₁ := d₃.line.place
    let d₄ := d₃.move (.wordsAhead .alphanumeric 1)
    let end₁ := d₄.line.place
    if start₁ = start₂ ∨ start₂ < end₁ then d₄
    else
      let word₁ := (d.line.text.take end₁).drop start₁
      let word₂ := (d.line.text.take end₂).drop start₂
      let goTo (n : Nat) (d : Draft) : Draft := { d with line := d.line.goTo n }
      let d₅ := ((goTo start₂ d₄).deleteAhead word₂.length).insert word₁
      let d₆ := ((goTo start₁ d₅).deleteAhead word₁.length).insert word₂
      goTo end₂ d₆

/-- Change the letters of the next word and move behind it. -/
def changeCase (k : CaseChange) (d : Draft) : Draft :=
  d.group fun d =>
    let skipped := Line.extent (d.line.clustersAhead.takeWhile fun g => !g.all Text.isAlphanumeric)
    if d.line.after.length ≤ skipped then d
    else
      let d := { d with line := d.line.ahead skipped }
      let word := d.line.after.take (d.line.distance (.wordsAhead .alphanumeric 1))
      (d.deleteAhead word.length).insert (k.apply word)

/-! ## History -/

/-- Go to the line at a place of the history, or back to the line that was left for it. -/
def visit (place : Nat) (d : Draft) : Draft :=
  match d.history.lines[place]? with
  | some cs => ({ d with place := place }).group (·.replace cs cs.length)
  | none => { d with place := d.history.lines.size }.replace d.left.text d.left.place

/-- Put the line aside if it is the one that is being written. -/
def leave (d : Draft) : Draft :=
  if d.place = d.history.lines.size then { d with left := d.line } else d

/-- Go to an older line. -/
def visitOlder (place : Nat) (d : Draft) : Draft :=
  if d.place = 0 then d else d.leave.visit place

/-- Go to a newer line. -/
def visitNewer (place : Nat) (d : Draft) : Draft :=
  if d.place = d.history.lines.size then d else d.visit place

/-- Where the cursor is in the row above, which is as far from its start as in this row. The first
row starts behind the prompt, of `width` columns. -/
def above? (width : Nat) (l : Line) : Option Nat :=
  let row := l.before.reverse.takeWhile (· ≠ '\n')
  match l.before.reverse.drop row.length with
  | [] => none
  | _ :: earlier =>
    let target := (earlier.takeWhile (· ≠ '\n')).reverse
    let start := earlier.length - target.length
    let column := (Text.clusters row.reverse).length - (if start = 0 then width else 0)
    some (start + Line.extent ((Text.clusters target).take column))

/-- Where the cursor is in the row below. -/
def below? (width : Nat) (l : Line) : Option Nat :=
  let row := (l.before.reverse.takeWhile (· ≠ '\n')).reverse
  let head := l.after.takeWhile (· ≠ '\n')
  match l.after.drop head.length with
  | [] => none
  | _ :: later =>
    let column :=
      (Text.clusters row).length + (if row.length = l.before.length then width else 0)
    some (l.place + head.length + 1
      + Line.extent ((Text.clusters (later.takeWhile (· ≠ '\n'))).take column))

/-- Go to the row above, or to the previous line of the history. -/
def rowUp (width : Nat) (d : Draft) : Draft :=
  match above? width d.line with
  | some n => { d with line := d.line.goTo n }
  | none => d.visitOlder (d.place - 1)

/-- Go to the row below, or to the next line of the history. -/
def rowDown (width : Nat) (d : Draft) : Draft :=
  match below? width d.line with
  | some n => { d with line := d.line.goTo n }
  | none => d.visitNewer (d.place + 1)

/-! ## Carrying out commands -/

/-- Undo `n` changes. -/
def undo (n : Nat) (d : Draft) : Draft :=
  let (changes, line) := d.changes.undo n d.line
  { d with changes := changes, line := line }

/-- Insert a character `n` times. -/
def typeTimes (n : Nat) (c : Char) (d : Draft) : Draft :=
  if n = 1 then d.type c else d.insert (List.replicate n c)

/-- Carry out a command on a draft, with a prompt of `width` columns. Commands that end a read or
that only concern the screen leave the draft as it is. -/
def carryOut (width : Nat) (c : Command) (d : Draft) : Draft :=
  match c with
  | .type n c => d.typeTimes n c
  | .quote c => d.type c
  | .paste cs => d.insert cs
  | .move m => d.move m
  | .cut m => d.cut m
  | .yank n => d.yank n
  | .yankEarlier => d.yankEarlier
  | .swapChars => d.swapChars
  | .swapWords n => d.swapWords n
  | .changeCase k => d.changeCase k
  | .rowUp => d.rowUp width
  | .rowDown => d.rowDown width
  | .previousLine => d.visitOlder (d.place - 1)
  | .nextLine => d.visitNewer (d.place + 1)
  | .firstLine => d.visitOlder 0
  | .lastLine => d.visitNewer d.history.lines.size
  | .undo n => d.undo n
  | .searchOlder | .searchNewer | .accept | .interrupt | .endInput | .abort | .clearScreen
  | .suspend | .ignore | .unbound => d

end Draft

end LineShell.Editor
