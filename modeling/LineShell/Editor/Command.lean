import LineShell.Editor.Key
import LineShell.Editor.Line

/-!
# Editing commands

What a user can do to a line, and the keys bound to it. A number typed with the alt key held down
goes in front of a command and repeats it; a negative one turns its direction.
-/

namespace LineShell.Editor

/-- A change to the letters of a word. -/
inductive CaseChange where
  | upper | lower | capital
  deriving DecidableEq, Repr

/-- An editing command. -/
inductive Command where
  /-- Insert a character so many times. -/
  | type (n : Nat) (c : Char)
  /-- Insert a character, whatever it is bound to. -/
  | quote (c : Char)
  /-- Insert a pasted text. -/
  | paste (cs : List Char)
  /-- Move the cursor. -/
  | move (m : Motion)
  /-- Delete what a motion passes over. -/
  | cut (m : Motion)
  /-- Insert the text cut last, so many times. -/
  | yank (n : Nat)
  /-- Replace the text just inserted by what was cut before it. -/
  | yankEarlier
  /-- Exchange the characters around the cursor. -/
  | swapChars
  /-- Exchange the words around the cursor. -/
  | swapWords (n : Nat)
  /-- Change the letters of the next word. -/
  | changeCase (k : CaseChange)
  /-- Go to the row above, or to the previous line of the history. -/
  | rowUp
  /-- Go to the row below, or to the next line of the history. -/
  | rowDown
  | previousLine
  | nextLine
  | firstLine
  | lastLine
  /-- Search the history for older lines. -/
  | searchOlder
  /-- Search the history for newer lines. -/
  | searchNewer
  /-- Undo so many changes. -/
  | undo (n : Nat)
  /-- Enter the line. -/
  | accept
  /-- Drop the line. -/
  | interrupt
  /-- End the input. -/
  | endInput
  /-- Leave what has been begun. -/
  | abort
  /-- Clear the screen. -/
  | clearScreen
  /-- Stop the program until it is resumed. -/
  | suspend
  /-- A sequence that no terminal is known to send. -/
  | ignore
  /-- A key that nothing is bound to. -/
  | unbound
  deriving DecidableEq, Repr

namespace Command

/-- Whether text cut before and text cut after the command may share a slot, and an insertion
before it may be replaced after it. -/
def keepsRing : Command → Bool
  | cut (.charsBack _) | cut (.charsAhead _) => false
  | cut _ | yank _ | yankEarlier | clearScreen | suspend | ignore => true
  | _ => false

/-- A number in front of a command. -/
structure Count where
  /-- How often. -/
  times : Nat
  /-- Whether in the other direction. -/
  turned : Bool

/-- The count that a typed number means; none or zero is once. -/
def Count.ofInt (n : Int) : Count :=
  if n = 0 then ⟨1, false⟩ else ⟨n.natAbs, n < 0⟩

/-- The number `n` with a further digit. Directly after a minus sign the digit multiplies; four
digits are enough. -/
def withDigit (n : Int) (d : Char) : Int :=
  let d := d.toNat - '0'.toNat
  if n = -1 then n * d
  else if n.natAbs < 1000 then n * 10 + d
  else n

/-- Whether a key continues a number: a digit or a minus sign, with or without the alt key. -/
def digitOf? (k : Key) : Option Char :=
  match k with
  | ⟨.char c, m⟩ =>
    if (c.isDigit ∨ c = '-') ∧ (m = {} ∨ m = { alt := true }) then some c else none
  | _ => none

/-- Read the rest of a number that began with `n`, and the key after it. -/
def readNumber (n : Int) : Reader (Int × Key) := fun cs =>
  match cs with
  | [] => none
  | c :: cs' =>
    match Key.readFrom c cs' with
    | none => none
    | some (k, ⟨rest, h⟩) =>
      match digitOf? k with
      | none => some ((n, k), ⟨rest, by simp; omega⟩)
      | some d =>
        match readNumber (if d = '-' then n else withDigit n d) rest with
        | none => none
        | some (r, ⟨rest', h'⟩) => some (r, ⟨rest', by simp; omega⟩)
termination_by cs => cs.length
decreasing_by simp; omega

/-- Read pasted text up to the sequence that completes it. Other sequences are left out. -/
def readPasted (got : List Char) : Reader (List Char) := fun cs =>
  match cs with
  | [] => none
  | c :: cs' =>
    if c = '\x1b' then
      match Key.readEscaped cs' with
      | none => none
      | some (k, ⟨rest, h⟩) =>
        if k = Key.plain .pasteEnd then some (got.reverse, ⟨rest, by simp; omega⟩)
        else
          match readPasted got rest with
          | none => none
          | some (r, ⟨rest', h'⟩) => some (r, ⟨rest', by simp; omega⟩)
    else
      match readPasted (c :: got) cs' with
      | none => none
      | some (r, ⟨rest', h'⟩) => some (r, ⟨rest', by simp; omega⟩)
termination_by cs => cs.length
decreasing_by all_goals (simp; try omega)

/-- A text with every end of row written as a line feed. -/
def withLineFeeds : List Char → List Char
  | '\r' :: '\n' :: rest => '\n' :: withLineFeeds rest
  | '\r' :: rest => '\n' :: withLineFeeds rest
  | c :: rest => c :: withLineFeeds rest
  | [] => []

/-- Back or ahead over clusters. -/
def Count.chars (n : Count) (back : Bool) : Motion :=
  if back != n.turned then .charsBack n.times else .charsAhead n.times

/-- Back or ahead over words. -/
def Count.words (n : Count) (kind : WordKind) (back : Bool) : Motion :=
  if back != n.turned then .wordsBack kind n.times else .wordsAhead kind n.times

/-- To the start or the end of the row. -/
def Count.row (n : Count) (back : Bool) : Motion :=
  if back != n.turned then .rowStart else .rowEnd

/-- Read the key that completes a command begun with control and X. -/
def readExtended (n : Count) : Reader Command := do
  let k ← Key.read
  if k = ⟨.char 'G', { control := true }⟩ ∨ k = Key.plain .escape then return abort
  else if k = ⟨.char 'U', { control := true }⟩ then return undo n.times
  else if k = Key.plain .backspace then return cut (n.row true)
  else return unbound

/-- Read the character to move to. -/
def readTarget (n : Count) (back : Bool) : Reader Command := do
  match ← Key.read with
  | ⟨.char c, m⟩ =>
    if m = {} then
      return move (if back != n.turned then .findBack n.times c else .findAhead n.times c)
    else return unbound
  | _ => return unbound

/-- The command of a control key and a letter or sign. -/
def ofControl (n : Count) : Char → Reader Command
  | 'A' => return move .rowStart
  | 'B' => return move (n.chars true)
  | 'C' => return interrupt
  | '\\' => return interrupt
  | 'D' => return cut (n.chars false)
  | 'E' => return move .rowEnd
  | 'F' => return move (n.chars false)
  | 'G' => return abort
  | 'J' => return accept
  | 'K' => return cut (n.row false)
  | 'L' => return clearScreen
  | 'N' => return nextLine
  | 'P' => return previousLine
  | 'Q' | 'V' => do return quote (← Reader.char)
  | 'R' => return searchOlder
  | 'S' => return searchNewer
  | 'T' => return swapChars
  | 'U' => return cut (n.row true)
  | 'W' => return cut (n.words .solid true)
  | 'X' => readExtended n
  | 'Y' => return if n.turned then unbound else yank n.times
  | 'Z' => return suspend
  | ']' => readTarget n false
  | '_' => return undo n.times
  | _ => return unbound

/-- The command of the alt key and a character. -/
def ofAlt (n : Count) : Char → Command
  | '<' => firstLine
  | '>' => lastLine
  | 'B' | 'b' => move (n.words .alphanumeric true)
  | 'C' | 'c' => changeCase .capital
  | 'D' | 'd' => cut (n.words .alphanumeric false)
  | 'F' | 'f' => move (n.words .alphanumeric false)
  | 'L' | 'l' => changeCase .lower
  | 'T' | 't' => swapWords n.times
  | 'U' | 'u' => changeCase .upper
  | 'Y' | 'y' => yankEarlier
  | _ => unbound

/-- The command of a key without modifiers. -/
def ofPlain (n : Count) : KeyCode → Reader Command
  | .char c => return if n.turned then unbound else type n.times c
  | .backspace => return cut (n.chars true)
  | .delete => return cut (n.chars false)
  | .enter => return accept
  | .escape => return abort
  | .up => return rowUp
  | .down => return rowDown
  | .left => return move (n.chars true)
  | .right => return move (n.chars false)
  | .home => return move .rowStart
  | .endOfLine => return move .rowEnd
  | .pasteStart => do return paste (withLineFeeds (← readPasted []))
  | .unknownSequence => return ignore
  | .tab | .backTab | .pasteEnd | .other => return unbound

/-- The command of a key. On a line without text, control and D ends the input. -/
def ofKey (emptyLine : Bool) (n : Count) (k : Key) : Reader Command :=
  match k with
  | ⟨code, ⟨false, false, false⟩⟩ => ofPlain n code
  | ⟨.char c, ⟨true, false, false⟩⟩ =>
    if c = 'D' ∧ emptyLine then return endInput else ofControl n c
  | ⟨.char c, ⟨true, true, false⟩⟩ =>
    if c = 'G' then return abort else if c = ']' then readTarget n true else return unbound
  | ⟨.char c, ⟨false, true, false⟩⟩ => return ofAlt n c
  | ⟨.backspace, ⟨false, true, false⟩⟩ => return cut (n.words .alphanumeric true)
  | ⟨.left, ⟨false, true, false⟩⟩ | ⟨.left, ⟨true, false, false⟩⟩ =>
    return move (n.words .alphanumeric true)
  | ⟨.right, ⟨false, true, false⟩⟩ | ⟨.right, ⟨true, false, false⟩⟩ =>
    return move (n.words .alphanumeric false)
  | _ => return unbound

/-- Read the command that begins with the character `c`. -/
def readFrom (emptyLine : Bool) (c : Char) : Reader Command := do
  let first ← Key.readFrom c
  match first with
  | ⟨.char d, ⟨false, true, false⟩⟩ =>
    if d = '-' ∨ d.isDigit then
      let (n, k) ← readNumber (if d = '-' then -1 else d.toNat - '0'.toNat)
      ofKey emptyLine (.ofInt n) k
    else ofKey emptyLine (.ofInt 0) first
  | _ => ofKey emptyLine (.ofInt 0) first

end Command

end LineShell.Editor
