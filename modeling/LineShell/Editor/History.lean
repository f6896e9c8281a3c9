/-!
# The history of lines

The lines that were entered before, up to a limited number; the oldest make room for new ones. A
line equal to the one before it is not entered again, and neither is an empty one.
-/

namespace LineShell.Editor

/-- The lines entered before, oldest first. -/
structure History where
  lines : Array (List Char) := #[]
  deriving DecidableEq, Repr

namespace History

/-- How many lines are kept. -/
def capacity : Nat := 100

/-- Enter a line. -/
def enter (cs : List Char) (h : History) : History :=
  if cs.isEmpty ∨ h.lines.back? = some cs then h
  else if h.lines.size = capacity then ⟨(h.lines.extract 1 h.lines.size).push cs⟩
  else ⟨h.lines.push cs⟩

/-- Where a text first occurs in another one. -/
def occursAt? (needle : List Char) : List Char → Option Nat
  | [] => if needle.isEmpty then some 0 else none
  | c :: rest =>
    if needle.isPrefixOf (c :: rest) then some 0 else (occursAt? needle rest).map (· + 1)

/-- A line that holds a text: its place in the history, the line, and where the text is in it. -/
structure Found where
  place : Nat
  line : List Char
  offset : Nat

/-- Look for a text in the line at a place. -/
def look (needle : List Char) (h : History) (place : Nat) : Option Found :=
  (h.lines[place]?).bind fun cs => (occursAt? needle cs).map fun n => ⟨place, cs, n⟩

/-- Search the history from a place on for a line that holds a text, towards older lines or towards
newer ones. An empty text is never found. -/
def search (needle : List Char) (place : Nat) (older : Bool) (h : History) : Option Found :=
  if needle.isEmpty ∨ h.lines.size ≤ place then none
  else if older then (List.range (place + 1)).reverse.findSome? (h.look needle)
  else (List.range' place (h.lines.size - place)).findSome? (h.look needle)

/-- The history never holds more lines than it may. -/
theorem size_enter_le (cs : List Char) (h : History) (hh : h.lines.size ≤ capacity) :
    (h.enter cs).lines.size ≤ capacity := by
  unfold enter
  split
  · exact hh
  · split
    · next hs => simp [hs, capacity]
    · next hs => simp only [Array.size_push]; omega

end History

end LineShell.Editor
