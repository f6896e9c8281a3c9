import LineShell.Text.Blank
import LineShell.Text.Cluster
import LineShell.Text.Letters

/-!
# A line and its cursor

The text that is being edited, cut in two at the cursor. All movements are by grapheme clusters or
by words, so the cursor never stands inside what a user sees as one character; a movement is given
by how many characters it passes over.
-/

namespace LineShell.Editor

/-- A text with a cursor in it. -/
structure Line where
  /-- The text before the cursor. -/
  before : List Char := []
  /-- The text after the cursor. -/
  after : List Char := []
  deriving DecidableEq, Repr

/-- What counts as a word. -/
inductive WordKind where
  /-- Letters and digits. -/
  | alphanumeric
  /-- Everything between blanks. -/
  | solid
  deriving DecidableEq, Repr

/-- Whether a cluster belongs to a word. -/
def WordKind.holds : WordKind → List Char → Bool
  | alphanumeric, g => g.all Text.isAlphanumeric
  | solid, g => !g.any Text.isBlank

/-- A way to move the cursor. -/
inductive Motion where
  /-- Back over so many clusters. -/
  | charsBack (n : Nat)
  /-- Ahead over so many clusters. -/
  | charsAhead (n : Nat)
  /-- Back to the start of a word. -/
  | wordsBack (kind : WordKind) (n : Nat)
  /-- Ahead to the end of a word. -/
  | wordsAhead (kind : WordKind) (n : Nat)
  /-- To the start of the row. -/
  | rowStart
  /-- To the end of the row. -/
  | rowEnd
  /-- Back to a character. -/
  | findBack (n : Nat) (c : Char)
  /-- Ahead to the place before a character. -/
  | findAhead (n : Nat) (c : Char)
  deriving DecidableEq, Repr

/-- Whether a motion goes back. -/
def Motion.isBack : Motion → Bool
  | charsBack _ | wordsBack .. | rowStart | findBack .. => true
  | charsAhead _ | wordsAhead .. | rowEnd | findAhead .. => false

namespace Line

/-- The whole text. -/
def text (l : Line) : List Char :=
  l.before ++ l.after

/-- How many characters stand before the cursor. -/
def place (l : Line) : Nat :=
  l.before.length

/-- Whether there is no text. -/
def isEmpty (l : Line) : Bool :=
  l.before.isEmpty && l.after.isEmpty

/-- The text with the cursor behind its first `n` characters. -/
def cutAt (cs : List Char) (n : Nat) : Line :=
  ⟨cs.take n, cs.drop n⟩

/-- A text with the cursor at its end. -/
def ended (cs : List Char) : Line :=
  ⟨cs, []⟩

/-- The line with its cursor moved back over `n` characters. -/
def back (n : Nat) (l : Line) : Line :=
  ⟨l.before.take (l.before.length - n), l.before.drop (l.before.length - n) ++ l.after⟩

/-- The line with its cursor moved ahead over `n` characters. -/
def ahead (n : Nat) (l : Line) : Line :=
  ⟨l.before ++ l.after.take n, l.after.drop n⟩

/-- The line with its cursor behind the first `n` characters. -/
def goTo (n : Nat) (l : Line) : Line :=
  cutAt l.text n

/-- The cursor moves through the text without changing it. -/
@[simp] theorem text_back (n : Nat) (l : Line) : (l.back n).text = l.text := by
  simp [back, text, ← List.append_assoc]

@[simp] theorem text_ahead (n : Nat) (l : Line) : (l.ahead n).text = l.text := by
  simp [ahead, text, List.append_assoc]

@[simp] theorem text_goTo (n : Nat) (l : Line) : (l.goTo n).text = l.text := by
  simp [goTo, cutAt, text]

/-! ## Distances -/

/-- How many characters a sequence of clusters has. -/
def extent (gs : List (List Char)) : Nat :=
  gs.flatten.length

/-- The clusters before the cursor, nearest first. -/
def clustersBack (l : Line) : List (List Char) :=
  (Text.clusters l.before).reverse

/-- The clusters after the cursor. -/
def clustersAhead (l : Line) : List (List Char) :=
  Text.clusters l.after

/-- What is left of a sequence of clusters behind the first one that is in a word while the next
one is not. -/
def afterWord (kind : WordKind) : List (List Char) → List (List Char)
  | x :: y :: rest =>
    if kind.holds x && !kind.holds y then y :: rest else afterWord kind (y :: rest)
  | _ => []

/-- What is left behind `n` words. -/
def afterWords (kind : WordKind) : Nat → List (List Char) → List (List Char)
  | 0, gs => gs
  | n + 1, gs => afterWords kind n (afterWord kind gs)

/-- How many characters from the start of a text its `n`-th occurrence of `c` is away, or its last
one if there are fewer. -/
def occurrence? (n : Nat) (c : Char) (cs : List Char) : Option Nat :=
  (((List.range cs.length).zip cs).filter fun (_, d) => d == c).take n
    |>.getLast?.map Prod.fst

/-- How many characters a motion passes over. -/
def distance (l : Line) : Motion → Nat
  | .charsBack n => extent (l.clustersBack.take n)
  | .charsAhead n => extent (l.clustersAhead.take n)
  | .wordsBack kind n => l.before.length - extent (afterWords kind n l.clustersBack)
  | .wordsAhead kind n => l.after.length - extent (afterWords kind n l.clustersAhead)
  | .rowStart => (l.before.reverse.takeWhile (· ≠ '\n')).length
  | .rowEnd => (l.after.takeWhile (· ≠ '\n')).length
  | .findBack n c => ((occurrence? n c l.before.reverse).map (· + 1)).getD 0
  | .findAhead n c =>
    let passed := extent (l.clustersAhead.take 1)
    ((occurrence? n c (l.after.drop passed)).map (passed + · - 1)).getD 0

end Line

end LineShell.Editor
