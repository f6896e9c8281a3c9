import LineShell.Bytes

/-!
# Words of a line

A line is cut at delimiter bytes: every maximal run of other bytes is one word. There is no
quoting and no escape, and a word is kept byte for byte. The first word names the command.
-/

namespace LineShell

/-- The bytes that separate words: space, tab, carriage return, line feed and bell. -/
def delimiters : List UInt8 := [32, 9, 13, 10, 7]

/-- Whether a byte separates words. -/
def isDelimiter (b : UInt8) : Bool :=
  delimiters.contains b

/-- The pieces of a line between its delimiters, empty ones included. -/
def linePieces (line : Bytes) : List Bytes :=
  line.splitOnP isDelimiter

/-- The words of a line. -/
def words (line : Bytes) : List Bytes :=
  (linePieces line).filter fun w => !w.isEmpty

end LineShell
