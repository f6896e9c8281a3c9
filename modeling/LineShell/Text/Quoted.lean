import LineShell.Text.CodePoints
import LineShell.Text.ClusterData
import LineShell.Text.PrintableData
import LineShell.Text.Lossy

/-!
# Quoted byte strings

The form in which the log shows a name: between double quotes, with an escape for every character
that has no printed form of its own and for every byte that is not part of a character. Two
different byte strings never look the same.
-/

namespace LineShell.Text

/-- The digits of a number in base 16, with lower-case letters. -/
def hexLower (n : Nat) : List Char :=
  Nat.toDigits 16 n

/-- A character inside quotes. -/
def quotedChar (c : Char) : List Char :=
  if c = '\x00' then ['\\', '0']
  else if c = '\t' then ['\\', 't']
  else if c = '\r' then ['\\', 'r']
  else if c = '\n' then ['\\', 'n']
  else if c = '"' ∨ c = '\'' ∨ c = '\\' then ['\\', c]
  else if 0x20 ≤ c.toNat ∧ c.toNat < 0x7F then [c]
  else if inBounds extenders c.toNat ∧ ¬(0x1F3FB ≤ c.toNat ∧ c.toNat ≤ 0x1F3FF)
      ∨ inBounds unprintables c.toNat then
    ['\\', 'u', '\x7b'] ++ hexLower c.toNat ++ ['\x7d']
  else [c]

/-- A byte outside all characters, inside quotes: two digits in base 16, with upper-case
letters. -/
def quotedByte (b : UInt8) : List Char :=
  ['\\', 'x'] ++ (if b < 16 then ['0'] else []) ++ (hexLower b.toNat).map Char.toUpper

/-- A piece of a byte string inside quotes. -/
def quotedPiece (p : Piece) : Bytes :=
  match p.whole, Bytes.decode? p.bytes with
  | true, some cs => encode (cs.flatMap quotedChar)
  | _, _ => encode (p.bytes.flatMap quotedByte)

/-- A byte string in quotes. -/
def quoted (b : Bytes) : Bytes :=
  utf8 "\"" ++ (pieces b).flatMap quotedPiece ++ utf8 "\""

end LineShell.Text
