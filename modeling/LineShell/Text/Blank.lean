/-!
# Blank characters

White space in the sense of the Unicode property, and texts made of nothing else.
-/

namespace LineShell.Text

/-- Whether a character is white space. -/
def isBlank (c : Char) : Bool :=
  let n := c.toNat
  (9 ≤ n && n ≤ 13) || n == 0x20 || n == 0x85 || n == 0xA0 || n == 0x1680
    || (0x2000 ≤ n && n ≤ 0x200A) || n == 0x2028 || n == 0x2029 || n == 0x202F || n == 0x205F
    || n == 0x3000

/-- Whether nothing is left of a text once blanks are trimmed from its ends. -/
def isBlankText (cs : List Char) : Bool :=
  cs.all isBlank

/-- A text without the blanks at its ends. -/
def trim (cs : List Char) : List Char :=
  ((cs.dropWhile isBlank).reverse.dropWhile isBlank).reverse

end LineShell.Text
