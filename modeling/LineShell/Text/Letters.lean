import LineShell.Text.CodePoints
import LineShell.Text.LetterData

/-!
# Letters and their cases

Which characters belong to words, and the full case mappings of a text: one character may become
several, and a sigma at the end of a word has a lower case of its own.
-/

namespace LineShell.Text

/-- Whether a character is alphabetic or numeric. -/
def isAlphanumeric (c : Char) : Bool :=
  if c.toNat < 0x80 then c.isAlphanum else inBounds alphanumerics c.toNat

/-- The image of a code point under runs of single mappings, if one of them holds it. -/
def shifted (runs : List (Nat × Nat × Nat × Int)) (n : Nat) : Option Nat :=
  (runs.find? fun (first, last, step, _) => first ≤ n && n ≤ last && (n - first) % step == 0).map
    fun (_, _, _, shift) => (n + shift).toNat

/-- The image of a character under single mappings and expansions. -/
def mapped (runs : List (Nat × Nat × Nat × Int)) (expansions : List (Nat × List Nat)) (c : Char) :
    List Char :=
  match expansions.lookup c.toNat with
  | some ns => ns.map Char.ofNat
  | none => ((shifted runs c.toNat).map Char.ofNat).elim [c] ([·])

/-- The upper case of a character. -/
def upperChar (c : Char) : List Char :=
  if c.toNat < 0x80 then [c.toUpper] else mapped upperRuns upperExpansions c

/-- The lower case of a character, wherever it stands. -/
def lowerChar (c : Char) : List Char :=
  if c.toNat < 0x80 then [c.toLower] else mapped lowerRuns lowerExpansions c

/-- The upper case of a text. -/
def upper (cs : List Char) : List Char :=
  cs.flatMap upperChar

/-- Whether a character has another case. -/
def isCased (c : Char) : Bool :=
  upperChar c != [c] || lowerChar c != [c]

/-- Whether a character does not separate the letters of a word: a mark or a sign such as an
apostrophe within it. -/
def isCaseIgnorable (c : Char) : Bool :=
  c == '\'' || c == '.' || c == ':' || c == '^' || c == (Char.ofNat 0x60) || c == Char.ofNat 0xB7
    || c == Char.ofNat 0xAD || c == Char.ofNat 0x2019 || c == Char.ofNat 0x2018
    || (0x300 ≤ c.toNat && c.toNat ≤ 0x36F) || (0x200B ≤ c.toNat && c.toNat ≤ 0x200F)

/-- Whether a cased letter stands first once ignorable characters are passed over. -/
def touchesCased (cs : List Char) : Bool :=
  match cs.dropWhile isCaseIgnorable with
  | c :: _ => isCased c
  | [] => false

/-- The lower case of a text whose characters `before`, in reverse, have been mapped already. -/
def lowerAfter (before : List Char) : List Char → List Char
  | [] => []
  | c :: rest =>
    (if c.toNat = 0x3A3 ∧ touchesCased before ∧ !touchesCased rest then [Char.ofNat 0x3C2]
      else lowerChar c) ++ lowerAfter (c :: before) rest

/-- The lower case of a text: a capital sigma that ends a word becomes the final form. -/
def lower (cs : List Char) : List Char :=
  lowerAfter [] cs

end LineShell.Text
