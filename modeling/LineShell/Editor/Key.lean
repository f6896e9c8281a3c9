import LineShell.Editor.Reader

/-!
# Keys

A terminal sends a key as one character, or as an escape character and a sequence after it. Every
terminal has sequences of its own; those of the common ones are known, and a sequence that is not
known is a key without effect.
-/

namespace LineShell.Editor

/-- The modifiers that are held down with a key. -/
structure Modifiers where
  control : Bool := false
  alt : Bool := false
  shift : Bool := false
  deriving DecidableEq, Repr

/-- No modifier. -/
def Modifiers.none : Modifiers := {}

/-- What is printed on a key. -/
inductive KeyCode where
  | char (c : Char)
  | backspace | enter | tab | backTab | escape | delete
  | up | down | left | right | home | endOfLine
  /-- A text is about to be pasted. -/
  | pasteStart
  /-- The pasted text is complete. -/
  | pasteEnd
  /-- A key that nothing is bound to. -/
  | other
  /-- A sequence that no known terminal sends. -/
  | unknownSequence
  deriving DecidableEq, Repr

/-- A key with the modifiers held down. -/
structure Key where
  code : KeyCode
  modifiers : Modifiers := {}
  deriving DecidableEq, Repr

namespace Key

/-- A key without modifiers. -/
def plain (code : KeyCode) : Key := { code := code }

/-- A key whose sequence is not known. -/
def unknown : Key := plain .unknownSequence

/-- Whether a character is a control character. -/
def isControl (c : Char) : Bool :=
  c.toNat < 0x20 || (0x7F ≤ c.toNat && c.toNat < 0xA0)

/-- The key that a character stands for, with modifiers held down besides. The control characters
below the space stand for the control key and a letter or sign. -/
def ofChar (c : Char) (m : Modifiers) : Key :=
  if !isControl c then ⟨.char c, { m with shift := false }⟩
  else if c = '\x08' ∨ c = '\x7f' then ⟨.backspace, m⟩
  else if c = '\t' then ⟨.tab, m⟩
  else if c = '\r' then ⟨.enter, m⟩
  else if c = '\x1b' then ⟨.escape, m⟩
  else if c = Char.ofNat 0x9B then ⟨.escape, { m with shift := true }⟩
  else if c.toNat < 0x20 then ⟨.char (Char.ofNat (c.toNat + 0x40)), { m with control := true }⟩
  else ⟨.other, m⟩

/-- The keys for moving, by the letter that ends their sequences. -/
def arrow? : Char → Option KeyCode
  | 'A' => some .up
  | 'B' => some .down
  | 'C' => some .right
  | 'D' => some .left
  | 'F' => some .endOfLine
  | 'H' => some .home
  | _ => none

/-- The modifiers by the digit that stands for them in a sequence. -/
def modifiers? : Char → Option Modifiers
  | '2' => some { shift := true }
  | '3' => some { alt := true }
  | '4' => some { alt := true, shift := true }
  | '5' => some { control := true }
  | '6' => some { control := true, shift := true }
  | '7' => some { control := true, alt := true }
  | '8' => some { control := true, alt := true, shift := true }
  | _ => none

/-- The key of a sequence that ends in a tilde after one digit. -/
def ofDigit : Char → Key
  | '1' | '7' => plain .home
  | '2' => plain .other
  | '3' => plain .delete
  | '4' | '8' => plain .endOfLine
  | '5' | '6' => plain .other
  | _ => unknown

/-- The key of a sequence that ends in a tilde after two digits: the function keys. -/
def ofDigits : Char → Char → Key
  | '1', d => if d ∈ ['1', '2', '3', '4', '5', '7', '8', '9'] then plain .other else unknown
  | '2', d => if d ∈ ['0', '1', '3', '4'] then plain .other else unknown
  | _, _ => unknown

/-- The key of a sequence that ends in a tilde after three digits. -/
def ofThreeDigits : Char → Char → Char → Key
  | '2', '0', '0' => plain .pasteStart
  | '2', '0', '1' => plain .pasteEnd
  | _, _, _ => unknown

/-- The key of a sequence with a digit for modifiers. -/
def modified (first modifier last : Char) : Key :=
  if first = '1' then
    match modifier, arrow? last with
    | '9', some code =>
      if last ∈ ['A', 'B', 'C', 'D'] then ⟨code, { alt := true }⟩ else unknown
    | _, some code => (modifiers? modifier).elim unknown fun m => ⟨code, m⟩
    | '5', none =>
      if last ∈ ['P', 'Q', 'S'] ∨ ('p' ≤ last ∧ last ≤ 'y') then plain .other else unknown
    | _, none => unknown
  else if last = '~' ∧ first ∈ ['2', '3', '5', '6'] ∧ (modifiers? modifier).isSome then
    plain .other
  else unknown

/-- The key of a sequence of a digit and one more character. -/
def ofPair : Char → Char → Key
  | '5', c =>
    if c ∈ ['A', 'B', 'C', 'D'] then (arrow? c).elim unknown fun code => ⟨code, { control := true }⟩
    else if c ∈ ['^', '@', '$'] then plain .other
    else unknown
  | d, c => if d ∈ ['2', '3', '6', '7', '8'] ∧ c ∈ ['^', '@', '$'] then plain .other else unknown

/-- Read the rest of a sequence whose first digit has been read. -/
def readNumbered (first : Char) : Reader Key := do
  let second ← Reader.char
  if second = '~' then return ofDigit first
  else if second.isDigit then
    let third ← Reader.char
    if third = '~' then return ofDigits first second
    else if third = ';' then
      let fourth ← Reader.char
      if fourth.isDigit then
        let fifth ← Reader.char
        if fifth.isDigit then
          let _ ← Reader.char
          return unknown
        else if fifth = '~' ∧ fourth = '5' then return ofDigits first second
        else return unknown
      else return unknown
    else if third.isDigit then
      let fourth ← Reader.char
      return if fourth = '~' then ofThreeDigits first second third else unknown
    else return unknown
  else if second = ';' then
    let third ← Reader.char
    if third.isDigit then
      let fourth ← Reader.char
      if fourth.isDigit then
        let _ ← Reader.char
        return unknown
      else return modified first third fourth
    else return unknown
  else return ofPair first second

/-- Read the rest of a sequence that began with an escape and a bracket. -/
def readBracketed : Reader Key := do
  let c ← Reader.char
  if c.isDigit then
    if c = '0' ∨ c = '9' then return unknown else readNumbered c
  else if c = '[' then
    let d ← Reader.char
    return if d ∈ ['A', 'B', 'C', 'D', 'E'] then plain .other else unknown
  else
    match arrow? c, c with
    | some code, _ => return plain code
    | none, 'Z' => return plain .backTab
    | none, 'a' => return ⟨.up, { shift := true }⟩
    | none, 'b' => return ⟨.down, { shift := true }⟩
    | none, 'c' => return ⟨.right, { shift := true }⟩
    | none, 'd' => return ⟨.left, { shift := true }⟩
    | none, _ => return unknown

/-- Read the rest of a sequence that began with an escape and a capital O. -/
def readKeypad : Reader Key := do
  let c ← Reader.char
  match arrow? c, c with
  | some code, _ => return plain code
  | none, 'M' => return plain .enter
  | none, 'a' => return ⟨.up, { control := true }⟩
  | none, 'b' => return ⟨.down, { control := true }⟩
  | none, 'c' => return ⟨.right, { control := true }⟩
  | none, 'd' => return ⟨.left, { control := true }⟩
  | none, c =>
    return if c ∈ ['P', 'Q', 'R', 'S', 'l', 't', 'u', 'v', 'w', 'x'] then plain .other else unknown

/-- The key that the character `c` after an escape begins, other than a second escape. -/
def readSequence (c : Char) : Reader Key :=
  if c = '[' then readBracketed
  else if c = 'O' then readKeypad
  else return ofChar c { alt := true }

/-- Read what follows an escape. A second escape adds the alt key to what follows it; an escape
with nothing after it is the key of that name. -/
def readEscaped : Reader Key := fun cs =>
  match cs with
  | ['\x1b'] => some (plain .escape, ⟨[], by simp⟩)
  | '\x1b' :: '\x1b' :: rest => some (⟨.escape, { alt := true }⟩, ⟨rest, by simp; omega⟩)
  | '\x1b' :: c :: rest =>
    (readSequence c rest).map fun (k, r) =>
      ({ k with modifiers := { k.modifiers with alt := true } }, ⟨r.1, by have := r.2; simp; omega⟩)
  | c :: rest => (readSequence c rest).map fun (k, r) => (k, ⟨r.1, by have := r.2; simp; omega⟩)
  | [] => none

/-- Read what follows an escape character; alone it is a key of its own. -/
def readAfterEscape : Reader Key
  | [] => Reader.pure (plain .escape) []
  | c :: cs => readEscaped (c :: cs)

/-- Read the key that begins with the character `c`. -/
def readFrom (c : Char) : Reader Key :=
  if c = '\x1b' then readAfterEscape else return ofChar c {}

/-- Read one key. -/
def read : Reader Key := do
  let c ← Reader.char
  readFrom c

end Key

end LineShell.Editor
