import LineShell.Bytes

/-!
# Lossy decoding

A byte string is cut into pieces: each well-formed UTF-8 character is one piece, and where no
character can be read the longest run of bytes that could still have begun one is a broken piece
(a single byte when none could). Lossy decoding keeps the characters and writes one replacement
character for each broken piece.
-/

namespace LineShell.Text

/-- The ranges that the bytes after `lead` must lie in, if `lead` can start a character: the table
of well-formed UTF-8 sequences, which leaves out overlong forms, surrogates and what lies above
U+10FFFF. -/
def followers (lead : UInt8) : Option (List (UInt8 × UInt8)) :=
  if lead ≤ 0x7F then some []
  else if lead < 0xC2 then none
  else if lead ≤ 0xDF then some [(0x80, 0xBF)]
  else if lead = 0xE0 then some [(0xA0, 0xBF), (0x80, 0xBF)]
  else if lead = 0xED then some [(0x80, 0x9F), (0x80, 0xBF)]
  else if lead ≤ 0xEF then some [(0x80, 0xBF), (0x80, 0xBF)]
  else if lead = 0xF0 then some [(0x90, 0xBF), (0x80, 0xBF), (0x80, 0xBF)]
  else if lead ≤ 0xF3 then some [(0x80, 0xBF), (0x80, 0xBF), (0x80, 0xBF)]
  else if lead = 0xF4 then some [(0x80, 0x8F), (0x80, 0xBF), (0x80, 0xBF)]
  else none

/-- How many bytes at the front lie in the ranges, one byte for each range in turn. -/
def fitting : List (UInt8 × UInt8) → Bytes → Nat
  | (low, high) :: ranges, b :: rest =>
    if low ≤ b ∧ b ≤ high then fitting ranges rest + 1 else 0
  | _, _ => 0

/-- A piece of a byte string. -/
structure Piece where
  /-- The bytes of the piece. -/
  bytes : Bytes
  /-- Whether they are one well-formed character. -/
  whole : Bool
  deriving DecidableEq, Repr

/-- The piece that starts with `lead`, and what follows it. -/
def cutPiece (lead : UInt8) (rest : Bytes) : Piece × Bytes :=
  match followers lead with
  | none => (⟨[lead], false⟩, rest)
  | some ranges =>
    (⟨lead :: rest.take (fitting ranges rest), fitting ranges rest == ranges.length⟩,
      rest.drop (fitting ranges rest))

/-- What follows a piece is no longer than what followed its first byte. -/
theorem cutPiece_length_le (lead : UInt8) (rest : Bytes) :
    (cutPiece lead rest).2.length ≤ rest.length := by
  unfold cutPiece
  split
  · exact Nat.le_refl _
  · simp

/-- The pieces of a byte string in front of those already found, which stand in reverse. -/
def piecesOnto (found : List Piece) : Bytes → List Piece
  | [] => found.reverse
  | lead :: rest => piecesOnto ((cutPiece lead rest).1 :: found) (cutPiece lead rest).2
termination_by b => b.length
decreasing_by exact Nat.lt_succ_of_le (cutPiece_length_le lead rest)

/-- The pieces of a byte string, in order. -/
def pieces (b : Bytes) : List Piece :=
  piecesOnto [] b

theorem piecesOnto_eq (found : List Piece) (b : Bytes) :
    piecesOnto found b = found.reverse ++ pieces b := by
  induction h : b.length using Nat.strongRecOn generalizing found b with
  | _ n ih =>
    cases b with
    | nil => simp [pieces, piecesOnto]
    | cons lead rest =>
      have hlt : (cutPiece lead rest).2.length < n := by
        have := cutPiece_length_le lead rest
        simp at h
        omega
      rw [pieces, piecesOnto, piecesOnto, ih _ hlt _ _ rfl, ih _ hlt [_] _ rfl]
      simp

@[simp] theorem pieces_nil : pieces [] = [] := by
  simp [pieces, piecesOnto]

/-- The first piece starts with the first byte, and the others are those of the rest. -/
theorem pieces_cons (lead : UInt8) (rest : Bytes) :
    pieces (lead :: rest) = (cutPiece lead rest).1 :: pieces (cutPiece lead rest).2 := by
  rw [pieces, piecesOnto, piecesOnto_eq]
  simp

/-- The encoding of the replacement character U+FFFD. -/
def replacement : Bytes := [0xEF, 0xBF, 0xBD]

/-- The text of a byte string, with one replacement character for each broken piece. -/
def lossy (b : Bytes) : Bytes :=
  (pieces b).flatMap fun p => if p.whole then p.bytes else replacement

/-- The parts in which pieces are shown, when the bytes `run` of whole characters stand before them,
last byte first: the characters up to a broken piece are one part, and its replacement is one. -/
def partsOnto (run : Bytes) : List Piece → List Bytes
  | [] => [run.reverse]
  | p :: rest =>
    if p.whole then partsOnto (p.bytes.reverseAux run) rest
    else run.reverse :: replacement :: partsOnto [] rest

/-- The parts in which a byte string is shown. -/
def shownParts (b : Bytes) : List Bytes :=
  partsOnto [] (pieces b)

theorem flatten_partsOnto (run : Bytes) (ps : List Piece) :
    (partsOnto run ps).flatten
      = run.reverse ++ ps.flatMap fun p => if p.whole then p.bytes else replacement := by
  induction ps generalizing run with
  | nil => simp [partsOnto]
  | cons p rest ih => cases hp : p.whole <;> simp [partsOnto, hp, ih]

/-- What is shown part by part is what is decoded at once. -/
theorem flatten_shownParts (b : Bytes) : (shownParts b).flatten = lossy b :=
  flatten_partsOnto [] (pieces b)

/-- Whether a byte string is well-formed UTF-8. -/
def isWellFormed (b : Bytes) : Bool :=
  (pieces b).all Piece.whole

end LineShell.Text
