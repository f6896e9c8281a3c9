/-!
# Byte strings

Lines, words, paths and everything written are plain sequences of bytes: nothing in the shell
assumes an encoding. Fixed texts enter as the UTF-8 encoding of a string.
-/

namespace LineShell

/-- A byte string. -/
abbrev Bytes := List UInt8

/-- The UTF-8 encoding of a sequence of characters. -/
def encode (cs : List Char) : Bytes :=
  cs.flatMap String.utf8EncodeChar

/-- The UTF-8 encoding of a text. -/
def utf8 (s : String) : Bytes :=
  encode s.toList

@[simp] theorem encode_nil : encode [] = [] := rfl

@[simp] theorem encode_append (cs ds : List Char) : encode (cs ++ ds) = encode cs ++ encode ds := by
  simp [encode]

namespace Bytes

/-- The characters of a well-formed UTF-8 byte string, and nothing for any other. -/
def decode? (b : Bytes) : Option (List Char) :=
  (String.fromUTF8? ⟨b.toArray⟩).map String.toList

/-- Cut after the first byte that satisfies `p`: the piece up to and including that byte, and the
rest. Without such a byte the piece is everything. -/
def cutAfter (p : UInt8 → Bool) (b : Bytes) : Bytes × Bytes :=
  match b.dropWhile fun c => !p c with
  | c :: rest => (b.takeWhile (fun c => !p c) ++ [c], rest)
  | [] => (b, [])

/-- Cutting loses and reorders nothing. -/
theorem cutAfter_append (p : UInt8 → Bool) (b : Bytes) :
    (cutAfter p b).1 ++ (cutAfter p b).2 = b := by
  have h := List.takeWhile_append_dropWhile (p := fun c => !p c) (l := b)
  unfold cutAfter
  split
  · next c rest hd => rw [hd] at h; simpa using h
  · simp

/-- Whether a byte string holds another one at its front. -/
def startsWith (b front : Bytes) : Bool :=
  front.isPrefixOf b

/-- The pieces between the separating bytes, empty ones included. -/
def fields (sep : UInt8) (b : Bytes) : List Bytes :=
  b.splitOnP (· == sep)

/-- A byte, as a small letter if it is a capital ASCII letter. -/
def small (c : UInt8) : UInt8 :=
  if 65 ≤ c ∧ c ≤ 90 then c + 32 else c

/-- Whether two byte strings differ at most in the case of their ASCII letters. -/
def sameButCase (a b : Bytes) : Bool :=
  a.map small == b.map small

/-- No letter differs from itself. -/
@[simp] theorem sameButCase_self (a : Bytes) : a.sameButCase a = true := by
  simp [sameButCase]

end Bytes

end LineShell
