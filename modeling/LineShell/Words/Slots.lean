import LineShell.Words

/-!
# Collecting words into slots

The words of a line are collected into a block of slots that is reserved before it is used: 64
slots at first, and whenever all are taken as many again. `tokenize` cuts a line this way, and
gives the words of the line (`tokenize_eq_words`). Memory may refuse a reservation, and then there
are no words: `cut` is `tokenize` on such a memory (`cut_eq`).
-/

namespace LineShell

/-- Why a line could not be cut. -/
inductive TokenizeError where
  /-- So many slots are more than memory can ever hold. -/
  | capacityOverflow
  /-- There is no memory left for the slots. -/
  | outOfMemory
  deriving DecidableEq, Repr

/-- What memory answers while a line is cut: why the `n`-th reservation is refused, if it is. -/
abbrev Memory := Nat → Option TokenizeError

/-- Memory that refuses nothing. -/
def Memory.ample : Memory := fun _ => none

/-- Words collected so far and the slots reserved for them. -/
structure Slots where
  /-- The words, in order. -/
  taken : Array Bytes
  /-- How many slots are reserved. -/
  capacity : Nat
  /-- How many times slots were added to the first reservation. -/
  growths : Nat

namespace Slots

/-- The number of slots reserved at the start. -/
def initialCapacity : Nat := 64

/-- No words yet. -/
def empty : Slots := ⟨#[], initialCapacity, 0⟩

/-- Reserve as many slots again if all are taken. -/
def ensureRoom (s : Slots) : Slots :=
  if s.taken.size = s.capacity then
    { s with capacity := s.taken.size + s.capacity, growths := s.growths + 1 }
  else s

/-- Put a word into the next slot. -/
def push (s : Slots) (w : Bytes) : Slots :=
  { s with taken := s.taken.push w }

/-- Take in one piece of a line: empty pieces are passed over. -/
def collect (s : Slots) (piece : Bytes) : Slots :=
  if piece.isEmpty then s else s.ensureRoom.push piece

@[simp] theorem taken_ensureRoom (s : Slots) : s.ensureRoom.taken = s.taken := by
  unfold ensureRoom
  split <;> rfl

/-- Collecting a piece appends it, unless it is empty. -/
theorem taken_collect (s : Slots) (piece : Bytes) :
    (s.collect piece).taken.toList = s.taken.toList ++ [piece].filter fun w => !w.isEmpty := by
  unfold collect
  cases h : piece.isEmpty <;> simp [h, push]

end Slots

/-- The slots after the whole line. -/
def slotsOfLine (line : Bytes) : Slots :=
  (linePieces line).foldl Slots.collect Slots.empty

/-- The words of a line, collected into slots. -/
def tokenize (line : Bytes) : List Bytes :=
  (slotsOfLine line).taken.toList

theorem taken_foldl_collect (s : Slots) (pieces : List Bytes) :
    (pieces.foldl Slots.collect s).taken.toList
      = s.taken.toList ++ pieces.filter fun w => !w.isEmpty := by
  induction pieces generalizing s with
  | nil => simp
  | cons p rest ih =>
    rw [List.foldl_cons, ih, Slots.taken_collect, List.append_assoc, ← List.filter_append]
    rfl

/-- Collecting into slots gives the words of the line. -/
theorem tokenize_eq_words (line : Bytes) : tokenize line = words line := by
  simp [tokenize, slotsOfLine, words, taken_foldl_collect, Slots.empty]

/-! ## Memory that may refuse -/

namespace Slots

/-- Why there is no slot for a piece of a line, if memory refuses to add the slots that it needs. -/
def refusal (m : Memory) (s : Slots) (piece : Bytes) : Option TokenizeError :=
  if piece.isEmpty = false ∧ s.taken.size = s.capacity then m (s.growths + 1) else none

/-- Take in pieces of a line one after another, until memory refuses the slots for one. -/
def collectEach (m : Memory) (s : Slots) : List Bytes → Except TokenizeError Slots
  | [] => .ok s
  | piece :: rest =>
    match s.refusal m piece with
    | some e => .error e
    | none => (s.collect piece).collectEach m rest

end Slots

/-- Cut a line into its words, when memory answers as `m` does. -/
def cut (m : Memory) (line : Bytes) : Except TokenizeError (List Bytes) :=
  match m 0 with
  | some e => .error e
  | none => (Slots.empty.collectEach m (linePieces line)).map fun s => s.taken.toList

namespace Slots

/-- Slots are added for a piece exactly when memory is asked for them. -/
theorem growths_collect (s : Slots) (piece : Bytes) :
    (s.collect piece).growths
      = if piece.isEmpty = false ∧ s.taken.size = s.capacity then s.growths + 1 else s.growths := by
  unfold collect ensureRoom push
  cases piece.isEmpty with
  | true => simp
  | false => by_cases hfull : s.taken.size = s.capacity <;> simp [hfull]

theorem growths_le_foldl_collect (s : Slots) (pieces : List Bytes) :
    s.growths ≤ (pieces.foldl collect s).growths := by
  induction pieces generalizing s with
  | nil => exact Nat.le_refl _
  | cons p rest ih =>
    have hfirst : s.growths ≤ (s.collect p).growths := by
      rw [growths_collect]
      split <;> omega
    exact Nat.le_trans hfirst (ih _)

/-- The pieces are taken in unless memory refuses one of the reservations that are made for them. -/
theorem collectEach_eq (m : Memory) (s : Slots) (pieces : List Bytes) :
    s.collectEach m pieces
      = ((List.range' (s.growths + 1) ((pieces.foldl collect s).growths - s.growths)).findSome?
          m).elim (.ok (pieces.foldl collect s)) .error := by
  induction pieces generalizing s with
  | nil => simp [collectEach]
  | cons p rest ih =>
    have hle := growths_le_foldl_collect (s.collect p) rest
    have hrest := ih (s.collect p)
    simp only [collectEach, refusal, List.foldl_cons]
    rw [growths_collect] at hle hrest
    split at hle
    · next hneeded =>
      -- the reservation for this piece stands in front of those for the others
      have hmore : (rest.foldl collect (s.collect p)).growths - s.growths
          = (rest.foldl collect (s.collect p)).growths - (s.growths + 1) + 1 := by omega
      rw [if_pos hneeded] at hrest ⊢
      rw [hmore, List.range'_succ, List.findSome?_cons]
      cases m (s.growths + 1) with
      | some e => rfl
      | none => exact hrest
    · next hneeded =>
      rw [if_neg hneeded] at hrest ⊢
      exact hrest

end Slots

/-- A line is cut into its words unless memory refuses one of the reservations that these need. -/
theorem cut_eq (m : Memory) (line : Bytes) :
    cut m line
      = ((List.range ((slotsOfLine line).growths + 1)).findSome? m).elim (.ok (tokenize line))
          .error := by
  have hpieces : Slots.empty.collectEach m (linePieces line)
      = ((List.range' 1 (slotsOfLine line).growths).findSome? m).elim (.ok (slotsOfLine line))
          .error :=
    Slots.collectEach_eq m .empty (linePieces line)
  rw [List.range_eq_range', List.range'_succ, List.findSome?_cons]
  unfold cut
  cases m 0 with
  | some e => rfl
  | none =>
    simp only [hpieces]
    cases (List.range' 1 (slotsOfLine line).growths).findSome? m with
    | none => rfl
    | some e => rfl

/-- Memory that refuses nothing makes no difference. -/
@[simp] theorem cut_ample (line : Bytes) : cut .ample line = .ok (tokenize line) := by
  have hnone : (List.range ((slotsOfLine line).growths + 1)).findSome? Memory.ample = none :=
    List.findSome?_eq_none_iff.2 fun _ _ => rfl
  rw [cut_eq, hnone]
  rfl

theorem eq_tokenize_of_cut {m : Memory} {line : Bytes} {ws : List Bytes}
    (h : cut m line = .ok ws) : ws = tokenize line := by
  rw [cut_eq] at h
  cases hrefusal : (List.range ((slotsOfLine line).growths + 1)).findSome? m with
  | none =>
    rw [hrefusal] at h
    exact (Except.ok.inj h).symm
  | some e =>
    rw [hrefusal] at h
    cases h

end LineShell
