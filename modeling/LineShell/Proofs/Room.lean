import LineShell.Words.Slots
import Mathlib.Algebra.Group.Nat.Defs

/-!
# Room for every word

Before a word is put into a slot, slots are reserved if none is free, as many again as there are. So
a word always finds a free slot: the invariant `Slots.Reserved` is kept by every piece of a line,
and reserving leaves room for one word more (`Slots.Reserved.size_lt_ensureRoom`). How often slots
were reserved tells how many there are, and there are never more than twice as many as words, the
first ones apart (`every_word_finds_room`).
-/

namespace LineShell

namespace Slots

/-- Slots as they are reserved: the first ones, doubled every time that more were needed. -/
structure Reserved (s : Slots) : Prop where
  capacity_eq : s.capacity = 64 * 2 ^ s.growths
  size_le : s.taken.size ≤ s.capacity
  capacity_le : s.capacity ≤ max 64 (2 * s.taken.size)

variable {s : Slots}

theorem reserved_empty : empty.Reserved where
  capacity_eq := rfl
  size_le := Nat.zero_le _
  capacity_le := Nat.le_max_left _ _

theorem Reserved.capacity_pos (hs : s.Reserved) : 0 < s.capacity := by
  have hpow := Nat.two_pow_pos s.growths
  rw [hs.capacity_eq]
  omega

/-! ## One word -/

/-- More slots are reserved exactly if all are taken, and then as many as there are. -/
theorem ensureRoom_cases (s : Slots) :
    (s.taken.size ≠ s.capacity ∧ s.ensureRoom = s) ∨
      (s.taken.size = s.capacity ∧
        s.ensureRoom = ⟨s.taken, s.taken.size + s.capacity, s.growths + 1⟩) := by
  unfold ensureRoom
  by_cases hfull : s.taken.size = s.capacity
  · exact Or.inr ⟨hfull, if_pos hfull⟩
  · exact Or.inl ⟨hfull, if_neg hfull⟩

theorem Reserved.ensureRoom (hs : s.Reserved) : s.ensureRoom.Reserved := by
  rcases ensureRoom_cases s with ⟨_, hsame⟩ | ⟨hfull, hmore⟩
  · rw [hsame]
    exact hs
  · rw [hmore]
    have hcapacity := hs.capacity_eq
    refine { capacity_eq := ?_, size_le := ?_, capacity_le := ?_ }
    · show s.taken.size + s.capacity = 64 * 2 ^ (s.growths + 1)
      rw [Nat.pow_succ]
      omega
    · show s.taken.size ≤ s.taken.size + s.capacity
      omega
    · show s.taken.size + s.capacity ≤ max 64 (2 * s.taken.size)
      omega

/-- Behind a reservation a slot is free. -/
theorem Reserved.size_lt_ensureRoom (hs : s.Reserved) :
    s.ensureRoom.taken.size < s.ensureRoom.capacity := by
  have hpos := hs.capacity_pos
  have hle := hs.size_le
  rcases ensureRoom_cases s with ⟨hfree, hsame⟩ | ⟨hfull, hmore⟩
  · rw [hsame]
    omega
  · rw [hmore]
    show s.taken.size < s.taken.size + s.capacity
    omega

theorem Reserved.push (hs : s.Reserved) (hfree : s.taken.size < s.capacity) (w : Bytes) :
    (s.push w).Reserved := by
  have hsize : (s.push w).taken.size = s.taken.size + 1 := Array.size_push w
  have hle := hs.capacity_le
  refine { capacity_eq := hs.capacity_eq, size_le := ?_, capacity_le := ?_ }
  · rw [hsize]
    exact hfree
  · show s.capacity ≤ max 64 (2 * (s.push w).taken.size)
    omega

/-! ## All pieces of a line -/

theorem Reserved.collect (hs : s.Reserved) (piece : Bytes) : (s.collect piece).Reserved := by
  unfold Slots.collect
  by_cases hpiece : piece.isEmpty
  · rw [if_pos hpiece]
    exact hs
  · rw [if_neg hpiece]
    exact hs.ensureRoom.push hs.size_lt_ensureRoom piece

theorem Reserved.foldl_collect (hs : s.Reserved) (pieces : List Bytes) :
    (pieces.foldl Slots.collect s).Reserved := by
  induction pieces generalizing s with
  | nil => exact hs
  | cons piece rest ih => exact ih (hs.collect piece)

/-- What becomes of a piece that comes behind others. -/
structure Collects (s : Slots) (before : List Bytes) (piece : Bytes) : Prop where
  /-- The words so far, each in a slot of its own. -/
  words : s.taken.toList = before.filter fun w => !w.isEmpty
  reserved : s.Reserved
  /-- An empty piece is not put into a slot. -/
  passed : piece = [] → s.collect piece = s
  /-- Any other piece is, and finds a slot that is free. -/
  pushed : piece ≠ [] → s.collect piece = s.ensureRoom.push piece ∧ s.ensureRoom.Reserved ∧
    s.ensureRoom.taken = s.taken ∧ s.ensureRoom.taken.size < s.ensureRoom.capacity
  /-- For this more slots are reserved if all are taken, and only then. -/
  grown : (s.taken.size ≠ s.capacity ∧ s.ensureRoom = s) ∨
    (s.taken.size = s.capacity ∧
      s.ensureRoom = ⟨s.taken, s.taken.size + s.capacity, s.growths + 1⟩)

theorem collects_foldl (before : List Bytes) (piece : Bytes) :
    Collects (before.foldl Slots.collect empty) before piece := by
  have hreserved := reserved_empty.foldl_collect before
  refine
    { words := ?_
      reserved := hreserved
      passed := ?_
      pushed := ?_
      grown := ensureRoom_cases _ }
  · -- words
    rw [taken_foldl_collect]
    rfl
  · -- passed
    rintro rfl
    rfl
  · -- pushed
    intro hpiece
    have hcollect : ¬ piece.isEmpty := by simpa using hpiece
    exact ⟨if_neg hcollect, hreserved.ensureRoom, taken_ensureRoom _, hreserved.size_lt_ensureRoom⟩

end Slots

/-- **Every word finds a free slot.** On the way through the pieces of a line, the slots hold the
words so far; there are `64 * 2 ^ k` of them, where `k` counts the reservations behind the first
one, and no more than 64 or twice as many as words. The next word finds one that is free: it is put
there, and putting it there never has to make room itself. So it is at the end of the line, and the
words in the slots are what is left of the pieces of the line without the empty ones. -/
theorem every_word_finds_room (line : Bytes) :
    (∀ before piece after, linePieces line = before ++ piece :: after →
      (before.foldl Slots.collect Slots.empty).Collects before piece ∧
      slotsOfLine line
        = after.foldl Slots.collect ((before.foldl Slots.collect Slots.empty).collect piece)) ∧
    (slotsOfLine line).Reserved ∧
    (slotsOfLine line).capacity ≤ max 64 (2 * (tokenize line).length) ∧
    tokenize line = (line.splitOnP isDelimiter).filter fun w => !w.isEmpty := by
  have hreserved : (slotsOfLine line).Reserved :=
    Slots.reserved_empty.foldl_collect (linePieces line)
  refine ⟨?_, hreserved, ?_, tokenize_eq_words line⟩
  · intro before piece after hpieces
    refine ⟨Slots.collects_foldl before piece, ?_⟩
    rw [slotsOfLine, hpieces, List.foldl_append, List.foldl_cons]
  · have hle := hreserved.capacity_le
    rwa [← Array.length_toList] at hle

/-- The 65th word of a line finds all slots taken, and as many again are reserved before it is put
into one of these. -/
theorem every_word_finds_room_of_full :
    let line := (List.replicate 65 (utf8 "x ")).flatten
    let s := (List.replicate 64 (utf8 "x")).foldl Slots.collect Slots.empty
    linePieces line = List.replicate 64 (utf8 "x") ++ utf8 "x" :: [[]] ∧ utf8 "x" ≠ [] ∧
      s.taken.size = 64 ∧ s.capacity = 64 ∧ s.ensureRoom.taken.size < s.ensureRoom.capacity ∧
      s.ensureRoom.capacity = 128 ∧ s.ensureRoom.growths = 1 ∧
      (slotsOfLine line).capacity ≤ 130 := by
  intro line s
  have hpieces : linePieces line = List.replicate 64 (utf8 "x") ++ utf8 "x" :: [[]] := by
    decide +kernel
  have hne : utf8 "x" ≠ [] := by decide
  have hsize : s.taken.size = 64 := by decide +kernel
  have hcapacity : s.capacity = 64 := by decide +kernel
  have hgrowths : s.growths = 0 := by decide +kernel
  obtain ⟨hcollects, _, hle, _⟩ := every_word_finds_room line
  obtain ⟨hcollect, _⟩ := hcollects _ _ _ hpieces
  obtain ⟨_, _, _, hfree⟩ := hcollect.pushed hne
  have hmore : s.ensureRoom = ⟨s.taken, s.taken.size + s.capacity, s.growths + 1⟩ := by
    rcases hcollect.grown with ⟨hne, _⟩ | ⟨_, hmore⟩
    · exact absurd (hsize.trans hcapacity.symm) hne
    · exact hmore
  refine ⟨hpieces, hne, hsize, hcapacity, hfree, ?_, ?_, ?_⟩
  · rw [hmore, hsize, hcapacity]
  · rw [hmore, hgrowths]
  · have hlength : (tokenize line).length = 65 := by decide +kernel
    rw [hlength] at hle
    exact hle

end LineShell
