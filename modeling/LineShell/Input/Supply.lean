import LineShell.Journal

/-!
# Supplies

A supply delivers bytes piecemeal, the way a file, a pipe or a device does: each request brings
some bytes, none at all (which marks an end of file, though more may come later) or a fault. A
buffer of a fixed capacity stands between it and the reader of lines, and is filled only when it is
empty. A request that was interrupted is made again.
-/

namespace LineShell

/-- What one request to a supply brings. -/
inductive Delivery where
  /-- Bytes, as many as fit at a time; no bytes mark an end of file. -/
  | bytes (b : Bytes)
  /-- A fault. -/
  | fault (f : Fault)
  deriving DecidableEq, Repr

/-- A supply and the buffer that stands before it. -/
structure Supply where
  /-- What is still to be delivered; after it every request marks an end of file. -/
  script : List Delivery
  /-- The capacity of the buffer. -/
  capacity : Nat := 8192
  /-- What was delivered and not yet read. -/
  buffer : Bytes := []
  deriving DecidableEq, Repr

/-- The number of bytes of a delivery. -/
def Delivery.size : Delivery → Nat
  | bytes b => b.length
  | fault _ => 0

/-- The byte that ends a line. -/
def newline : UInt8 := 10

namespace Supply

/-- The number of bytes that a script delivers. -/
def scriptSize : List Delivery → Nat
  | [] => 0
  | d :: rest => d.size + scriptSize rest

/-- The number of bytes that a supply has still to give. -/
def size (s : Supply) : Nat :=
  scriptSize s.script + s.buffer.length

/-- Request bytes for a buffer of a capacity, again after every interruption. What does not fit
stays with the supply. -/
def request (capacity : Nat) : List Delivery → Except Fault Bytes × List Delivery
  | [] => (.ok [], [])
  | .fault f :: rest => if f.isInterruption then request capacity rest else (.error f, rest)
  | .bytes b :: rest =>
    (.ok (b.take capacity),
      if (b.drop capacity).isEmpty then rest else .bytes (b.drop capacity) :: rest)

@[simp] theorem scriptSize_nil : scriptSize [] = 0 := rfl

@[simp] theorem scriptSize_cons (d : Delivery) (rest : List Delivery) :
    scriptSize (d :: rest) = d.size + scriptSize rest := rfl

/-- What a request brings is what the script loses. -/
theorem scriptSize_request (capacity : Nat) (script : List Delivery) {b : Bytes}
    (h : (request capacity script).1 = .ok b) :
    scriptSize (request capacity script).2 + b.length = scriptSize script := by
  induction script with
  | nil => simp [request] at h ⊢; exact h
  | cons d rest ih =>
    cases d with
    | fault f =>
      unfold request at h ⊢
      split at h
      · next hf => simp only [hf, if_true]; rw [ih h]; simp [Delivery.size]
      · cases h
    | bytes c =>
      simp only [request, Except.ok.injEq] at h ⊢
      subst h
      split
      · next hd =>
        have : c.length - capacity = 0 := by
          simpa using congrArg List.length (List.isEmpty_iff.1 hd)
        simp only [List.length_take, scriptSize_cons, Delivery.size]
        omega
      · simp only [List.length_take, scriptSize_cons, Delivery.size, List.length_drop]
        omega

/-- Read up to the end of the line, or to an end of file, when `got` has been read of the line
before, last byte first. A fault loses what was read of the line. -/
def readLineOnto (got : Bytes) (s : Supply) : ReadResult × Supply :=
  if _hb : s.buffer = [] then
    match _h : request s.capacity s.script with
    | (.error f, script) => (.failed f, { s with script := script })
    | (.ok [], script) =>
      (if got = [] then .endOfInput else .line got.reverse, { s with script := script })
    | (.ok (c :: cs), script) => readLineOnto got { s with script := script, buffer := c :: cs }
  else
    match s.buffer.dropWhile (· ≠ newline) with
    | c :: rest =>
      (.line (got.reverse ++ s.buffer.takeWhile (· ≠ newline) ++ [c]), { s with buffer := rest })
    | [] => readLineOnto (s.buffer.reverseAux got) { s with buffer := [] }
termination_by 2 * scriptSize s.script + s.buffer.length
decreasing_by
  · have hr := scriptSize_request s.capacity s.script (b := c :: cs)
      (by rw [_h])
    rw [_h] at hr
    simp only [List.length_cons] at hr ⊢
    omega
  · have := List.length_pos_iff.2 _hb
    simp only [List.length_nil]
    omega

/-- Read one line. -/
def readLine (s : Supply) : ReadResult × Supply :=
  readLineOnto [] s

/-- A line is not empty, and what the supply loses by it is what the line has more than was read of
it before. -/
theorem size_readLineOnto {got : Bytes} {s : Supply} {b : Bytes}
    (h : (readLineOnto got s).1 = .line b) :
    b ≠ [] ∧ (readLineOnto got s).2.size + b.length = s.size + got.length := by
  fun_induction readLineOnto got s with
  | case1 got s hb f script hr => cases h
  | case2 got s hb script hr =>
    have hs := scriptSize_request s.capacity s.script (b := [])
      (by rw [hr])
    rw [hr] at hs
    split at h
    · cases h
    · next hg =>
      cases h
      refine ⟨by simpa using hg, ?_⟩
      simp only [size, hb, List.length_nil, List.length_reverse] at hs ⊢
      omega
  | case3 got s hb c cs script hr ih =>
    have hs := scriptSize_request s.capacity s.script (b := c :: cs)
      (by rw [hr])
    rw [hr] at hs
    obtain ⟨hne, hsize⟩ := ih h
    refine ⟨hne, ?_⟩
    simp only [size, hb, List.length_nil] at hs hsize ⊢
    omega
  | case4 got s hb c rest hd =>
    cases h
    have hsplit := congrArg List.length
      (List.takeWhile_append_dropWhile (p := (fun x => decide (x ≠ newline))) (l := s.buffer))
    rw [hd] at hsplit
    refine ⟨by simp, ?_⟩
    simp only [size, List.length_append, List.length_cons, List.length_nil,
      List.length_reverse] at hsplit ⊢
    omega
  | case5 got s hb hd ih =>
    obtain ⟨hne, hsize⟩ := ih h
    refine ⟨hne, ?_⟩
    simp only [size, List.reverseAux_eq, List.length_append, List.length_nil,
      List.length_reverse] at hsize ⊢
    omega

/-- Reading a line uses up at least one byte. -/
theorem size_readLine_lt {s : Supply} {b : Bytes} (h : s.readLine.1 = .line b) :
    s.readLine.2.size < s.size := by
  obtain ⟨hne, hsize⟩ := size_readLineOnto h
  have := List.length_pos_iff.2 hne
  simp only [List.length_nil] at hsize
  unfold readLine
  omega

end Supply

end LineShell
