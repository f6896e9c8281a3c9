import LineShell.Input.Supply
import Mathlib.Data.List.TakeWhile

/-!
# What arrives from a supply

A supply delivers single bytes, ends of file and faults, one after another, however they are cut
into deliveries. Interruptions are none of these: the request is made again. A line is read off this
sequence alone (`readLine_eq_takeLine`), so neither the size of the deliveries nor the capacity of
the buffer can be told from the lines.
-/

namespace LineShell

/-- One thing that arrives from a supply. -/
inductive Arrival where
  | byte (c : UInt8)
  /-- An end of file, behind which more may arrive. -/
  | endOfFile
  | fault (f : Fault)
  deriving DecidableEq, Repr

/-- What arrives with one delivery. -/
def Delivery.arrivals : Delivery → List Arrival
  | bytes [] => [.endOfFile]
  | bytes (c :: cs) => (c :: cs).map .byte
  | fault f => if f.isInterruption then [] else [.fault f]

/-- What a line ends with when no byte of it is left: the line, if there is anything of it. -/
def lineAtEnd (got : Bytes) : ReadResult :=
  if got = [] then .endOfInput else .line got.reverse

/-- Take a line off what arrives, when `got` has been read of the line before, last byte first. -/
def takeLine (got : Bytes) : List Arrival → ReadResult × List Arrival
  | [] => (lineAtEnd got, [])
  | .byte c :: rest =>
    if c = newline then (.line (c :: got).reverse, rest) else takeLine (c :: got) rest
  | .endOfFile :: rest => (lineAtEnd got, rest)
  | .fault f :: rest => (.failed f, rest)

namespace Supply

/-- What arrives from a script. Behind it there are only ends of file. -/
def scriptArrivals (script : List Delivery) : List Arrival :=
  script.flatMap Delivery.arrivals

/-- What is still to arrive from a supply. -/
def arrivals (s : Supply) : List Arrival :=
  s.buffer.map .byte ++ scriptArrivals s.script

@[simp] theorem scriptArrivals_cons (d : Delivery) (script : List Delivery) :
    scriptArrivals (d :: script) = d.arrivals ++ scriptArrivals script := rfl

/-- Bytes arrive as they are. -/
theorem arrivals_bytes {b : Bytes} (hb : b ≠ []) : (Delivery.bytes b).arrivals = b.map .byte := by
  cases b with
  | nil => exact absurd rfl hb
  | cons c cs => rfl

/-- A request brings the first of what arrives: a fault, an end of file or some bytes. -/
theorem arrivals_request {capacity : Nat} (hc : 0 < capacity) (script : List Delivery) :
    match request capacity script with
    | (.error f, rest) => scriptArrivals script = .fault f :: scriptArrivals rest
    | (.ok [], rest) =>
      scriptArrivals script = .endOfFile :: scriptArrivals rest ∨
        (scriptArrivals script = [] ∧ scriptArrivals rest = [])
    | (.ok (c :: cs), rest) =>
      scriptArrivals script = (c :: cs).map .byte ++ scriptArrivals rest := by
  induction script with
  | nil => exact Or.inr ⟨rfl, rfl⟩
  | cons d rest ih =>
    cases d with
    | fault f =>
      by_cases hf : f.isInterruption = true
      · simpa [request, Delivery.arrivals, hf] using ih
      · simp [request, Delivery.arrivals, hf]
    | bytes b =>
      cases b with
      | nil => simp [request, Delivery.arrivals]
      | cons c cs =>
        obtain ⟨k, rfl⟩ := Nat.exists_eq_succ_of_ne_zero (Nat.ne_of_gt hc)
        have hsplit := congrArg (List.map Arrival.byte) (List.take_append_drop k cs)
        rw [List.map_append] at hsplit
        -- what does not fit is the front of what is left
        by_cases hd : cs.drop k = []
        · rw [hd, List.map_nil, List.append_nil] at hsplit
          simp only [request, List.take_succ_cons, List.drop_succ_cons, hd, List.isEmpty_nil,
            if_true, scriptArrivals_cons, List.map_cons, hsplit]
          rfl
        · have hne : (cs.drop k).isEmpty = false := by simpa using hd
          simp only [request, List.take_succ_cons, List.drop_succ_cons, hne, Bool.false_eq_true,
            if_false, scriptArrivals_cons, arrivals_bytes hd, List.map_cons, List.cons_append]
          rw [← List.append_assoc, hsplit]
          rfl

/-- A byte string with a newline in it, cut at the first one. -/
theorem eq_append_of_dropWhile {b rest : Bytes} {c : UInt8}
    (hd : b.dropWhile (· ≠ newline) = c :: rest) :
    b = b.takeWhile (· ≠ newline) ++ newline :: rest ∧ c = newline := by
  have hhead := List.head?_dropWhile_not (fun x => decide (x ≠ newline)) b
  have hsplit := List.takeWhile_append_dropWhile (p := fun x => decide (x ≠ newline)) (l := b)
  rw [hd] at hhead hsplit
  have hc : c = newline := by simpa using hhead
  rw [hc] at hsplit
  exact ⟨hsplit.symm, hc⟩

/-- Bytes that do not end the line are read one by one. -/
theorem takeLine_append {b : Bytes} (hb : ∀ c ∈ b, c ≠ newline) (got : Bytes)
    (rest : List Arrival) :
    takeLine got (b.map .byte ++ rest) = takeLine (b.reverseAux got) rest := by
  induction b generalizing got with
  | nil => rfl
  | cons c cs ih =>
    have hc : c ≠ newline := hb c List.mem_cons_self
    have hcs := ih (fun x hx => hb x (List.mem_cons_of_mem c hx)) (c :: got)
    simp only [List.map_cons, List.cons_append, takeLine, if_neg hc]
    exact hcs

/-- A line is read off what arrives. -/
theorem readLineOnto_eq_takeLine {s : Supply} (hc : 0 < s.capacity) (got : Bytes) :
    (readLineOnto got s).1 = (takeLine got s.arrivals).1 ∧
      (readLineOnto got s).2.arrivals = (takeLine got s.arrivals).2 ∧
      (readLineOnto got s).2.capacity = s.capacity := by
  fun_induction readLineOnto got s with
  | case1 got s hb f script hr =>
    have harr := arrivals_request hc s.script
    rw [hr] at harr
    simp [arrivals, hb, harr, takeLine]
  | case2 got s hb script hr =>
    have harr := arrivals_request hc s.script
    rw [hr] at harr
    rcases harr with harr | ⟨harr, hrest⟩
    · simp [arrivals, hb, harr, takeLine, lineAtEnd]
    · simp [arrivals, hb, harr, hrest, takeLine, lineAtEnd]
  | case3 got s hb c cs script hr ih =>
    have harr := arrivals_request hc s.script
    rw [hr] at harr
    -- filling the buffer moves bytes, but the same is still to arrive
    have hsame : arrivals { s with script := script, buffer := c :: cs } = s.arrivals := by
      simp [arrivals, hb, harr]
    have hrest := ih hc
    rw [hsame] at hrest
    exact hrest
  | case4 got s hb c rest hd =>
    obtain ⟨hsplit, hnewline⟩ := eq_append_of_dropWhile hd
    have hbefore : ∀ x ∈ s.buffer.takeWhile (· ≠ newline), x ≠ newline := by
      intro x hx
      simpa using List.mem_takeWhile_imp hx
    have harr : s.arrivals
        = (s.buffer.takeWhile (· ≠ newline)).map .byte
            ++ .byte newline :: arrivals { s with buffer := rest } := by
      have hmap := congrArg (List.map Arrival.byte) hsplit
      rw [List.map_append] at hmap
      rw [arrivals, hmap, List.append_assoc]
      rfl
    rw [harr, takeLine_append hbefore]
    simp [takeLine, hnewline, List.reverseAux_eq]
  | case5 got s hb hd ih =>
    have hbefore : ∀ x ∈ s.buffer, x ≠ newline := by
      intro x hx
      simpa using List.dropWhile_eq_nil_iff.1 hd x hx
    -- the whole buffer belongs to the line
    have hrest := ih hc
    have harr : takeLine (s.buffer.reverseAux got) (arrivals { s with buffer := [] })
        = takeLine got s.arrivals := (takeLine_append hbefore got _).symm
    rw [harr] at hrest
    exact hrest

/-- A line is read off what arrives. -/
theorem readLine_eq_takeLine {s : Supply} (hc : 0 < s.capacity) :
    s.readLine.1 = (takeLine [] s.arrivals).1 :=
  (readLineOnto_eq_takeLine hc []).1

/-- What is left to arrive behind a line. -/
theorem arrivals_readLine {s : Supply} (hc : 0 < s.capacity) :
    s.readLine.2.arrivals = (takeLine [] s.arrivals).2 :=
  (readLineOnto_eq_takeLine hc []).2.1

theorem capacity_readLine {s : Supply} (hc : 0 < s.capacity) :
    s.readLine.2.capacity = s.capacity :=
  (readLineOnto_eq_takeLine hc []).2.2

end Supply

end LineShell
