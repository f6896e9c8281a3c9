import LineShell.Proofs.History
import LineShell.Proofs.Lines
import LineShell.Proofs.Piecemeal

/-!
# What reads take up

Of what arrives from a supply every read takes up a stretch: bytes up to and including a newline, or
up to an end of file or a fault. The stretches of successive reads follow each other without a gap
and without an overlap. A stretch that ends with a fault gives no line, so no words of it are ever
carried out (`reads_account_for_bytes`).
-/

namespace LineShell

/-- What a read comes to its end with. -/
inductive Stretch.Ending where
  | newline
  | endOfFile
  | fault (f : Fault)
  deriving DecidableEq, Repr

/-- What arrives last in a read. -/
def Stretch.Ending.arrival : Stretch.Ending → Arrival
  | newline => .byte LineShell.newline
  | endOfFile => .endOfFile
  | fault f => .fault f

/-- What one read takes up: bytes among which there is no newline, and what it ends with. -/
structure Stretch where
  bytes : Bytes
  ending : Stretch.Ending
  newline_not_mem : newline ∉ bytes

/-- The bytes that the result of a read brings. -/
def ReadResult.bytes : ReadResult → Bytes
  | line b => b
  | endOfInput => []
  | failed _ => []

/-- The bytes among what arrives. -/
def bytesOf (a : List Arrival) : Bytes :=
  a.filterMap fun | .byte c => some c | _ => none

@[simp] theorem bytesOf_append (a b : List Arrival) :
    bytesOf (a ++ b) = bytesOf a ++ bytesOf b := by
  simp [bytesOf]

@[simp] theorem bytesOf_map_byte (b : Bytes) : bytesOf (b.map .byte) = b := by
  simp [bytesOf, List.filterMap_map]

theorem bytesOf_flatMap {α : Type} (f : α → List Arrival) (l : List α) :
    bytesOf (l.flatMap f) = l.flatMap fun x => bytesOf (f x) := by
  simp [bytesOf, List.filterMap_flatMap]

/-- The bytes that arrive from a supply are those that it has still to give. -/
theorem Supply.bytesOf_arrivals (s : Supply) : bytesOf s.arrivals = s.content := by
  have hdelivery : ∀ d : Delivery, bytesOf d.arrivals = d.content := by
    intro d
    cases d with
    | fault f => by_cases hf : f.isInterruption = true <;> simp [Delivery.arrivals, hf] <;> rfl
    | bytes b =>
      cases b with
      | nil => rfl
      | cons c cs => exact bytesOf_map_byte (c :: cs)
  simp [arrivals, scriptArrivals, bytesOf_flatMap, hdelivery, content]

namespace SameArrivals

variable {a b : List Arrival}

/-- Anything but an end of file arrives on both sides or on none. -/
theorem mem (hab : SameArrivals a b) {x : Arrival} (hx : x ∈ a) (hne : x ≠ .endOfFile) : x ∈ b := by
  obtain ⟨n, hn⟩ := List.mem_iff_getElem?.1 hx
  have heq := hab n
  rw [List.getD_eq_getElem?_getD, List.getD_eq_getElem?_getD, hn, Option.getD_some] at heq
  cases hb : b[n]? with
  | none =>
    rw [hb] at heq
    exact absurd heq hne
  | some y =>
    rw [hb] at heq
    rw [heq]
    exact List.mem_of_getElem? hb

theorem bytesOf_of_nil (hb : SameArrivals [] b) : bytesOf b = [] := by
  induction b with
  | nil => rfl
  | cons y b ih =>
    obtain ⟨rfl, hrest⟩ := hb.of_nil_cons
    exact ih hrest

theorem bytesOf_eq (hab : SameArrivals a b) : bytesOf a = bytesOf b := by
  induction a generalizing b with
  | nil => rw [hab.bytesOf_of_nil]; rfl
  | cons x a ih =>
    cases b with
    | nil => exact hab.symm.bytesOf_of_nil
    | cons y b =>
      obtain rfl := hab.head_eq
      have hrest := ih hab.tail
      cases x with
      | byte c => exact congrArg (c :: ·) hrest
      | endOfFile => exact hrest
      | fault f => exact hrest

/-- Behind at least as much as is listed there are only ends of file. -/
theorem left_of_length_le {front left : List Arrival} (h : SameArrivals a (front ++ left))
    (hlen : a.length ≤ front.length) : SameArrivals [] left := by
  intro n
  have heq := h (front.length + n)
  have hnone : a[front.length + n]? = none :=
    List.getElem?_eq_none (Nat.le_trans hlen (Nat.le_add_right _ _))
  rw [List.getD_eq_getElem?_getD, hnone, List.getD_eq_getElem?_getD,
    List.getElem?_append_right (Nat.le_add_right _ _), Nat.add_sub_cancel_left,
    ← List.getD_eq_getElem?_getD] at heq
  exact heq

end SameArrivals

namespace Stretch

/-- What arrives in the course of a read. -/
def arrivals (p : Stretch) : List Arrival :=
  p.bytes.map .byte ++ [p.ending.arrival]

/-- What the read gives. -/
def result (p : Stretch) : ReadResult :=
  match p.ending with
  | .newline => .line (p.bytes ++ [newline])
  | .endOfFile => if p.bytes = [] then .endOfInput else .line p.bytes
  | .fault f => .failed f

/-- The bytes that the read drops. -/
def dropped (p : Stretch) : Bytes :=
  match p.ending with
  | .fault _ => p.bytes
  | .newline | .endOfFile => []

theorem arrivals_ne_nil (p : Stretch) : p.arrivals ≠ [] := by
  simp [arrivals]

/-- What is not dropped is given. -/
theorem bytes_result_append_dropped (p : Stretch) :
    p.result.bytes ++ p.dropped = bytesOf p.arrivals := by
  obtain ⟨bytes, ending, hbytes⟩ := p
  cases ending with
  | newline => simp [result, dropped, arrivals, Ending.arrival, ReadResult.bytes, bytesOf]
  | endOfFile =>
    by_cases hb : bytes = [] <;>
      simp [result, dropped, arrivals, Ending.arrival, ReadResult.bytes, bytesOf, hb]
  | fault f => simp [result, dropped, arrivals, Ending.arrival, ReadResult.bytes, bytesOf]

/-- A line is not empty and holds a newline at most as its last byte, which is missing only before
an end of file. -/
theorem of_result_eq_line {p : Stretch} {b : Bytes} (hp : p.result = .line b) :
    b ≠ [] ∧ newline ∉ b.dropLast ∧
      (b.getLast? = some newline ∧ p.ending = .newline ∨
        b.getLast? ≠ some newline ∧ p.ending = .endOfFile) := by
  obtain ⟨bytes, ending, hbytes⟩ := p
  cases ending with
  | newline =>
    cases hp
    exact ⟨by simp, by simpa using hbytes, Or.inl ⟨by simp, rfl⟩⟩
  | endOfFile =>
    simp only [result] at hp
    split at hp
    · cases hp
    · next hne =>
      cases hp
      refine ⟨hne, fun hmem => hbytes (List.dropLast_subset _ hmem), Or.inr ⟨?_, rfl⟩⟩
      exact fun hlast => hbytes (List.mem_of_getLast? hlast)
  | fault f => cases hp

theorem result_eq_endOfInput_iff (p : Stretch) :
    p.result = .endOfInput ↔ p.bytes = [] ∧ p.ending = .endOfFile := by
  obtain ⟨bytes, ending, hbytes⟩ := p
  cases ending with
  | newline => simp [result]
  | endOfFile => by_cases hb : bytes = [] <;> simp [result, hb]
  | fault f => simp [result]

theorem result_eq_failed_iff (p : Stretch) (f : Fault) :
    p.result = .failed f ↔ p.ending = .fault f := by
  obtain ⟨bytes, ending, hbytes⟩ := p
  cases ending with
  | newline => simp [result]
  | endOfFile => by_cases hb : bytes = [] <;> simp [result, hb]
  | fault g => simp [result]

theorem dropped_of_failed {p : Stretch} {f : Fault} (hp : p.result = .failed f) :
    p.dropped = p.bytes := by
  rw [result_eq_failed_iff] at hp
  simp [dropped, hp]

theorem dropped_of_not_failed {p : Stretch} (hp : ∀ f, p.result ≠ .failed f) :
    p.dropped = [] := by
  cases he : p.ending with
  | newline => simp [dropped, he]
  | endOfFile => simp [dropped, he]
  | fault f => exact absurd ((result_eq_failed_iff p f).2 he) (hp f)

end Stretch

/-! ## One read -/

/-- A line that begins with `got` takes up a stretch of what arrives. -/
theorem exists_stretch_of_takeLine (a : List Arrival) {got : Bytes} (hgot : newline ∉ got) :
    ∃ p : Stretch, (takeLine got a).1 = p.result ∧
      SameArrivals (got.reverse.map .byte ++ a) (p.arrivals ++ (takeLine got a).2) := by
  have hrev : newline ∉ got.reverse := by simpa using hgot
  have hend : lineAtEnd got = (Stretch.mk got.reverse .endOfFile hrev).result := by
    by_cases hg : got = [] <;> simp [lineAtEnd, Stretch.result, hg]
  induction a generalizing got with
  | nil =>
    refine ⟨⟨got.reverse, .endOfFile, hrev⟩, hend, ?_⟩
    have hmore := SameArrivals.append_left (got.reverse.map .byte) SameArrivals.endOfFile_nil
    simpa [takeLine, Stretch.arrivals, Stretch.Ending.arrival] using hmore.symm
  | cons x rest ih =>
    cases x with
    | endOfFile =>
      refine ⟨⟨got.reverse, .endOfFile, hrev⟩, hend, ?_⟩
      simp [takeLine, Stretch.arrivals, Stretch.Ending.arrival, SameArrivals]
    | fault f =>
      refine ⟨⟨got.reverse, .fault f, hrev⟩, rfl, ?_⟩
      simp [takeLine, Stretch.arrivals, Stretch.Ending.arrival, SameArrivals]
    | byte c =>
      by_cases hc : c = newline
      · refine ⟨⟨got.reverse, .newline, hrev⟩, ?_, ?_⟩
        · simp [takeLine, Stretch.result, hc]
        · simp [takeLine, Stretch.arrivals, Stretch.Ending.arrival, SameArrivals, hc]
      · -- the byte joins what has been read of the line
        have hgot' : newline ∉ c :: got := by simp [hgot, Ne.symm hc]
        have hrev' : newline ∉ (c :: got).reverse := fun hmem => hgot' (List.mem_reverse.1 hmem)
        have hend' : lineAtEnd (c :: got)
            = (Stretch.mk (c :: got).reverse .endOfFile hrev').result := by
          simp [lineAtEnd, Stretch.result]
        obtain ⟨p, hp, hsame⟩ := ih hgot' hrev' hend'
        simp only [takeLine, if_neg hc]
        refine ⟨p, hp, ?_⟩
        simpa using hsame

/-! ## Successive reads -/

/-- How successive reads with the results `rs` account for what arrives: they take up the stretches
`ps`, and `left` is still to arrive. -/
structure Accounts (a : List Arrival) (rs : List ReadResult) (ps : List Stretch)
    (left : List Arrival) : Prop where
  results : rs = ps.map Stretch.result
  /-- Nothing is left out, taken twice or out of order, and the next read begins right behind. -/
  arrivals : SameArrivals a (ps.flatMap Stretch.arrivals ++ left)

namespace Accounts

variable {a left : List Arrival} {rs : List ReadResult} {ps : List Stretch}

/-- Lines and dropped pieces are the bytes consumed. -/
theorem bytes_eq (h : Accounts a rs ps left) :
    bytesOf a = (ps.flatMap fun p => p.result.bytes ++ p.dropped) ++ bytesOf left := by
  rw [h.arrivals.bytesOf_eq, bytesOf_append, bytesOf_flatMap]
  simp only [Stretch.bytes_result_append_dropped]

/-- Every read takes up something. -/
theorem length_le (h : Accounts a rs ps left) :
    rs.length ≤ (ps.flatMap Stretch.arrivals).length := by
  rw [h.results, List.length_map]
  clear h
  induction ps with
  | nil => exact Nat.le_refl _
  | cons p ps ih =>
    have hpos := List.length_pos_iff.2 p.arrivals_ne_nil
    simp only [List.flatMap_cons, List.length_append, List.length_cons]
    omega

/-- Without faults nothing is dropped. -/
theorem dropped_eq_nil (h : Accounts a rs ps left) (ha : ∀ f, .fault f ∉ a) :
    ∀ p ∈ ps, p.dropped = [] := by
  intro p hp
  refine Stretch.dropped_of_not_failed fun f hf => ?_
  have he := (p.result_eq_failed_iff f).1 hf
  have hmem : Arrival.fault f ∈ ps.flatMap Stretch.arrivals ++ left := by
    refine List.mem_append_left _ (List.mem_flatMap.2 ⟨p, hp, ?_⟩)
    simp [Stretch.arrivals, he, Stretch.Ending.arrival]
  exact ha f (h.arrivals.symm.mem hmem (by simp))

/-- Without faults the lines are the bytes consumed. -/
theorem lines_append (h : Accounts a rs ps left) (ha : ∀ f, .fault f ∉ a) :
    rs.flatMap ReadResult.bytes ++ bytesOf left = bytesOf a := by
  have hnone := h.dropped_eq_nil ha
  rw [h.bytes_eq, h.results, List.flatMap_map]
  refine congrArg (· ++ bytesOf left) (List.flatMap_congr fun p hp => ?_)
  rw [hnone p hp, List.append_nil]

/-- As many reads as there are things to arrive read everything. -/
theorem bytesOf_left (h : Accounts a rs ps left) (hlen : a.length ≤ rs.length) :
    bytesOf left = [] :=
  (h.arrivals.left_of_length_le (Nat.le_trans hlen h.length_le)).bytesOf_of_nil

/-- The words of a line are those of a stretch that no fault has ended. -/
theorem exists_stretch_of_words (h : Accounts a rs ps left) {ws : List Bytes}
    (hws : ws ∈ rs.filterMap ReadResult.words?) :
    ∃ p ∈ ps, ∃ b, p.result = .line b ∧ ws = tokenize b ∧
      (b.getLast? = some newline ∧ p.ending = .newline ∨ p.ending = .endOfFile) := by
  rw [h.results] at hws
  obtain ⟨r, hr, hwords⟩ := List.mem_filterMap.1 hws
  obtain ⟨p, hp, rfl⟩ := List.mem_map.1 hr
  cases hb : p.result with
  | line b =>
    rw [hb] at hwords
    obtain ⟨_, _, hlast⟩ := Stretch.of_result_eq_line hb
    refine ⟨p, hp, b, hb, (Option.some.inj hwords).symm, ?_⟩
    rcases hlast with hlast | ⟨_, hend⟩
    · exact Or.inl hlast
    · exact Or.inr hend
  | endOfInput =>
    rw [hb] at hwords
    cases hwords
  | failed f =>
    rw [hb] at hwords
    cases hwords

end Accounts

theorem Supply.exists_accounts {s : Supply} (hc : 0 < s.capacity) (n : Nat) :
    ∃ ps, Accounts s.arrivals (s.firstLines n) ps (s.afterLines n).arrivals := by
  induction n generalizing s with
  | zero => exact ⟨[], rfl, SameArrivals.refl _⟩
  | succ n ih =>
    have hc' : 0 < s.readLine.2.capacity := by rwa [capacity_readLine hc]
    obtain ⟨ps, hps⟩ := ih hc'
    have hnil : newline ∉ ([] : Bytes) := List.not_mem_nil
    obtain ⟨p, hp, hsame⟩ := exists_stretch_of_takeLine s.arrivals hnil
    rw [← readLine_eq_takeLine hc] at hp
    rw [← arrivals_readLine hc] at hsame
    refine ⟨p :: ps, ?_, ?_⟩
    · rw [firstLines, hp, hps.results]
      rfl
    · have hrest := hps.arrivals.append_left p.arrivals
      rw [List.flatMap_cons, List.append_assoc]
      exact SameArrivals.trans hsame hrest

namespace StreamSource

open LineReader (readEach)

theorem exists_accounts {s : StreamSource} (hc : 0 < s.supply.capacity) (texts : List Bytes) :
    ∃ ps, Accounts s.supply.arrivals (readEach texts s).result ps
      (readEach texts s).after.supply.arrivals := by
  obtain ⟨hresult, hafter⟩ := readEach_eq texts s
  rw [hresult, hafter]
  exact Supply.exists_accounts hc texts.length

end StreamSource

namespace Session

open LineReader (readEach)

variable {σ : Type}

/-- The reads made in a session account for what arrives from its stream. -/
theorem History.exists_accounts {h : Host σ} {s t : Session σ StreamSource}
    (hc : 0 < s.source.supply.capacity) {calls : List (Operation × Answer)} {j : Journal}
    (hist : History h s calls j t) :
    ∃ ps, Accounts s.source.supply.arrivals j.reads ps t.source.supply.arrivals := by
  obtain ⟨n, hreads, hsource, _⟩ := hist.exists_reads
  rw [hreads, hsource, StreamSource.results_eq, StreamSource.supply_afterReads]
  exact Supply.exists_accounts hc n

/-- **No byte is lost, taken twice or out of order, and no line that a fault cut short is carried
out.** Successive reads of a stream, any number of them with any prompts, take up stretches of what
arrives, one right behind the other. A stretch that ends with a newline gives the line with it; one
that ends with an end of file gives its bytes as a line, or the end of the input if there are none;
one that ends with a fault gives the fault and is dropped, whereas nothing else ever is. Without
faults the lines together are the bytes that the supply gives. And whatever is done in a session, in
any order, the words carried out by the loop are those of stretches that end with a newline or an
end of file. -/
theorem reads_account_for_bytes (h : Host σ) (s : Session σ StreamSource)
    (hc : 0 < s.source.supply.capacity) :
    (∀ texts, ∃ ps,
      Accounts s.source.supply.arrivals (readEach texts s.source).result ps
        (readEach texts s.source).after.supply.arrivals ∧
      (ps.flatMap fun p => p.result.bytes ++ p.dropped) = bytesOf (ps.flatMap Stretch.arrivals) ∧
      ∀ p ∈ ps,
        (∀ b, p.result = .line b → b ≠ [] ∧ newline ∉ b.dropLast ∧
          (b.getLast? ≠ some newline → p.ending = .endOfFile)) ∧
        (p.result = .endOfInput ↔ p.bytes = [] ∧ p.ending = .endOfFile) ∧
        (∀ f, p.result = .failed f ↔ p.ending = .fault f) ∧
        (∀ f, p.result = .failed f → p.dropped = p.bytes) ∧
        ((∀ f, p.result ≠ .failed f) → p.dropped = [])) ∧
    ((∀ f, .fault f ∉ s.source.supply.arrivals) → ∀ texts,
      (readEach texts s.source).result.flatMap ReadResult.bytes
          ++ bytesOf (readEach texts s.source).after.supply.arrivals = s.source.supply.content ∧
      (s.source.supply.arrivals.length ≤ texts.length →
        (readEach texts s.source).result.flatMap ReadResult.bytes = s.source.supply.content)) ∧
    ∀ calls j t, History h s calls j t → (∀ call ∈ calls, ∀ ws, call.1 ≠ .execute ws) →
      ∃ ps, Accounts s.source.supply.arrivals j.reads ps t.source.supply.arrivals ∧
        j.dispatches = j.reads.filterMap ReadResult.words? ∧
        ∀ ws ∈ j.dispatches, ∃ p ∈ ps, ∃ b, p.result = .line b ∧ ws = tokenize b ∧
          (b.getLast? = some newline ∧ p.ending = .newline ∨ p.ending = .endOfFile) := by
  refine ⟨fun texts => ?_, fun hfault texts => ?_, fun calls j t hist hcalls => ?_⟩
  · obtain ⟨ps, hps⟩ := StreamSource.exists_accounts hc texts
    refine ⟨ps, hps, ?_, fun p _ => ⟨fun b hb => ?_, p.result_eq_endOfInput_iff,
      p.result_eq_failed_iff, fun f hf => Stretch.dropped_of_failed hf,
      Stretch.dropped_of_not_failed⟩⟩
    · rw [bytesOf_flatMap]
      simp only [Stretch.bytes_result_append_dropped]
    · obtain ⟨hne, hinner, hlast⟩ := Stretch.of_result_eq_line hb
      refine ⟨hne, hinner, fun hnot => ?_⟩
      rcases hlast with ⟨hlast, _⟩ | ⟨_, hend⟩
      · exact absurd hlast hnot
      · exact hend
  · obtain ⟨ps, hps⟩ := StreamSource.exists_accounts hc texts
    have hlines := hps.lines_append hfault
    rw [Supply.bytesOf_arrivals s.source.supply] at hlines
    refine ⟨hlines, fun hlen => ?_⟩
    have hlength : (readEach texts s.source).result.length = texts.length := by
      rw [(StreamSource.readEach_eq texts s.source).1, Supply.length_firstLines]
    rwa [hps.bytesOf_left (by rwa [hlength]), List.append_nil] at hlines
  · obtain ⟨ps, hps⟩ := hist.exists_accounts hc
    obtain ⟨_, _, _, hlines⟩ := hist.exists_reads
    have hdispatches := hlines hcalls
    refine ⟨ps, hps, hdispatches, fun ws hws => ?_⟩
    rw [hdispatches] at hws
    exact hps.exists_stretch_of_words hws

/-- Input with an interruption in a line and an end of file behind another one; ten reads give all
of its bytes back. -/
theorem reads_account_for_bytes_of_pieces :
    let supply : Supply :=
      { script := [.bytes (utf8 "ls\nc"), .fault .interrupted, .bytes (utf8 "d"), .bytes [],
          .bytes (utf8 "x\n")]
        capacity := 3 }
    let s : Session Unit StreamSource :=
      { host := (), diagnostics := .unlimited
        source := { supply := supply, prompts := .unlimited } }
    let texts : List Bytes := List.replicate 10 prompt
    0 < supply.capacity ∧ (∀ f, .fault f ∉ supply.arrivals) ∧
      supply.arrivals.length ≤ texts.length ∧
      (readEach texts s.source).result.flatMap ReadResult.bytes = utf8 "ls\ncdx\n" := by
  intro supply s texts
  have hfault : ∀ f, .fault f ∉ supply.arrivals := by
    have harr : supply.arrivals
        = (utf8 "ls\ncd").map .byte ++ .endOfFile :: (utf8 "x\n").map .byte := by decide
    intro f hf
    simp [harr] at hf
  have hlen : supply.arrivals.length ≤ texts.length := by decide
  have hmain := reads_account_for_bytes Host.refusing s (by decide)
  exact ⟨by decide, hfault, hlen, (hmain.2.1 hfault texts).2 hlen⟩

end Session

end LineShell
