import LineShell.Shell

/-!
# Successive reads

What a reader of lines gives in the end is a sequence of results. The loop looks at no more of it
than the first result that stops it: the end of the input, a fault, or a line whose first word is
`exit`.
-/

namespace LineShell

namespace ReadResult

/-- Whether the loop stops at the result of a read. -/
def Stops : ReadResult → Prop
  | line b => (tokenize b).head? = some (utf8 "exit")
  | endOfInput => True
  | failed _ => True

instance : DecidablePred Stops
  | line b => inferInstanceAs (Decidable ((tokenize b).head? = some (utf8 "exit")))
  | endOfInput => inferInstanceAs (Decidable True)
  | failed _ => inferInstanceAs (Decidable True)

/-- The state of the loop behind the result of a read. -/
def nextState : ReadResult → LoopState
  | line b => if (tokenize b).head? = some (utf8 "exit") then .stopped .clean else .running
  | endOfInput => .stopped .clean
  | failed _ => .stopped .failed

/-- The words that the result of a read has carried out. -/
def words? : ReadResult → Option (List Bytes)
  | line b => some (tokenize b)
  | endOfInput => none
  | failed _ => none

/-- The error that the loop makes of the result of a read. -/
def error? : ReadResult → Option ShellError
  | line _ => none
  | endOfInput => none
  | failed cause => some (.read cause)

/-- What the loop returns when the result of a read has stopped it. -/
def ending (r : ReadResult) : Except ShellError Unit :=
  match r.error? with
  | some e => .error e
  | none => .ok ()

theorem nextState_eq_running_iff (r : ReadResult) : r.nextState = .running ↔ ¬ r.Stops := by
  cases r with
  | line b => by_cases hb : (tokenize b).head? = some (utf8 "exit") <;> simp [nextState, Stops, hb]
  | endOfInput => simp [nextState, Stops]
  | failed cause => simp [nextState, Stops]

/-- Only a line keeps the loop going. -/
theorem exists_line_of_not_stops {r : ReadResult} (hr : ¬ r.Stops) :
    ∃ b, r = .line b ∧ (tokenize b).head? ≠ some (utf8 "exit") := by
  cases r with
  | line b => exact ⟨b, rfl, hr⟩
  | endOfInput => exact absurd trivial hr
  | failed cause => exact absurd trivial hr

end ReadResult

namespace LineReader

variable {ι κ : Type} [LineReader ι] [LineReader κ]

/-- The reader behind one read. -/
def next (s : ι) : ι :=
  (readLine prompt s).after

/-- The reader behind a number of reads. -/
def afterReads (s : ι) : Nat → ι
  | 0 => s
  | n + 1 => afterReads (next s) n

/-- The result of a read, the first one having the number 0. -/
def result (s : ι) (n : Nat) : ReadResult :=
  (readLine prompt (afterReads s n)).result

/-- The results of the first reads. -/
def results (s : ι) : Nat → List ReadResult
  | 0 => []
  | n + 1 => result s 0 :: results (next s) n

/-- Successive reads, each with a prompt of its own. -/
def readEach : List Bytes → ι → Act (List ReadResult) ι
  | [], s => ⟨[], [], s⟩
  | text :: texts, s =>
    let first := readLine text s
    let rest := readEach texts first.after
    ⟨first.result :: rest.result, first.journal ++ rest.journal, rest.after⟩

/-- The read with the number `n` is the first one that stops the loop. -/
def FirstStop (s : ι) (n : Nat) : Prop :=
  (result s n).Stops ∧ ∀ m < n, ¬ (result s m).Stops

/-- Two readers give the same results, up to the first one that stops the loop. -/
def SameResults (s : ι) (t : κ) : Prop :=
  ∀ n, (∀ m < n, ¬ (result s m).Stops) → result s n = result t n

/-- A reader answers from a list, and with the end of the input after it. -/
def Answers (s : ι) (l : List ReadResult) : Prop :=
  ∀ n, result s n = l.getD n .endOfInput

theorem afterReads_add (s : ι) (m n : Nat) :
    afterReads s (m + n) = afterReads (afterReads s m) n := by
  induction m generalizing s with
  | zero => rw [Nat.zero_add]; rfl
  | succ m ih => rw [Nat.succ_add]; exact ih (next s)

theorem result_afterReads (s : ι) (m n : Nat) : result (afterReads s m) n = result s (m + n) := by
  unfold result
  rw [afterReads_add]

@[simp] theorem length_results (s : ι) (n : Nat) : (results s n).length = n := by
  induction n generalizing s with
  | zero => rfl
  | succ n ih => simp [results, ih]

theorem results_eq_map_range (s : ι) (n : Nat) :
    results s n = (List.range n).map (result s) := by
  induction n generalizing s with
  | zero => rfl
  | succ n ih =>
    rw [List.range_succ_eq_map, List.map_cons, List.map_map]
    simp only [results, ih]
    rfl

theorem results_eq_readEach (s : ι) (n : Nat) :
    results s n = (readEach (List.replicate n prompt) s).result := by
  induction n generalizing s with
  | zero => rfl
  | succ n ih =>
    rw [results, ih, List.replicate_succ]
    rfl

theorem results_succ_eq_append (s : ι) (n : Nat) :
    results s (n + 1) = results s n ++ [result s n] := by
  simp [results_eq_map_range, List.range_succ]

theorem results_add (s : ι) (m n : Nat) :
    results s (m + n) = results s m ++ results (afterReads s m) n := by
  induction m generalizing s with
  | zero => rw [Nat.zero_add]; rfl
  | succ m ih =>
    rw [Nat.succ_add]
    simp only [results, ih (next s), List.cons_append]
    rfl

/-! ## The first stop -/

theorem FirstStop.unique {s : ι} {m n : Nat} (hm : FirstStop s m) (hn : FirstStop s n) : m = n := by
  refine Nat.le_antisymm ?_ ?_
  · exact Nat.le_of_not_lt fun hlt => hm.2 n hlt hn.1
  · exact Nat.le_of_not_lt fun hlt => hn.2 m hlt hm.1

theorem firstStop_zero {s : ι} : FirstStop s 0 ↔ (result s 0).Stops := by
  constructor
  · intro h
    exact h.1
  · intro h
    exact ⟨h, fun m hm => absurd hm (Nat.not_lt_zero m)⟩

theorem firstStop_succ {s : ι} {n : Nat} :
    FirstStop s (n + 1) ↔ ¬ (result s 0).Stops ∧ FirstStop (next s) n := by
  constructor
  · rintro ⟨hstop, hbefore⟩
    exact ⟨hbefore 0 (Nat.succ_pos n), hstop, fun m hm => hbefore (m + 1) (Nat.succ_lt_succ hm)⟩
  · rintro ⟨h0, hstop, hbefore⟩
    refine ⟨hstop, fun m hm => ?_⟩
    cases m with
    | zero => exact h0
    | succ m => exact hbefore m (Nat.lt_of_succ_lt_succ hm)

/-- Where there is a read that stops the loop there is a first one. -/
theorem exists_firstStop {s : ι} {n : Nat} (hn : (result s n).Stops) : ∃ m, FirstStop s m := by
  induction n generalizing s with
  | zero => exact ⟨0, firstStop_zero.2 hn⟩
  | succ n ih =>
    by_cases h0 : (result s 0).Stops
    · exact ⟨0, firstStop_zero.2 h0⟩
    · have hrest : (result (next s) n).Stops := hn
      obtain ⟨m, hm⟩ := ih hrest
      exact ⟨m + 1, firstStop_succ.2 ⟨h0, hm⟩⟩

/-- No read before the first stop has stopped the loop. -/
theorem FirstStop.not_stops_of_mem {s : ι} {n : Nat} (hn : FirstStop s n) :
    ∀ r ∈ results s n, ¬ r.Stops := by
  intro r hr
  rw [results_eq_map_range] at hr
  obtain ⟨m, hm, rfl⟩ := List.mem_map.1 hr
  exact hn.2 m (List.mem_range.1 hm)

/-! ## Readers with the same results -/

theorem SameResults.result_eq {s : ι} {t : κ} (h : SameResults s t) {n : Nat}
    (hn : ∀ m < n, ¬ (result s m).Stops) : ∀ m ≤ n, result s m = result t m := by
  intro m hm
  exact h m fun k hk => hn k (Nat.lt_of_lt_of_le hk hm)

theorem SameResults.results_eq {s : ι} {t : κ} (h : SameResults s t) {n : Nat}
    (hn : ∀ m < n, ¬ (result s m).Stops) : results s (n + 1) = results t (n + 1) := by
  rw [results_eq_map_range, results_eq_map_range]
  refine List.map_congr_left fun m hm => ?_
  exact h.result_eq hn m (Nat.le_of_lt_succ (List.mem_range.1 hm))

theorem SameResults.nextState_eq {s : ι} {t : κ} (h : SameResults s t) {n : Nat}
    (hn : ∀ m < n, ¬ (result s m).Stops) : (result s n).nextState = (result t n).nextState :=
  congrArg ReadResult.nextState (h n hn)

theorem SameResults.symm {s : ι} {t : κ} (h : SameResults s t) : SameResults t s := by
  intro n
  induction n using Nat.strongRecOn with
  | ind n ih =>
    intro hn
    refine (h n fun m hm => ?_).symm
    have heq := ih m hm fun k hk => hn k (Nat.lt_trans hk hm)
    rw [← heq]
    exact hn m hm

/-- Behind a result that does not stop the loop the results stay the same. -/
theorem SameResults.next {s : ι} {t : κ} (h : SameResults s t) (h0 : ¬ (result s 0).Stops) :
    SameResults (next s) (next t) := by
  intro n hn
  refine h (n + 1) fun m hm => ?_
  cases m with
  | zero => exact h0
  | succ m => exact hn m (Nat.lt_of_succ_lt_succ hm)

theorem SameResults.firstStop {s : ι} {t : κ} (h : SameResults s t) {n : Nat}
    (hs : FirstStop s n) : FirstStop t n := by
  have heq := h.result_eq hs.2
  refine ⟨?_, fun m hm => ?_⟩
  · rw [← heq n (Nat.le_refl n)]
    exact hs.1
  · rw [← heq m (Nat.le_of_lt hm)]
    exact hs.2 m hm

/-! ## Readers that answer from a list -/

theorem Answers.next {s : ι} {r : ReadResult} {l : List ReadResult} (h : Answers s (r :: l)) :
    Answers (next s) l := fun n => h (n + 1)

theorem Answers.afterReads {s : ι} {l : List ReadResult} (h : Answers s l) (n : Nat) :
    Answers (afterReads s n) (l.drop n) := by
  intro m
  rw [result_afterReads, h (n + m)]
  simp [List.getD_eq_getElem?_getD]

end LineReader

/-- A listed source answers from its list. -/
theorem ListedSource.answers (l : List ReadResult) :
    LineReader.Answers (ListedSource.mk l) l := by
  intro n
  induction n generalizing l with
  | zero => cases l <;> rfl
  | succ n ih =>
    cases l with
    | nil => exact ih []
    | cons r rest => exact ih rest

end LineShell
