import LineShell.Proofs.Lines
import LineShell.Proofs.Loop
import Mathlib.Data.List.GetD

/-!
# The loop over a stream comes to its end

Interruptions, early ends of file and faults may come at any place of a script. A read all the same
gives a line of at least one byte, which is then missing from what the supply has to give, or it
stops the loop (`Supply.size_readLine_or_stops`). So there are at most as many lines as there are
bytes, and the loop ends with one read more at the latest (`loop_ends_within_bytes`), no matter what
its commands, prompts and diagnostics come to. Blank lines of one byte each take it that far.
-/

namespace LineShell

namespace Supply

/-- A request brings no bytes back. -/
theorem scriptSize_request_le (capacity : Nat) (script : List Delivery) :
    scriptSize (request capacity script).2 ≤ scriptSize script := by
  cases hr : (request capacity script).1 with
  | ok b =>
    have hsize := scriptSize_request capacity script hr
    omega
  | error f =>
    induction script with
    | nil => cases hr
    | cons d rest ih =>
      cases d with
      | bytes b => cases hr
      | fault g =>
        by_cases hg : g.isInterruption = true
        · simp only [request, hg, if_true] at hr ⊢
          have hrest := ih hr
          rw [scriptSize_cons]
          omega
        · simp [request, hg, Delivery.size]

/-- Neither does the reading of a line, whatever it ends with. -/
theorem size_readLineOnto_le (got : Bytes) (s : Supply) : (readLineOnto got s).2.size ≤ s.size := by
  fun_induction readLineOnto got s with
  | case1 got s hb f script hr =>
    have hscript := scriptSize_request_le s.capacity s.script
    rw [hr] at hscript
    exact Nat.add_le_add_right hscript _
  | case2 got s hb script hr =>
    have hscript := scriptSize_request_le s.capacity s.script
    rw [hr] at hscript
    exact Nat.add_le_add_right hscript _
  | case3 got s hb c cs script hr ih =>
    have hmoved := scriptSize_request s.capacity s.script (b := c :: cs) (by rw [hr])
    rw [hr] at hmoved
    refine Nat.le_trans ih ?_
    simp only [size, hb, List.length_nil] at hmoved ⊢
    omega
  | case4 got s hb c rest hd =>
    have hlength := List.length_dropWhile_le (fun x => decide (x ≠ newline)) s.buffer
    rw [hd, List.length_cons] at hlength
    simp only [size]
    omega
  | case5 got s hb hd ih =>
    refine Nat.le_trans ih ?_
    simp only [size, List.length_nil]
    omega

/-- A read gives a line of at least one byte, by which the supply gets smaller, or it stops the
loop. -/
theorem size_readLine_or_stops (s : Supply) :
    (∃ b, s.readLine.1 = .line b ∧ b ≠ [] ∧ s.readLine.2.size + b.length = s.size) ∨
      s.readLine.1.Stops := by
  cases hr : s.readLine.1 with
  | line b =>
    obtain ⟨hne, hsize⟩ := size_readLineOnto hr
    exact Or.inl ⟨b, rfl, hne, hsize⟩
  | endOfInput => exact Or.inr trivial
  | failed cause => exact Or.inr trivial

end Supply

namespace StreamSource

open LineReader (next result afterReads)

/-- Every read that does not stop the loop has used up a byte. -/
theorem add_size_afterReads_le (x : StreamSource) (n : Nat)
    (hn : ∀ m < n, ¬ (result x m).Stops) :
    n + (afterReads x n).supply.size ≤ x.supply.size := by
  induction n generalizing x with
  | zero => exact Nat.le_of_eq (Nat.zero_add _)
  | succ n ih =>
    have h0 : ¬ x.supply.readLine.1.Stops := hn 0 (Nat.succ_pos n)
    have hrest := ih (next x) fun m hm => hn (m + 1) (Nat.succ_lt_succ hm)
    obtain ⟨b, _, hne, hsize⟩ := x.supply.size_readLine_or_stops.resolve_right h0
    have hlength := List.length_pos_iff.2 hne
    have hnext : (next x).supply = x.supply.readLine.2 := rfl
    have hafter : afterReads x (n + 1) = afterReads (next x) n := rfl
    rw [hnext] at hrest
    rw [hafter]
    omega

/-- Up to a first stop there is at most one read more than bytes have been used up. -/
theorem FirstStop.add_size_le {x : StreamSource} {n : Nat} (hn : LineReader.FirstStop x n) :
    n + 1 + (afterReads x (n + 1)).supply.size ≤ x.supply.size + 1 := by
  have hbefore := x.add_size_afterReads_le n hn.2
  have hlast := Supply.size_readLineOnto_le [] (afterReads x n).supply
  have hafter : (afterReads x (n + 1)).supply = (afterReads x n).supply.readLine.2 := by
    rw [LineReader.afterReads_add]
    rfl
  rw [hafter]
  unfold Supply.readLine
  omega

/-- A stream of blank lines, each of them delivered on its own. -/
def ofBlankLines (k : Nat) : StreamSource where
  supply := { script := List.replicate k (.bytes [newline]) }
  prompts := .unlimited

theorem size_ofBlankLines (k : Nat) : (ofBlankLines k).supply.size = k := by
  have hscript : Supply.scriptSize (List.replicate k (.bytes [newline])) = k := by
    induction k with
    | zero => rfl
    | succ k ih =>
      rw [List.replicate_succ, Supply.scriptSize_cons, ih]
      exact Nat.add_comm 1 k
  exact hscript

theorem answers_ofBlankLines (k : Nat) :
    LineReader.Answers (ofBlankLines k) (List.replicate k (.line [newline])) := by
  have hlines : lines (ofBlankLines k).supply.content = List.replicate k [newline] := by
    induction k with
    | zero => rfl
    | succ k ih => exact (lines_newline _).trans (congrArg ([newline] :: ·) ih)
  have hcapacity : 0 < (ofBlankLines k).supply.capacity := Nat.succ_pos 8191
  have hundisturbed : (ofBlankLines k).supply.Undisturbed := by
    intro d hd
    rw [List.eq_of_mem_replicate hd]
    rfl
  have hanswers := answers_lines (s := ofBlankLines k) hcapacity hundisturbed
  rwa [hlines, List.map_replicate] at hanswers

/-- Blank lines are all read, and the end of the input behind them. -/
theorem firstStop_ofBlankLines (k : Nat) : LineReader.FirstStop (ofBlankLines k) k := by
  have hresult := answers_ofBlankLines k
  refine ⟨?_, fun m hm => ?_⟩
  · rw [hresult, List.getD_eq_default _ _ (by simp)]
    trivial
  · rw [hresult, List.getD_eq_getElem _ _ (by simpa using hm), List.getElem_replicate]
    decide

end StreamSource

namespace Session

open LineReader (result afterReads)

variable {σ : Type} (h : Host σ)

theorem length_reads_repl_le (s : Session σ StreamSource) :
    (s.repl h).after.state ≠ .running ∧
      (s.repl h).journal.reads.length + (s.repl h).after.source.supply.size
        ≤ s.source.supply.size + 1 := by
  cases hs : s.state with
  | stopped d =>
    have hidle := (completes_iff_of_stopped h hs).1 (completes_repl h s)
    rw [hidle]
    exact ⟨by simp [hs], by simp⟩
  | running =>
    obtain ⟨n, hn, hrepl⟩ := exists_repl_eq h hs
    have hreads : (s.repl h).journal.reads.length = n + 1 := by
      rw [reads_repl h hs hn, LineReader.length_results]
    have hsource : (s.repl h).after.source = afterReads s.source (n + 1) := by
      rw [hrepl]
      exact source_steps h hs n hn.2
    have hstate : (s.repl h).after.state ≠ .running := by
      rw [hrepl]
      simp only [state_steps h hs n hn.2]
      exact fun hrun => (ReadResult.nextState_eq_running_iff _).1 hrun hn.1
    have hbound := StreamSource.FirstStop.add_size_le hn
    rw [← hsource, ← hreads] at hbound
    exact ⟨hstate, hbound⟩

/-- **The loop over a stream ends, with at most one read more than the supply has bytes to give.**
Take any session over a stream, whatever its deliveries and the capacity of its buffer are: with
interruptions, faults and ends of file at any place. Every read gives a line of at least one byte,
which the supply then lacks, or it stops the loop. The loop ends, the way `repl` computes it; the
session is then stopped, and no more reads have been made than bytes have been used up, and one.
There is no better bound: a stream may have any number of bytes and take one read more. -/
theorem loop_ends_within_bytes (s : Session σ StreamSource) :
    (∀ (text : Bytes) (x : StreamSource),
      (∃ b, (LineReader.readLine text x).result = .line b ∧ b ≠ [] ∧
        (LineReader.readLine text x).after.supply.size + b.length = x.supply.size) ∨
      (LineReader.readLine text x).result.Stops) ∧
    (∃ act, Completes h s act ∧ act = s.repl h ∧ act.after.state ≠ .running ∧
      act.journal.reads.length + act.after.source.supply.size ≤ s.source.supply.size + 1 ∧
      act.journal.reads.length ≤ s.source.supply.size + 1) ∧
    ∀ k, ∃ x : StreamSource, x.supply.size = k ∧
      (repl h { s with state := .running, source := x }).journal.reads.length = k + 1 := by
  obtain ⟨hstate, hbound⟩ := length_reads_repl_le h s
  refine ⟨fun text x => x.supply.size_readLine_or_stops, ?_, fun k => ?_⟩
  · exact ⟨s.repl h, completes_repl h s, rfl, hstate, hbound,
      Nat.le_trans (Nat.le_add_right _ _) hbound⟩
  · refine ⟨.ofBlankLines k, StreamSource.size_ofBlankLines k, ?_⟩
    rw [reads_repl h rfl (StreamSource.firstStop_ofBlankLines k), LineReader.length_results]

end Session

end LineShell
