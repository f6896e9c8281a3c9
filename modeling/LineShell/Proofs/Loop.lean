import LineShell.Proofs.Step
import Mathlib.Data.List.Basic

/-!
# The loop

The loop makes steps until the session has stopped. On a reader that may go on for ever it need not
come to an end; `Completes` says how it ends if it does, and on a source it is what `repl` computes
(`completes_iff_eq_repl`). A running loop ends with the first read that stops it
(`completes_iff_firstStop`), whatever the operating system and the sink for diagnostics do.
-/

namespace LineShell

namespace Session

open LineReader (next result results afterReads FirstStop)

variable {σ ι : Type}

section Definitions

variable [LineReader ι] (p : Platform σ)

/-- Make a number of steps. -/
def steps : Nat → Session σ ι → Act (List (Except ShellError LoopState)) (Session σ ι)
  | 0, s => ⟨[], [], s⟩
  | n + 1, s =>
    let first := step p s
    let rest := steps n first.after
    ⟨first.result :: rest.result, first.journal ++ rest.journal, rest.after⟩

/-- How the loop from a session ends, if it ends. -/
inductive Completes : Session σ ι → Act (Except ShellError Unit) (Session σ ι) → Prop where
  /-- Once stopped, it ends at once. -/
  | stopped {s} (hs : s.state ≠ .running) : Completes s ⟨.ok (), [], s⟩
  /-- It ends with a step that fails. -/
  | failed {s e} (hs : s.state = .running) (he : (step p s).result = .error e) :
    Completes s ⟨.error e, (step p s).journal, (step p s).after⟩
  /-- It goes on behind a step that does not fail. -/
  | next {s st act} (hs : s.state = .running) (ho : (step p s).result = .ok st)
    (hrest : Completes (step p s).after act) :
    Completes s ⟨act.result, (step p s).journal ++ act.journal, act.after⟩

end Definitions

section Platform

variable [LineReader ι] (p : Platform σ)

/-! ## A number of steps -/

theorem after_steps_succ (n : Nat) (s : Session σ ι) :
    (steps p (n + 1) s).after = (steps p n (step p s).after).after := rfl

theorem journal_steps_succ (n : Nat) (s : Session σ ι) :
    (steps p (n + 1) s).journal
      = (step p s).journal ++ (steps p n (step p s).after).journal := rfl

theorem journal_steps_succ_last (n : Nat) (s : Session σ ι) :
    (steps p (n + 1) s).journal
      = (steps p n s).journal ++ (step p (steps p n s).after).journal := by
  induction n generalizing s with
  | zero => simp [steps]
  | succ n ih => rw [journal_steps_succ, ih, journal_steps_succ, List.append_assoc]; rfl

theorem after_steps_succ_last (n : Nat) (s : Session σ ι) :
    (steps p (n + 1) s).after = (step p (steps p n s).after).after := by
  induction n generalizing s with
  | zero => rfl
  | succ n ih => rw [after_steps_succ, ih, after_steps_succ]

/-- A stopped session stays as it is. -/
theorem steps_of_stopped {s : Session σ ι} {d : Disposition} (hs : s.state = .stopped d) (n : Nat) :
    steps p n s = ⟨List.replicate n (.ok (.stopped d)), [], s⟩ := by
  induction n with
  | zero => rfl
  | succ n ih => simp [steps, step_of_stopped p hs, ih, List.replicate_succ]

/-! ## The end of the loop -/

theorem Completes.unique {p : Platform σ} {s : Session σ ι}
    {act act' : Act (Except ShellError Unit) (Session σ ι)}
    (hact : Completes p s act) (hact' : Completes p s act') : act = act' := by
  induction hact generalizing act' with
  | stopped hs =>
    cases hact' with
    | stopped _ => rfl
    | failed hs' _ => exact absurd hs' hs
    | next hs' _ _ => exact absurd hs' hs
  | failed hs he =>
    cases hact' with
    | stopped hs' => exact absurd hs hs'
    | failed _ he' =>
      rw [he] at he'
      cases he'
      rfl
    | next _ ho' _ =>
      rw [he] at ho'
      cases ho'
  | next hs ho _ ih =>
    cases hact' with
    | stopped hs' => exact absurd hs hs'
    | failed _ he' =>
      rw [ho] at he'
      cases he'
    | next _ _ hrest' => rw [ih hrest']

theorem completes_iff_of_stopped {s : Session σ ι} {d : Disposition} (hs : s.state = .stopped d)
    {act : Act (Except ShellError Unit) (Session σ ι)} :
    Completes p s act ↔ act = ⟨.ok (), [], s⟩ := by
  have hend : Completes p s ⟨.ok (), [], s⟩ := .stopped (by rw [hs]; simp)
  constructor
  · intro hact
    exact Completes.unique hact hend
  · rintro rfl
    exact hend

end Platform

section Source

variable [LineSource ι] (p : Platform σ)

theorem completes_repl (s : Session σ ι) : Completes p s (repl p s) := by
  fun_induction repl p s with
  | case1 s hs first e he => exact .failed hs he
  | case2 s hs first st ho ha rest ih => exact .next hs ho ih
  | case3 s hs first st ho ha =>
    have hnext := Completes.next hs ho (.stopped ha)
    rwa [List.append_nil] at hnext
  | case4 s hs => exact .stopped hs

/-- On a source the loop always ends, the way `repl` says. -/
theorem completes_iff_eq_repl {p : Platform σ} {s : Session σ ι}
    {act : Act (Except ShellError Unit) (Session σ ι)} :
    Completes p s act ↔ act = repl p s := by
  constructor
  · intro hact
    exact Completes.unique hact (completes_repl p s)
  · rintro rfl
    exact completes_repl p s

end Source

section Reader

variable [LineReader ι] (h : Host σ)

/-! ## Steps on a host -/

/-- What is ordered is all that the host hears of a number of steps. -/
theorem host_steps (n : Nat) (s : Session σ ι) :
    (steps h n s).after.host = (steps h n s).journal.orders.foldl h.serve s.host := by
  induction n generalizing s with
  | zero => rfl
  | succ n ih =>
    rw [after_steps_succ, journal_steps_succ, Journal.orders_append, List.foldl_append, ih,
      host_step h s]

section Running

variable {s : Session σ ι} (hs : s.state = .running)

include hs

/-- A step behind which the loop goes on leaves the session running. -/
theorem running_step (h0 : ¬ (result s.source 0).Stops) : (step h s).after.state = .running := by
  rw [state_step h hs]
  exact (ReadResult.nextState_eq_running_iff _).2 h0

/-- Behind one of several reads that do not stop the loop, the session runs and the others are to
come. -/
theorem goesOn_step {n : Nat} (hn : ∀ m < n + 1, ¬ (result s.source m).Stops) :
    (step h s).after.state = .running ∧ ∀ m < n, ¬ (result (step h s).after.source m).Stops := by
  refine ⟨running_step h hs (hn 0 (Nat.succ_pos n)), fun m hm => ?_⟩
  rw [source_step h hs]
  exact hn (m + 1) (Nat.succ_lt_succ hm)

/-- What one step shows of each read, the steps show of all reads up to one before which none has
stopped the loop. -/
theorem view_steps {α : Type} {view : Journal → List α} {shown : ReadResult → List α}
    (happend : ∀ j k, view (j ++ k) = view j ++ view k)
    (hstep : ∀ t : Session σ ι, t.state = .running →
      view (step h t).journal = shown (result t.source 0))
    (n : Nat) (hn : ∀ m < n, ¬ (result s.source m).Stops) :
    view (steps h (n + 1) s).journal = (results s.source (n + 1)).flatMap shown := by
  induction n generalizing s with
  | zero => simp [steps, results, hstep s hs]
  | succ n ih =>
    obtain ⟨hrun, hn⟩ := goesOn_step h hs hn
    have hrest := ih hrun hn
    rw [journal_steps_succ, happend, hstep s hs, hrest, source_step h hs]
    rfl

theorem reads_steps (n : Nat) (hn : ∀ m < n, ¬ (result s.source m).Stops) :
    (steps h (n + 1) s).journal.reads = results s.source (n + 1) := by
  have hview : (steps h (n + 1) s).journal.reads
      = (results s.source (n + 1)).flatMap fun r => [r] :=
    view_steps h hs Journal.reads_append (fun _ ht => reads_step h ht) n hn
  rw [hview, List.flatMap_singleton']

theorem dispatches_steps (n : Nat) (hn : ∀ m < n, ¬ (result s.source m).Stops) :
    (steps h (n + 1) s).journal.dispatches
      = (results s.source (n + 1)).filterMap ReadResult.words? := by
  rw [List.filterMap_eq_flatMap_toList]
  exact view_steps h hs Journal.dispatches_append (fun _ ht => dispatches_step h ht) n hn

theorem orders_steps (n : Nat) (hn : ∀ m < n, ¬ (result s.source m).Stops) :
    (steps h (n + 1) s).journal.orders = (results s.source (n + 1)).flatMap ReadResult.orders :=
  view_steps h hs Journal.orders_append (fun _ ht => orders_step h ht) n hn

theorem source_steps (n : Nat) (hn : ∀ m < n, ¬ (result s.source m).Stops) :
    (steps h (n + 1) s).after.source = afterReads s.source (n + 1) := by
  induction n generalizing s with
  | zero => exact source_step h hs
  | succ n ih =>
    obtain ⟨hrun, hn⟩ := goesOn_step h hs hn
    rw [after_steps_succ, ih hrun hn, source_step h hs]
    rfl

theorem state_steps (n : Nat) (hn : ∀ m < n, ¬ (result s.source m).Stops) :
    (steps h (n + 1) s).after.state = (result s.source n).nextState := by
  induction n generalizing s with
  | zero => exact state_step h hs
  | succ n ih =>
    obtain ⟨hrun, hn⟩ := goesOn_step h hs hn
    rw [after_steps_succ, ih hrun hn, source_step h hs]
    rfl

/-- Before the first read that stops the loop, the session runs and has the reads behind it. -/
theorem after_steps_of_not_stops (n : Nat) (hn : ∀ m < n, ¬ (result s.source m).Stops) :
    (steps h n s).after.state = .running ∧ (steps h n s).after.source = afterReads s.source n := by
  cases n with
  | zero => exact ⟨hs, rfl⟩
  | succ n =>
    have hlt : ∀ m < n, ¬ (result s.source m).Stops := fun m hm => hn m (Nat.lt_succ_of_lt hm)
    refine ⟨?_, source_steps h hs n hlt⟩
    rw [state_steps h hs n hlt]
    exact (ReadResult.nextState_eq_running_iff _).2 (hn n (Nat.lt_succ_self n))

end Running

/-- The results of the reads decide the states, step by step, and nothing else does. -/
theorem state_steps_eq {τ κ : Type} [LineReader κ] (k : Host τ) {s : Session σ ι} {t : Session τ κ}
    (hs : s.state = .running) (ht : t.state = .running)
    (hst : ∀ {n}, (∀ m < n, ¬ (result s.source m).Stops) →
      (result s.source n).nextState = (result t.source n).nextState) (n : Nat) :
    (steps h n s).after.state = (steps k n t).after.state := by
  induction n generalizing s t with
  | zero => exact hs.trans ht.symm
  | succ n ih =>
    have hs1 := state_step h hs
    have ht1 := state_step k ht
    have heq : (result s.source 0).nextState = (result t.source 0).nextState :=
      hst fun m hm => absurd hm (Nat.not_lt_zero m)
    rw [← heq] at ht1
    rw [after_steps_succ, after_steps_succ]
    cases hnext : (result s.source 0).nextState with
    | running =>
      rw [hnext] at hs1 ht1
      refine ih hs1 ht1 fun {m} hm => ?_
      rw [source_step h hs] at hm
      rw [source_step h hs, source_step k ht]
      refine hst (n := m + 1) fun l hl => ?_
      cases l with
      | zero => exact (ReadResult.nextState_eq_running_iff _).1 hnext
      | succ l => exact hm l (Nat.lt_of_succ_lt_succ hl)
    | stopped d =>
      rw [hnext] at hs1 ht1
      rw [steps_of_stopped h hs1, steps_of_stopped k ht1]
      exact hs1.trans ht1.symm

/-! ## The first stop -/

/-- The loop ends with the first read that stops it. -/
theorem completes_of_firstStop {s : Session σ ι} (hs : s.state = .running) {n : Nat}
    (hn : FirstStop s.source n) :
    Completes h s
      ⟨(result s.source n).ending, (steps h (n + 1) s).journal, (steps h (n + 1) s).after⟩ := by
  induction n generalizing s with
  | zero =>
    have hstop := LineReader.firstStop_zero.1 hn
    have hres := result_step h hs
    simp only [steps, List.append_nil]
    unfold ReadResult.ending
    cases he : (result s.source 0).error? with
    | some e =>
      rw [he] at hres
      exact .failed hs hres
    | none =>
      rw [he] at hres
      have hdone : (step h s).after.state ≠ .running := by
        rw [state_step h hs]
        exact fun hrun => (ReadResult.nextState_eq_running_iff _).1 hrun hstop
      have hnext := Completes.next hs hres (.stopped hdone)
      rwa [List.append_nil] at hnext
  | succ n ih =>
    obtain ⟨h0, hn⟩ := LineReader.firstStop_succ.1 hn
    have hrun := running_step h hs h0
    obtain ⟨b, hb, _⟩ := ReadResult.exists_line_of_not_stops h0
    have hres := result_step h hs
    rw [hb] at hres
    rw [← source_step h hs] at hn
    have hrest := ih hrun hn
    rw [source_step h hs] at hrest
    exact Completes.next hs hres hrest

/-- A loop that ends has met a read that stops it. -/
theorem Completes.exists_firstStop {s : Session σ ι}
    {act : Act (Except ShellError Unit) (Session σ ι)} (hact : Completes h s act)
    (hs : s.state = .running) : ∃ n, FirstStop s.source n := by
  induction hact with
  | stopped hs' => exact absurd hs hs'
  | @failed s e _ he =>
    refine ⟨0, LineReader.firstStop_zero.2 ?_⟩
    by_cases h0 : (result s.source 0).Stops
    · exact h0
    · obtain ⟨b, hb, _⟩ := ReadResult.exists_line_of_not_stops h0
      have hres := result_step h hs
      rw [hb, he] at hres
      cases hres
  | @next s st act _ _ _ ih =>
    by_cases h0 : (result s.source 0).Stops
    · exact ⟨0, LineReader.firstStop_zero.2 h0⟩
    · obtain ⟨n, hn⟩ := ih (running_step h hs h0)
      rw [source_step h hs] at hn
      exact ⟨n + 1, LineReader.firstStop_succ.2 ⟨h0, hn⟩⟩

/-- A running loop ends exactly with the first read that stops it, if there is one. -/
theorem completes_iff_firstStop {s : Session σ ι} (hs : s.state = .running)
    {act : Act (Except ShellError Unit) (Session σ ι)} :
    Completes h s act ↔ ∃ n, FirstStop s.source n ∧
      act = ⟨(result s.source n).ending, (steps h (n + 1) s).journal,
        (steps h (n + 1) s).after⟩ := by
  constructor
  · intro hact
    obtain ⟨n, hn⟩ := Completes.exists_firstStop h hact hs
    exact ⟨n, hn, Completes.unique hact (completes_of_firstStop h hs hn)⟩
  · rintro ⟨n, hn, rfl⟩
    exact completes_of_firstStop h hs hn

end Reader

/-! ## On a source -/

section Source

variable [LineSource ι] (h : Host σ)

theorem exists_repl_eq {s : Session σ ι} (hs : s.state = .running) :
    ∃ n, FirstStop s.source n ∧
      repl h s = ⟨(result s.source n).ending, (steps h (n + 1) s).journal,
        (steps h (n + 1) s).after⟩ :=
  (completes_iff_firstStop h hs).1 (completes_repl h s)

section FirstStop

variable {s : Session σ ι} (hs : s.state = .running) {n : Nat} (hn : FirstStop s.source n)

include hs hn

theorem repl_eq : repl h s = ⟨(result s.source n).ending, (steps h (n + 1) s).journal,
    (steps h (n + 1) s).after⟩ := by
  obtain ⟨m, hm, hrepl⟩ := exists_repl_eq h hs
  obtain rfl := hn.unique hm
  exact hrepl

/-- The reads of a run are those up to its first stop. -/
theorem reads_repl : (repl h s).journal.reads = results s.source (n + 1) := by
  rw [repl_eq h hs hn]
  exact reads_steps h hs n hn.2

/-- The words of the lines among them are carried out. -/
theorem dispatches_repl :
    (repl h s).journal.dispatches = (results s.source (n + 1)).filterMap ReadResult.words? := by
  rw [repl_eq h hs hn]
  exact dispatches_steps h hs n hn.2

end FirstStop

end Source

end Session

end LineShell
