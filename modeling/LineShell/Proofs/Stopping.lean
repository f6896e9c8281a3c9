import LineShell.Program
import LineShell.Proofs.Loop

/-!
# Where the loop stops

The loop consumes what its source gives up to the first result that stops it and leaves the rest.
Then it has stopped, cleanly or because a read failed, and the program's exit code says which.
-/

namespace LineShell

namespace Session

open LineReader (result results afterReads Answers FirstStop)

variable {σ ι : Type}

/-- The line that tells of a read that failed. -/
def readFailureLine (cause : Fault) : Bytes :=
  utf8 "$: readline: " ++ cause.message ++ utf8 "\n"

theorem diagnosticLine_read (cause : Fault) :
    diagnosticLine (ShellError.read cause).message = readFailureLine cause := by
  have hmark : utf8 "$: readline: " = utf8 "$: " ++ utf8 "readline: " := by decide
  simp only [diagnosticLine, ShellError.message_read, readFailureLine, hmark, List.append_assoc]

/-- How the loop ends on a source that answers from the list `l`: it consumes the results `before`,
none of which stops it, and `last`, which does. -/
structure EndsWith [LineSource ι] (h : Host σ) (s : Session σ ι) (l before : List ReadResult)
    (last : ReadResult) : Prop where
  /-- They are the shortest part that ends with a stop, of the list and the end of input after
  it. -/
  isPrefix : ∃ rest, l ++ [.endOfInput] = before ++ last :: rest
  goesOn : ∀ r ∈ before, ¬ r.Stops
  stops : last.Stops
  /-- These reads are made and no other ones. -/
  reads : (s.repl h).journal.reads = before ++ [last]
  source : (s.repl h).after.source = afterReads s.source (before.length + 1)
  /-- The source still has the rest of the list to give. -/
  unread : Answers (s.repl h).after.source (l.drop (before.length + 1))
  /-- The words of every line are carried out, in order. -/
  dispatches : (s.repl h).journal.dispatches = (before ++ [last]).filterMap ReadResult.words?
  notRunning : (s.repl h).after.state ≠ .running
  /-- Any stop but a fault is clean. -/
  clean : (∀ cause, last ≠ .failed cause) →
    (s.repl h).result = .ok () ∧ (s.repl h).after.state = .stopped .clean ∧
      (s.repl h).after.state.exitCode = 0
  /-- A fault is returned; that it is told is the last that is done. -/
  failed : ∀ cause, last = .failed cause →
    (s.repl h).result = .error (.read cause) ∧ (s.repl h).after.state = .stopped .failed ∧
      (s.repl h).after.state.exitCode = 1 ∧
      (s.repl h).journal.diagnosed.getLast? = some (readFailureLine cause) ∧
      ∃ j kept lost,
        (s.repl h).journal
          = j ++ .read (.failed cause) :: .logged (.readFailed cause)
              :: .diagnosed (readFailureLine cause) kept :: lost ∧
        ∀ e ∈ lost, ∃ f, e = .logged (.diagnosticLost f)

/-- A report is its line, and perhaps a note that the line was lost. -/
theorem report_eq (message : List Bytes) (sink : Sink) :
    ∃ kept lost,
      (report message sink).1 = .diagnosed (diagnosticLine message.flatten) kept :: lost ∧
      ∀ e ∈ lost, ∃ f, e = .logged (.diagnosticLost f) := by
  refine ⟨_, _, rfl, fun e he => ?_⟩
  simp only [Option.mem_toList, Option.map_eq_some_iff] at he
  obtain ⟨f, _, rfl⟩ := he
  exact ⟨f, rfl⟩

/-- The journal of steps the last of which has failed to read. -/
theorem journal_steps_of_failed [LineReader ι] (h : Host σ) {s : Session σ ι}
    (hs : s.state = .running) {n : Nat} (hn : FirstStop s.source n) {cause : Fault}
    (hlast : result s.source n = .failed cause) :
    ∃ j kept lost,
      (steps h (n + 1) s).journal
        = j ++ .read (.failed cause) :: .logged (.readFailed cause)
            :: .diagnosed (readFailureLine cause) kept :: lost ∧
      ∀ e ∈ lost, ∃ f, e = .logged (.diagnosticLost f) := by
  obtain ⟨hrun, hsource⟩ := after_steps_of_not_stops h hs n hn.2
  have hres : result (steps h n s).after.source 0 = .failed cause := by
    rw [hsource]
    exact hlast
  have hstep := step_of_running h hrun
  rw [hres, handle_failed] at hstep
  obtain ⟨kept, lost, hreport, hlost⟩ :=
    report_eq (ShellError.read cause).pieces (steps h n s).after.diagnostics
  refine ⟨(steps h n s).journal
    ++ (LineReader.readLine prompt (steps h n s).after.source).journal, kept, lost, ?_, hlost⟩
  rw [journal_steps_succ_last, hstep, List.append_assoc]
  rw [hreport, ← diagnosticLine_read]
  rfl

/-- Notes of lost diagnostics are no diagnostics. -/
theorem diagnosed_of_lost {lost : Journal}
    (hlost : ∀ e ∈ lost, ∃ f, e = .logged (.diagnosticLost f)) :
    lost.diagnosed = [] := by
  refine List.filterMap_eq_nil_iff.2 fun e he => ?_
  obtain ⟨f, rfl⟩ := hlost e he
  rfl

theorem diagnosed_report (message : List Bytes) (sink : Sink) :
    (report message sink).1.diagnosed = [diagnosticLine message.flatten] := by
  obtain ⟨kept, lost, hreport, hlost⟩ := report_eq message sink
  rw [hreport, Journal.diagnosed_cons, diagnosed_of_lost hlost]
  rfl

/-- That a read has failed is told last. -/
theorem getLast?_diagnosed_of_failed [LineReader ι] (h : Host σ) {s : Session σ ι}
    (hs : s.state = .running) {n : Nat} (hn : FirstStop s.source n) {cause : Fault}
    (hlast : result s.source n = .failed cause) :
    (steps h (n + 1) s).journal.diagnosed.getLast? = some (readFailureLine cause) := by
  obtain ⟨j, kept, lost, hj, hlost⟩ := journal_steps_of_failed h hs hn hlast
  rw [hj]
  simp [diagnosed_of_lost hlost]

/-- The loop's returns and its final state, read off the result that stopped it. -/
theorem ending_of_stops {last : ReadResult} (hlast : last.Stops) :
    last.nextState ≠ .running ∧
    ((∀ cause, last ≠ .failed cause) →
      last.ending = .ok () ∧ last.nextState = .stopped .clean) ∧
    ∀ cause, last = .failed cause →
      last.ending = .error (.read cause) ∧ last.nextState = .stopped .failed := by
  refine ⟨fun hrun => (ReadResult.nextState_eq_running_iff last).1 hrun hlast, ?_, ?_⟩
  · intro hne
    cases last with
    | line b => exact ⟨rfl, if_pos hlast⟩
    | endOfInput => exact ⟨rfl, rfl⟩
    | failed cause => exact absurd rfl (hne cause)
  · rintro cause rfl
    exact ⟨rfl, rfl⟩

/-- The first results of a reader that answers from a list, up to the first that stops the loop,
are the front of the list and the end of the input after it. -/
theorem exists_append_of_firstStop [LineReader ι] {s : ι} {l : List ReadResult} (hl : Answers s l)
    {n : Nat} (hn : FirstStop s n) :
    ∃ rest, l ++ [.endOfInput] = results s n ++ result s n :: rest := by
  induction n generalizing s l with
  | zero =>
    have h0 := hl 0
    cases l with
    | nil => exact ⟨[], by rw [h0]; rfl⟩
    | cons r l => exact ⟨l ++ [.endOfInput], by rw [h0]; rfl⟩
  | succ n ih =>
    obtain ⟨h0, hn⟩ := LineReader.firstStop_succ.1 hn
    cases l with
    | nil =>
      have hend : result s 0 = .endOfInput := hl 0
      rw [hend] at h0
      exact absurd trivial h0
    | cons r l =>
      have hr : result s 0 = r := hl 0
      obtain ⟨rest, hrest⟩ := ih hl.next hn
      refine ⟨rest, ?_⟩
      rw [List.cons_append, hrest]
      simp only [results, hr, List.cons_append]
      rfl

theorem exists_endsWith [LineSource ι] (h : Host σ) {s : Session σ ι} (hs : s.state = .running)
    {l : List ReadResult} (hl : Answers s.source l) :
    ∃ before last, EndsWith h s l before last := by
  obtain ⟨n, hn, hrepl⟩ := exists_repl_eq h hs
  have hlen : (results s.source n).length = n := LineReader.length_results s.source n
  have hstate := state_steps h hs n hn.2
  obtain ⟨hstop, hclean, hfail⟩ := ending_of_stops hn.1
  refine ⟨results s.source n, result s.source n,
    { isPrefix := exists_append_of_firstStop hl hn
      goesOn := hn.not_stops_of_mem
      stops := hn.1
      reads := ?_
      source := ?_
      unread := ?_
      dispatches := ?_
      notRunning := ?_
      clean := ?_
      failed := ?_ }⟩
  · -- reads
    rw [hrepl, ← LineReader.results_succ_eq_append]
    exact reads_steps h hs n hn.2
  · -- source
    rw [hrepl, hlen]
    exact source_steps h hs n hn.2
  · -- unread
    rw [hrepl, hlen]
    simp only [source_steps h hs n hn.2]
    exact hl.afterReads (n + 1)
  · -- dispatches
    rw [hrepl, ← LineReader.results_succ_eq_append]
    exact dispatches_steps h hs n hn.2
  · -- notRunning
    rw [hrepl, hstate]
    exact hstop
  · -- clean
    intro hne
    obtain ⟨hend, hnext⟩ := hclean hne
    rw [hrepl, hstate, hnext]
    exact ⟨hend, rfl, rfl⟩
  · -- failed
    intro cause hlast
    obtain ⟨hend, hnext⟩ := hfail cause hlast
    obtain ⟨j, kept, lost, hj, hlost⟩ := journal_steps_of_failed h hs hn hlast
    rw [hrepl]
    simp only [hstate, hnext, hend]
    exact ⟨trivial, trivial, rfl, getLast?_diagnosed_of_failed h hs hn hlast, j, kept, lost, hj,
      hlost⟩

/-! ## The exit code -/

/-- A read fails before every end of the input and every `exit` line. -/
def FailsFirst [LineReader ι] (s : ι) : Prop :=
  ∃ n cause, result s n = .failed cause ∧
    ∀ m, (result s m = .endOfInput ∨
      ∃ b, result s m = .line b ∧ (tokenize b).head? = some (utf8 "exit")) → n < m

/-- The loop is stopped by a fault if and only if a read fails first. -/
theorem failsFirst_iff [LineReader ι] {s : ι} {n : Nat} (hn : FirstStop s n) :
    FailsFirst s ↔ ∃ cause, result s n = .failed cause := by
  constructor
  · rintro ⟨m, cause, hm, hbefore⟩
    have hnm : n ≤ m := by
      refine Nat.le_of_not_lt fun hlt => hn.2 m hlt ?_
      rw [hm]
      trivial
    cases hres : result s n with
    | line b =>
      have hstop := hn.1
      rw [hres] at hstop
      exact absurd (hbefore n (Or.inr ⟨b, hres, hstop⟩)) (Nat.not_lt.2 hnm)
    | endOfInput => exact absurd (hbefore n (Or.inl hres)) (Nat.not_lt.2 hnm)
    | failed cause' => exact ⟨cause', rfl⟩
  · rintro ⟨cause, hres⟩
    refine ⟨n, cause, hres, fun m hm => ?_⟩
    have hstop : (result s m).Stops := by
      rcases hm with hm | ⟨b, hm, hb⟩
      · rw [hm]
        trivial
      · rw [hm]
        exact hb
    have hne : n ≠ m := by
      rintro rfl
      rcases hm with hm | ⟨b, hm, _⟩
      · rw [hres] at hm
        cases hm
      · rw [hres] at hm
        cases hm
    exact Nat.lt_of_le_of_ne (Nat.le_of_not_lt fun hlt => hn.2 m hlt hstop) hne

theorem exitCode_repl [LineSource ι] (h : Host σ) {s : Session σ ι} (hs : s.state = .running) :
    (s.repl h).after.state ≠ .running ∧
      ((s.repl h).after.state.exitCode = 1 ↔ FailsFirst s.source) ∧
      ((s.repl h).after.state.exitCode = 0 ↔ ¬ FailsFirst s.source) := by
  obtain ⟨n, hn, hrepl⟩ := exists_repl_eq h hs
  obtain ⟨hstop, hclean, hfail⟩ := ending_of_stops hn.1
  rw [hrepl, failsFirst_iff hn]
  simp only [state_steps h hs n hn.2]
  refine ⟨hstop, ?_⟩
  by_cases hcause : ∃ cause, result s.source n = .failed cause
  · obtain ⟨cause, hlast⟩ := hcause
    rw [(hfail cause hlast).2]
    have hsome : ∃ cause, result s.source n = .failed cause := ⟨cause, hlast⟩
    constructor
    · exact iff_of_true rfl hsome
    · exact iff_of_false (by decide) (not_not_intro hsome)
  · rw [(hclean fun cause hlast => hcause ⟨cause, hlast⟩).2]
    constructor
    · exact iff_of_false (by decide) hcause
    · exact iff_of_true rfl hcause

theorem after_session [LineSource ι] (h : Host σ) (s : Session σ ι) :
    (Program.session h s).after = (s.repl h).after := by
  unfold Program.session
  simp only
  split <;> rfl

/-- **The loop stops at the first stop.** On a source that answers from a list it consumes exactly
the shortest part that ends with the end of input, a fault or an `exit` line, leaves the rest
unread, and has then stopped as that result says. So no program ever ends with a loop that is still
running, and its exit code is 1 if a read fails before every end of the input and every `exit`
line, and 0 if not. -/
theorem repl_stops_at_first_stop [LineSource ι] (h : Host σ) {s : Session σ ι}
    (hs : s.state = .running) {l : List ReadResult} (hl : Answers s.source l) :
    (∃ before last, EndsWith h s l before last) ∧
    ∀ {τ : Type} (k : Host τ) (stamp : Bytes) (start : Start) (host : τ) (o : Options),
      Options.ofWords start.words = .ok (.work o) →
      (Program.session k
        { host := host, diagnostics := .unlimited, source := start.source o.plain }).after.state
          ≠ .running ∧
      ((Program.run k stamp start host).code = 1 ↔ FailsFirst (start.source o.plain)) ∧
      ((Program.run k stamp start host).code = 0 ↔ ¬ FailsFirst (start.source o.plain)) := by
  refine ⟨exists_endsWith h hs hl, fun k stamp start host o ho => ?_⟩
  have hcode := exitCode_repl k
    (s := { host := host, diagnostics := .unlimited, source := start.source o.plain }) rfl
  rw [← after_session] at hcode
  have hrun : (Program.run k stamp start host).code
      = (Program.session k
          { host := host, diagnostics := .unlimited
            source := start.source o.plain }).after.state.exitCode := by
    unfold Program.run
    rw [ho]
  rw [hrun]
  exact hcode

/-- A command that is refused, a blank line and a fault; the line behind them is never read. -/
theorem repl_stops_at_first_stop_of_fault :
    let l : List ReadResult :=
      [.line (utf8 "cd /nowhere\n"), .line (utf8 "\n"), .failed (.os 5), .line (utf8 "ls\n")]
    let s : Session Unit ListedSource :=
      { host := (), diagnostics := .unlimited, source := ⟨l⟩ }
    s.state = .running ∧ Answers s.source l ∧
      ∃ before last, EndsWith Host.refusing s l before last := by
  intro l s
  have hl : Answers s.source l := ListedSource.answers l
  exact ⟨rfl, hl, (repl_stops_at_first_stop Host.refusing (s := s) rfl hl).1⟩

end Session

end LineShell
