import LineShell.Proofs.Loop

/-!
# Histories of a session

A session can be used in six ways, in any order and any number of times: its commands can be carried
out, launched, invoked or run directly, and the loop can make one step or go on to its end. Only the
loop changes whether the session still reads lines, and at every point the results of the reads so
far tell that state (`loopState_told_by_reads`).
-/

namespace LineShell

/-- A way to use a session. Diagnostics of a command that is launched or invoked directly go to a
sink of its own. -/
inductive Operation where
  /-- Carry out words. -/
  | execute (ws : List Bytes)
  /-- Run a program. -/
  | launch (ws : List Bytes) (sink : Sink)
  /-- Carry out a builtin and report its failure. -/
  | invoke (b : Builtin) (ws : List Bytes) (sink : Sink)
  /-- Carry out a builtin. -/
  | run (b : Builtin) (ws : List Bytes)
  /-- Make one step of the loop. -/
  | step
  /-- Go on with the loop until it ends. -/
  | repl

/-- What an operation returns. -/
inductive Answer where
  | outcome (o : Outcome)
  | attempt (r : Except BuiltinError Outcome)
  | progress (r : Except ShellError LoopState)
  | done (r : Except ShellError Unit)

/-- The error of the loop that an operation has returned. -/
def Answer.error? : Answer → Option ShellError
  | progress (.error e) => some e
  | done (.error e) => some e
  | _ => none

namespace Session

open LineReader (result results afterReads FirstStop)

variable {σ ι : Type} [LineReader ι]

section Definitions

variable (p : Platform σ)

/-- What an operation gives, if it comes to an end. -/
inductive Performs : Operation → Session σ ι → Act Answer (Session σ ι) → Prop where
  | execute (ws : List Bytes) (s : Session σ ι) :
    Performs (.execute ws) s
      ⟨.outcome (s.execute p.toHost ws).result, (s.execute p.toHost ws).journal,
        (s.execute p.toHost ws).after⟩
  | launch (ws : List Bytes) (sink : Sink) (s : Session σ ι) :
    Performs (.launch ws sink) s
      ⟨.outcome (LineShell.launch p.toHost ws ⟨s.host, sink⟩).result,
        (LineShell.launch p.toHost ws ⟨s.host, sink⟩).journal,
        { s with host := (LineShell.launch p.toHost ws ⟨s.host, sink⟩).after.host }⟩
  | invoke (b : Builtin) (ws : List Bytes) (sink : Sink) (s : Session σ ι) :
    Performs (.invoke b ws sink) s
      ⟨.outcome (b.invoke p.toHost ws ⟨s.host, sink⟩).result,
        (b.invoke p.toHost ws ⟨s.host, sink⟩).journal,
        { s with host := (b.invoke p.toHost ws ⟨s.host, sink⟩).after.host }⟩
  | run (b : Builtin) (ws : List Bytes) (s : Session σ ι) :
    Performs (.run b ws) s
      ⟨.attempt (b.run p.toHost ws s.host).result, (b.run p.toHost ws s.host).journal,
        { s with host := (b.run p.toHost ws s.host).after }⟩
  | step (s : Session σ ι) :
    Performs .step s ⟨.progress (s.step p).result, (s.step p).journal, (s.step p).after⟩
  | repl {s : Session σ ι} {act : Act (Except ShellError Unit) (Session σ ι)}
    (hact : Completes p s act) : Performs .repl s ⟨.done act.result, act.journal, act.after⟩

/-- The operations made on a session so far with what they returned, the journal of all of them, and
the session after them. -/
inductive History (s : Session σ ι) :
    List (Operation × Answer) → Journal → Session σ ι → Prop where
  | start : History s [] [] s
  | perform {calls j t op act} (hist : History s calls j t) (hop : Performs p op t act) :
    History s (calls ++ [(op, act.result)]) (j ++ act.journal) act.after

end Definitions

/-- How the errors returned so far and the results of the reads so far go with the state of the
loop: no read has stopped it, or only the last one has. -/
inductive Standing : List ShellError → List ReadResult → LoopState → Prop where
  | running {reads} (hreads : ∀ r ∈ reads, ¬ r.Stops) : Standing [] reads .running
  | clean {reads last} (hreads : ∀ r ∈ reads, ¬ r.Stops) (hlast : last.Stops)
    (herror : last.error? = none) : Standing [] (reads ++ [last]) (.stopped .clean)
  | failed {reads} (hreads : ∀ r ∈ reads, ¬ r.Stops) (cause : Fault) :
    Standing [.read cause] (reads ++ [.failed cause]) (.stopped .failed)

/-- One more read behind reads that have not stopped the loop. -/
theorem Standing.read {reads : List ReadResult} (hreads : ∀ r ∈ reads, ¬ r.Stops)
    (last : ReadResult) : Standing last.error?.toList (reads ++ [last]) last.nextState := by
  cases last with
  | line b =>
    by_cases hb : (tokenize b).head? = some (utf8 "exit")
    · have hnext : (ReadResult.line b).nextState = .stopped .clean := if_pos hb
      rw [hnext]
      exact .clean hreads hb rfl
    · have hnext : (ReadResult.line b).nextState = .running := if_neg hb
      rw [hnext]
      refine .running fun r hr => ?_
      rcases List.mem_append.1 hr with hr | hr
      · exact hreads r hr
      · rw [List.mem_singleton.1 hr]
        exact hb
  | endOfInput => exact .clean hreads trivial rfl
  | failed cause => exact .failed hreads cause

theorem Standing.reads_of_running {errors : List ShellError} {reads : List ReadResult}
    (hst : Standing errors reads .running) : errors = [] ∧ ∀ r ∈ reads, ¬ r.Stops := by
  cases hst with
  | running hreads => exact ⟨rfl, hreads⟩

/-! ## One operation -/

section Platform

variable {p : Platform σ} {s : Session σ ι} {act : Act Answer (Session σ ι)}

/-- A stopped loop reads nothing, shows nothing and asks for nothing. -/
theorem performs_step_iff_of_stopped {d : Disposition} (hs : s.state = .stopped d) :
    Performs p .step s act ↔ act = ⟨.progress (.ok (.stopped d)), [], s⟩ := by
  have hstep := Performs.step (p := p) s
  rw [Session.step_of_stopped p hs] at hstep
  constructor
  · intro hop
    cases hop with
    | step => rw [Session.step_of_stopped p hs]
  · rintro rfl
    exact hstep

theorem performs_repl_iff_of_stopped {d : Disposition} (hs : s.state = .stopped d) :
    Performs p .repl s act ↔ act = ⟨.done (.ok ()), [], s⟩ := by
  constructor
  · intro hop
    cases hop with
    | repl hact => rw [(completes_iff_of_stopped p hs).1 hact]
  · rintro rfl
    exact .repl ((completes_iff_of_stopped p hs).2 rfl)

/-- On a source the loop always comes to its end. -/
theorem performs_repl_iff (p : Platform σ) {κ : Type} [LineSource κ] (u : Session σ κ)
    {act : Act Answer (Session σ κ)} :
    Performs p .repl u act ↔
      act = ⟨.done (u.repl p).result, (u.repl p).journal, (u.repl p).after⟩ := by
  constructor
  · intro hop
    cases hop with
    | repl hact => rw [completes_iff_eq_repl.1 hact]
  · rintro rfl
    exact .repl (completes_repl p u)

end Platform

/-- A command reads no line and carries out no words. -/
theorem dispatches_eq_of_command {j : Journal} (hj : ∀ e ∈ j, e.ofCommand) :
    j.dispatches = j.reads.filterMap ReadResult.words? := by
  rw [Journal.reads_of_command hj, Journal.dispatches_of_command hj]
  rfl

section Operations

variable {h : Host σ} {s : Session σ ι} {op : Operation} {act : Act Answer (Session σ ι)}

/-- Other operations than the loop's read nothing, return no error of the loop and leave its state
alone. -/
theorem Performs.of_not_loop (hop : Performs h op s act) (hstep : op ≠ .step) (hrepl : op ≠ .repl) :
    act.after.state = s.state ∧ act.journal.reads = [] ∧ act.result.error? = none := by
  cases hop with
  | execute ws => exact ⟨rfl, reads_execute h ws s, rfl⟩
  | launch ws sink =>
    exact ⟨rfl, Journal.reads_of_command (ofCommand_launch h ws ⟨s.host, sink⟩), rfl⟩
  | invoke b ws sink =>
    exact ⟨rfl, Journal.reads_of_command (ofCommand_invoke h b ws ⟨s.host, sink⟩), rfl⟩
  | run b ws => exact ⟨rfl, Journal.reads_of_command (ofCommand_run h b ws s.host), rfl⟩
  | step => exact absurd rfl hstep
  | repl hact => exact absurd rfl hrepl

/-- One read, or several of which only the last one may stop the loop: this is all that an operation
of a running loop does to its standing. -/
theorem Performs.loop_of_running (hop : Performs h op s act) (hloop : op = .step ∨ op = .repl)
    (hs : s.state = .running) :
    ∃ reads last, (∀ r ∈ reads, ¬ r.Stops) ∧ act.journal.reads = reads ++ [last] ∧
      act.after.state = last.nextState ∧ act.result.error? = last.error? := by
  cases hop with
  | step =>
    refine ⟨[], result s.source 0, by simp, reads_step h hs, state_step h hs, ?_⟩
    simp only [Answer.error?]
    rw [result_step h hs]
    cases (result s.source 0).error? <;> rfl
  | repl hact =>
    obtain ⟨n, hn, rfl⟩ := (completes_iff_firstStop h hs).1 hact
    refine ⟨results s.source n, result s.source n, hn.not_stops_of_mem, ?_,
      state_steps h hs n hn.2, ?_⟩
    · rw [← LineReader.results_succ_eq_append]
      exact reads_steps h hs n hn.2
    · simp only [Answer.error?, ReadResult.ending]
      cases (result s.source n).error? <;> rfl
  | execute => simp at hloop
  | launch => simp at hloop
  | invoke => simp at hloop
  | run => simp at hloop

/-- An operation reads nothing, returns no error of the loop and leaves its state alone, or it is
one of a running loop. -/
theorem Performs.reads_cases (hop : Performs h op s act) :
    (act.journal.reads = [] ∧ act.result.error? = none ∧ act.after.state = s.state) ∨
      (op = .step ∨ op = .repl) ∧ s.state = .running ∧
        ∃ reads last, (∀ r ∈ reads, ¬ r.Stops) ∧ act.journal.reads = reads ++ [last] ∧
          act.after.state = last.nextState ∧ act.result.error? = last.error? := by
  by_cases hloop : op = .step ∨ op = .repl
  · cases hs : s.state with
    | running => exact Or.inr ⟨hloop, rfl, hop.loop_of_running hloop hs⟩
    | stopped d =>
      refine Or.inl ?_
      rcases hloop with rfl | rfl
      · rw [(performs_step_iff_of_stopped hs).1 hop]
        exact ⟨rfl, rfl, hs⟩
      · rw [(performs_repl_iff_of_stopped hs).1 hop]
        exact ⟨rfl, rfl, hs⟩
  · rw [not_or] at hloop
    obtain ⟨hstate, hreads, herror⟩ := hop.of_not_loop hloop.1 hloop.2
    exact Or.inl ⟨hreads, herror, hstate⟩

/-- An operation keeps the standing of the loop. -/
theorem Standing.perform {errors : List ShellError} {reads : List ReadResult}
    (hst : Standing errors reads s.state) (hop : Performs h op s act) :
    Standing (errors ++ act.result.error?.toList) (reads ++ act.journal.reads) act.after.state := by
  rcases hop.reads_cases with
    ⟨hreads, herror, hstate⟩ | ⟨_, hs, more, last, hmore, hreads, hstate, herror⟩
  · rw [hstate, hreads, herror]
    simpa using hst
  · rw [hs] at hst
    obtain ⟨rfl, hbefore⟩ := hst.reads_of_running
    rw [hreads, hstate, herror, ← List.append_assoc, List.nil_append]
    refine Standing.read (fun r hr => ?_) last
    rcases List.mem_append.1 hr with hr | hr
    · exact hbefore r hr
    · exact hmore r hr

/-- The reads of an operation are the next ones of the source. Words that are not carried out
directly are those of the lines that it reads. -/
theorem Performs.exists_reads (hop : Performs h op s act) :
    ∃ n, act.journal.reads = results s.source n ∧ act.after.source = afterReads s.source n ∧
      ((∀ ws, op ≠ .execute ws) →
        act.journal.dispatches = act.journal.reads.filterMap ReadResult.words?) := by
  cases hop with
  | execute ws => exact ⟨0, reads_execute h ws s, rfl, fun hne => absurd rfl (hne ws)⟩
  | launch ws sink =>
    have hkind := ofCommand_launch h ws ⟨s.host, sink⟩
    exact ⟨0, Journal.reads_of_command hkind, rfl, fun _ => dispatches_eq_of_command hkind⟩
  | invoke b ws sink =>
    have hkind := ofCommand_invoke h b ws ⟨s.host, sink⟩
    exact ⟨0, Journal.reads_of_command hkind, rfl, fun _ => dispatches_eq_of_command hkind⟩
  | run b ws =>
    have hkind := ofCommand_run h b ws s.host
    exact ⟨0, Journal.reads_of_command hkind, rfl, fun _ => dispatches_eq_of_command hkind⟩
  | step =>
    cases hs : s.state with
    | stopped d =>
      rw [step_of_stopped h hs]
      exact ⟨0, rfl, rfl, fun _ => rfl⟩
    | running =>
      refine ⟨1, reads_step h hs, source_step h hs, fun _ => ?_⟩
      rw [reads_step h hs, dispatches_step h hs, List.filterMap_eq_flatMap_toList,
        List.flatMap_singleton]
  | repl hact =>
    cases hs : s.state with
    | stopped d =>
      obtain rfl := (completes_iff_of_stopped h hs).1 hact
      exact ⟨0, rfl, rfl, fun _ => rfl⟩
    | running =>
      obtain ⟨n, hn, rfl⟩ := (completes_iff_firstStop h hs).1 hact
      refine ⟨n + 1, reads_steps h hs n hn.2, source_steps h hs n hn.2, fun _ => ?_⟩
      simp only [reads_steps h hs n hn.2, dispatches_steps h hs n hn.2]

/-- The state of the loop changes only from running to stopped, and only by the loop's own
operations. -/
theorem Performs.state_eq_or (hop : Performs h op s act) :
    act.after.state = s.state ∨
      (op = .step ∨ op = .repl) ∧ s.state = .running ∧ ∃ d, act.after.state = .stopped d := by
  rcases hop.reads_cases with ⟨_, _, hstate⟩ | ⟨hloop, hs, _⟩
  · exact Or.inl hstate
  · cases ha : act.after.state with
    | running => exact Or.inl hs.symm
    | stopped d => exact Or.inr ⟨hloop, hs, d, rfl⟩

end Operations

/-! ## All operations so far -/

variable {h : Host σ} {s t : Session σ ι} {calls : List (Operation × Answer)} {j : Journal}

/-- The errors of the loop that were returned. -/
def errorsOf (calls : List (Operation × Answer)) : List ShellError :=
  calls.filterMap fun call => call.2.error?

theorem History.standing (hist : History h s calls j t) (hs : s.state = .running) :
    Standing (errorsOf calls) j.reads t.state := by
  induction hist with
  | start =>
    rw [hs]
    exact .running (by simp)
  | @perform calls j t op act hist hop ih =>
    have hnext := ih.perform hop
    rw [Journal.reads_append]
    have herrors : errorsOf (calls ++ [(op, act.result)])
        = errorsOf calls ++ act.result.error?.toList := by
      cases he : act.result.error? <;> simp [errorsOf, he]
    rw [herrors]
    exact hnext

/-- All reads so far are the first ones of the source. If no words were carried out directly, those
that were carried out are those of the lines read. -/
theorem History.exists_reads (hist : History h s calls j t) :
    ∃ n, j.reads = results s.source n ∧ t.source = afterReads s.source n ∧
      ((∀ call ∈ calls, ∀ ws, call.1 ≠ .execute ws) →
        j.dispatches = j.reads.filterMap ReadResult.words?) := by
  induction hist with
  | start => exact ⟨0, rfl, rfl, fun _ => rfl⟩
  | @perform calls j t op act hist hop ih =>
    obtain ⟨m, hreads, hsource, hlines⟩ := ih
    obtain ⟨n, hmore, hafter, hnext⟩ := hop.exists_reads
    refine ⟨m + n, ?_, ?_, fun hcalls => ?_⟩
    · rw [Journal.reads_append, hreads, hmore, hsource, LineReader.results_add]
    · rw [hafter, hsource, LineReader.afterReads_add]
    · have hbefore := hlines fun call hcall => hcalls call (List.mem_append_left _ hcall)
      have hlast := hnext (hcalls (op, act.result) (List.mem_append_right _ List.mem_cons_self))
      rw [Journal.dispatches_append, Journal.reads_append, List.filterMap_append, hbefore, hlast]

/-! ## What the standing tells -/

section Standing

variable {errors : List ShellError} {reads : List ReadResult} {state : LoopState}

theorem Standing.failed_iff (hst : Standing errors reads state) :
    state = .stopped .failed ↔ ∃ cause, reads.getLast? = some (.failed cause) := by
  cases hst with
  | running hreads =>
    constructor
    · intro hstate
      cases hstate
    · rintro ⟨cause, hlast⟩
      exact absurd trivial (hreads _ (List.mem_of_getLast? hlast))
  | @clean reads last _ _ herror =>
    constructor
    · intro hstate
      cases hstate
    · rintro ⟨cause, hlast⟩
      rw [List.getLast?_concat] at hlast
      cases hlast
      cases herror
  | failed _ cause =>
    constructor
    · intro _
      exact ⟨cause, List.getLast?_concat⟩
    · intro _
      rfl

theorem Standing.clean_iff (hst : Standing errors reads state) :
    state = .stopped .clean ↔ reads.getLast? = some .endOfInput ∨
      ∃ b, reads.getLast? = some (.line b) ∧ (tokenize b).head? = some (utf8 "exit") := by
  cases hst with
  | running hreads =>
    constructor
    · intro hstate
      cases hstate
    · rintro (hlast | ⟨b, hlast, hb⟩)
      · exact absurd trivial (hreads _ (List.mem_of_getLast? hlast))
      · exact absurd hb (hreads _ (List.mem_of_getLast? hlast))
  | @clean reads last _ hlast herror =>
    constructor
    · intro _
      rw [List.getLast?_concat]
      cases last with
      | line b => exact Or.inr ⟨b, rfl, hlast⟩
      | endOfInput => exact Or.inl rfl
      | failed cause => cases herror
    · intro _
      rfl
  | failed _ cause =>
    constructor
    · intro hstate
      cases hstate
    · rw [List.getLast?_concat]
      rintro (hlast | ⟨b, hlast, _⟩)
      · cases hlast
      · cases hlast

/-- The error of the loop was returned once, and only if the loop has failed. -/
theorem Standing.errors_eq (hst : Standing errors reads state) :
    (∀ cause, reads.getLast? = some (.failed cause) → errors = [.read cause]) ∧
      (state ≠ .stopped .failed → errors = []) := by
  cases hst with
  | running hreads =>
    refine ⟨fun cause hlast => ?_, fun _ => rfl⟩
    exact absurd trivial (hreads _ (List.mem_of_getLast? hlast))
  | clean _ _ herror =>
    refine ⟨fun cause hlast => ?_, fun _ => rfl⟩
    rw [List.getLast?_concat] at hlast
    cases hlast
    cases herror
  | failed _ cause =>
    refine ⟨fun cause' hlast => ?_, fun hstate => absurd rfl hstate⟩
    rw [List.getLast?_concat] at hlast
    cases hlast
    rfl

/-- All reads before the last one gave lines that do not stop the loop. -/
theorem Standing.exists_line_of_mem_dropLast (hst : Standing errors reads state) :
    ∀ r ∈ reads.dropLast, ∃ b, r = .line b ∧ (tokenize b).head? ≠ some (utf8 "exit") := by
  intro r hr
  cases hst with
  | running hreads =>
    exact ReadResult.exists_line_of_not_stops (hreads r (List.dropLast_subset reads hr))
  | clean hreads _ _ =>
    rw [List.dropLast_concat] at hr
    exact ReadResult.exists_line_of_not_stops (hreads r hr)
  | failed hreads _ =>
    rw [List.dropLast_concat] at hr
    exact ReadResult.exists_line_of_not_stops (hreads r hr)

end Standing

/-- **The reads so far tell the state of the loop.** After any operations on a fresh session, in any
order, the loop has failed if and only if the last read has failed, and then exactly one operation
so far has returned that error; it has stopped cleanly if and only if the last read met the end of
the input or an `exit` line; and all earlier reads gave other lines. No operation but the loop's own
changes the state, not even one that is given an `exit`, and only from running to stopped. Once
stopped, the state stays; a step of the loop then returns it and the whole loop returns at once, and
neither reads, shows, reports or asks for anything. On sources, which are finite, the whole loop is
`repl`. -/
theorem loopState_told_by_reads (hs : s.state = .running) (hist : History h s calls j t) :
    (t.state = .stopped .failed ↔ ∃ cause, j.reads.getLast? = some (.failed cause)) ∧
    (∀ cause, j.reads.getLast? = some (.failed cause) → errorsOf calls = [.read cause]) ∧
    (t.state ≠ .stopped .failed → errorsOf calls = []) ∧
    (t.state = .stopped .clean ↔ j.reads.getLast? = some .endOfInput ∨
      ∃ b, j.reads.getLast? = some (.line b) ∧ (tokenize b).head? = some (utf8 "exit")) ∧
    (∀ r ∈ j.reads.dropLast, ∃ b, r = .line b ∧ (tokenize b).head? ≠ some (utf8 "exit")) ∧
    (∀ op act, Performs h op t act → act.after.state = t.state ∨
      (op = .step ∨ op = .repl) ∧ t.state = .running ∧ ∃ d, act.after.state = .stopped d) ∧
    (∀ d, t.state = .stopped d →
      (∀ op act, Performs h op t act → act.after.state = .stopped d) ∧
      (∀ act, Performs h .step t act ↔ act = ⟨.progress (.ok (.stopped d)), [], t⟩) ∧
      ∀ act, Performs h .repl t act ↔ act = ⟨.done (.ok ()), [], t⟩) ∧
    ∀ {κ : Type} [LineSource κ] (u : Session σ κ) (act : Act Answer (Session σ κ)),
      Performs h .repl u act ↔
        act = ⟨.done (u.repl h).result, (u.repl h).journal, (u.repl h).after⟩ := by
  have hst := hist.standing hs
  refine ⟨hst.failed_iff, hst.errors_eq.1, hst.errors_eq.2, hst.clean_iff,
    hst.exists_line_of_mem_dropLast, fun op act hop => hop.state_eq_or, fun d hd => ⟨?_, ?_, ?_⟩,
    fun u act => performs_repl_iff h u⟩
  · intro op act hop
    rcases hop.state_eq_or with hsame | ⟨_, hrun, _⟩
    · exact hsame.trans hd
    · rw [hd] at hrun
      cases hrun
  · intro act
    exact performs_step_iff_of_stopped hd
  · intro act
    exact performs_repl_iff_of_stopped hd

/-- An `exit` carried out directly, a step that reads a line, a step that fails to read one, and the
loop after that. -/
theorem loopState_told_by_reads_of_failure :
    let h := Host.refusing
    let s : Session Unit ListedSource :=
      { host := (), diagnostics := { room := some 5 }
        source := ⟨[.line (utf8 "ls\n"), .failed (.os 5), .line (utf8 "exit\n")]⟩ }
    let s₁ := (s.execute h [utf8 "exit"]).after
    let s₂ := (s₁.step h).after
    let s₃ := (s₂.step h).after
    let calls : List (Operation × Answer) :=
      [(.execute [utf8 "exit"], .outcome (s.execute h [utf8 "exit"]).result),
        (.step, .progress (s₁.step h).result), (.step, .progress (s₂.step h).result),
        (.repl, .done (.ok ()))]
    let j := (s.execute h [utf8 "exit"]).journal ++ (s₁.step h).journal ++ (s₂.step h).journal ++ []
    s.state = .running ∧ History h s calls j s₃ ∧ s₃.state = .stopped .failed ∧
      errorsOf calls = [.read (.os 5)] := by
  intro h s s₁ s₂ s₃ calls j
  have h₁ : History h s _ _ s₁ := History.start.perform (.execute [utf8 "exit"] s)
  have h₂ : History h s _ _ s₂ := h₁.perform (.step s₁)
  have h₃ : History h s _ _ s₃ := h₂.perform (.step s₂)
  have hstopped : s₃.state = .stopped .failed := rfl
  have hrepl : Completes h s₃ ⟨.ok (), [], s₃⟩ := .stopped (by rw [hstopped]; simp)
  have hist : History h s calls j s₃ := h₃.perform (.repl hrepl)
  have hmain := loopState_told_by_reads (s := s) rfl hist
  have hreads₂ : (s₁.step h).journal.reads = [.line (utf8 "ls\n")] := reads_step h rfl
  have hreads₃ : (s₂.step h).journal.reads = [.failed (.os 5)] := reads_step h rfl
  have hlast : j.reads.getLast? = some (.failed (.os 5)) := by
    simp [j, hreads₂, hreads₃]
  exact ⟨rfl, hist, hmain.1.2 ⟨.os 5, hlast⟩, hmain.2.1 (.os 5) hlast⟩

end Session

end LineShell
