import LineShell.Proofs.Dispatch
import LineShell.Proofs.Reading

/-!
# One step of the loop

A step asks the source once and does what the result says. The result alone decides the next state
of the loop, what the step returns and which words it carries out: neither the operating system nor
the sink for diagnostics has a say in it.
-/

namespace LineShell

/-- What the result of a read orders. A result that stops the loop orders nothing. -/
def ReadResult.orders (r : ReadResult) : List Request :=
  if r.Stops then [] else (r.words?.bind orderOf).toList

namespace Session

open LineReader (next result)

variable {σ ι : Type} (h : Host σ)

/-! ## Handling the result of a read -/

/-- While memory lasts, the words of a line are carried out, and if they ask for it the loop
ends. -/
theorem handle_line (b : Bytes) (s : Session σ ι) :
    handle h (.line b) s
      = match s.execute h (tokenize b) with
        | ⟨.continue, j, t⟩ => ⟨.ok t.state, j, t⟩
        | ⟨.terminate, j, t⟩ =>
          ⟨.ok (.stopped .clean),
            j ++ [.logged (.terminationRequested ((tokenize b).headD []))],
            { t with state := .stopped .clean }⟩ := by
  simp only [handle, Host.toPlatform, cut_ample]
  rcases s.execute h (tokenize b) with ⟨outcome, j, t⟩
  cases outcome <;> rfl

theorem handle_line_of_ne_exit {b : Bytes} (hb : (tokenize b).head? ≠ some (utf8 "exit"))
    (s : Session σ ι) :
    handle h (.line b) s
      = ⟨.ok s.state, (s.execute h (tokenize b)).journal, (s.execute h (tokenize b)).after⟩ := by
  have hgo := (result_execute_eq_continue h (tokenize b) s).2 hb
  have hstate : (s.execute h (tokenize b)).after.state = s.state := rfl
  rw [handle_line]
  split
  · next heq =>
    rw [heq] at hstate ⊢
    rw [← hstate]
  · next heq =>
    rw [heq] at hgo
    cases hgo

theorem handle_line_of_exit {b : Bytes} (hb : (tokenize b).head? = some (utf8 "exit"))
    (s : Session σ ι) :
    handle h (.line b) s
      = ⟨.ok (.stopped .clean),
          [.dispatched (tokenize b), .logged (.runningBuiltin .exit),
            .logged (.terminationRequested (utf8 "exit"))],
          { s with state := .stopped .clean }⟩ := by
  obtain ⟨args, hargs⟩ := List.head?_eq_some_iff.1 hb
  rw [handle_line, hargs]
  simp [execute, dispatch_exit]

theorem handle_endOfInput (s : Session σ ι) :
    handle h .endOfInput s
      = ⟨.ok (.stopped .clean), [.logged .endOfInput], { s with state := .stopped .clean }⟩ := rfl

theorem handle_failed (p : Platform σ) (cause : Fault) (s : Session σ ι) :
    handle p (.failed cause) s
      = ⟨.error (.read cause),
          .logged (.readFailed cause) :: (report (ShellError.read cause).pieces s.diagnostics).1,
          { s with
            state := .stopped .failed
            diagnostics := (report (ShellError.read cause).pieces s.diagnostics).2 }⟩ := rfl

section Memory

variable (p : Platform σ) {b : Bytes} {s : Session σ ι}

/-- With memory for its words a line is carried out as on the host alone. -/
theorem handle_line_of_cut {ws : List Bytes} (hcut : cut (p.memory s.host).1 b = .ok ws) :
    handle p (.line b) s
      = handle p.toHost (.line b) { s with host := (p.memory s.host).2 } := by
  simp only [handle, hcut, Host.toPlatform, cut_ample, eq_tokenize_of_cut hcut]

theorem handle_line_of_refused {e : TokenizeError}
    (hcut : cut (p.memory s.host).1 b = .error e) :
    handle p (.line b) s
      = ⟨.ok s.state,
          .logged (.lineSkipped e)
            :: (report (utf8 "failed to split line: " :: e.pieces) s.diagnostics).1,
          { s with
            host := (p.memory s.host).2
            diagnostics :=
              (report (utf8 "failed to split line: " :: e.pieces) s.diagnostics).2 }⟩ := by
  simp only [handle, hcut]

end Memory

/-- What is returned for the result of a read. -/
theorem result_handle (r : ReadResult) {s : Session σ ι} (hs : s.state = .running) :
    (handle h r s).result = match r.error? with
      | some e => .error e
      | none => .ok r.nextState := by
  cases r with
  | line b =>
    by_cases hb : (tokenize b).head? = some (utf8 "exit")
    · rw [handle_line_of_exit h hb]
      simp [ReadResult.error?, ReadResult.nextState, hb]
    · rw [handle_line_of_ne_exit h hb]
      simp [ReadResult.error?, ReadResult.nextState, hb, hs]
  | endOfInput => rfl
  | failed cause => rfl

theorem state_handle (r : ReadResult) {s : Session σ ι} (hs : s.state = .running) :
    (handle h r s).after.state = r.nextState := by
  cases r with
  | line b =>
    by_cases hb : (tokenize b).head? = some (utf8 "exit")
    · rw [handle_line_of_exit h hb]
      simp [ReadResult.nextState, hb]
    · rw [handle_line_of_ne_exit h hb]
      simp [ReadResult.nextState, hb, hs]
  | endOfInput => rfl
  | failed cause => rfl

theorem reads_handle (r : ReadResult) (s : Session σ ι) : (handle h r s).journal.reads = [] := by
  cases r with
  | line b =>
    by_cases hb : (tokenize b).head? = some (utf8 "exit")
    · rw [handle_line_of_exit h hb]
      simp
    · rw [handle_line_of_ne_exit h hb]
      simp
  | endOfInput => rfl
  | failed cause =>
    rw [handle_failed]
    simp [Journal.reads_of_command (ofCommand_report _ s.diagnostics)]

theorem dispatches_handle (r : ReadResult) (s : Session σ ι) :
    (handle h r s).journal.dispatches = r.words?.toList := by
  cases r with
  | line b =>
    by_cases hb : (tokenize b).head? = some (utf8 "exit")
    · rw [handle_line_of_exit h hb]
      simp [ReadResult.words?]
    · rw [handle_line_of_ne_exit h hb]
      simp [ReadResult.words?]
  | endOfInput => rfl
  | failed cause =>
    rw [handle_failed]
    simp [Journal.dispatches_of_command (ofCommand_report _ s.diagnostics), ReadResult.words?]

/-- It is the reading of a line that adds to the history. -/
theorem remembered_handle (r : ReadResult) (s : Session σ ι) :
    (handle h r s).journal.remembered = [] := by
  cases r with
  | line b =>
    by_cases hb : (tokenize b).head? = some (utf8 "exit")
    · rw [handle_line_of_exit h hb]
      rfl
    · rw [handle_line_of_ne_exit h hb]
      simp [execute, Journal.remembered_of_command (ofCommand_dispatch h _ s.toSurroundings)]
  | endOfInput => rfl
  | failed cause =>
    rw [handle_failed]
    simp [Journal.remembered_of_command (ofCommand_report _ s.diagnostics)]

/-- Only a line that does not stop the loop orders anything. -/
theorem orders_handle (r : ReadResult) (s : Session σ ι) :
    (handle h r s).journal.orders = r.orders := by
  cases r with
  | line b =>
    by_cases hb : (tokenize b).head? = some (utf8 "exit")
    · rw [handle_line_of_exit h hb]
      simp [ReadResult.orders, ReadResult.Stops, hb]
    · rw [handle_line_of_ne_exit h hb]
      simp [orders_execute, ReadResult.orders, ReadResult.Stops, ReadResult.words?, hb]
  | endOfInput => simp [handle_endOfInput, ReadResult.orders, ReadResult.Stops]
  | failed cause =>
    rw [handle_failed]
    simp [orders_report, ReadResult.orders, ReadResult.Stops]

/-- What is ordered is all that the host hears of the result of a read. -/
theorem host_handle (r : ReadResult) (s : Session σ ι) :
    (handle h r s).after.host = (handle h r s).journal.orders.foldl h.serve s.host := by
  cases r with
  | line b =>
    by_cases hb : (tokenize b).head? = some (utf8 "exit")
    · rw [handle_line_of_exit h hb]
      simp
    · rw [handle_line_of_ne_exit h hb]
      exact host_execute h (tokenize b) s
  | endOfInput => rfl
  | failed cause =>
    rw [handle_failed]
    simp [orders_report]

/-! ## A step -/

variable [LineReader ι]

section Platform

variable (p : Platform σ)

theorem step_of_stopped {s : Session σ ι} {d : Disposition} (hs : s.state = .stopped d) :
    step p s = ⟨.ok (.stopped d), [], s⟩ := by
  simp only [step]
  rw [hs]

theorem step_of_running {s : Session σ ι} (hs : s.state = .running) :
    step p s
      = ⟨(handle p (result s.source 0) { s with source := next s.source }).result,
          (LineReader.readLine prompt s.source).journal
            ++ .read (result s.source 0)
              :: (handle p (result s.source 0) { s with source := next s.source }).journal,
          (handle p (result s.source 0) { s with source := next s.source }).after⟩ := by
  simp only [step]
  rw [hs]
  rfl

end Platform

section Running

variable {s : Session σ ι} (hs : s.state = .running)

include hs

theorem result_step : (step h s).result = match (result s.source 0).error? with
    | some e => .error e
    | none => .ok (result s.source 0).nextState := by
  rw [step_of_running h hs]
  exact result_handle h _ hs

theorem state_step : (step h s).after.state = (result s.source 0).nextState := by
  rw [step_of_running h hs]
  exact state_handle h _ hs

theorem source_step : (step h s).after.source = next s.source := by
  rw [step_of_running h hs]
  exact source_handle _ _ _

/-- A step makes exactly one read. -/
theorem reads_step : (step h s).journal.reads = [result s.source 0] := by
  rw [step_of_running h hs]
  simp [Journal.reads_of_reading (LineReader.ofReading_readLine prompt s.source), reads_handle]

theorem dispatches_step : (step h s).journal.dispatches = (result s.source 0).words?.toList := by
  rw [step_of_running h hs]
  simp [Journal.dispatches_of_reading (LineReader.ofReading_readLine prompt s.source),
    dispatches_handle]

theorem orders_step :
    (step h s).journal.orders = (result s.source 0).orders := by
  rw [step_of_running h hs]
  simp [Journal.orders_of_reading (LineReader.ofReading_readLine prompt s.source), orders_handle]

end Running

/-- What is ordered is all that the host hears of a step. -/
theorem host_step (s : Session σ ι) :
    (step h s).after.host = (step h s).journal.orders.foldl h.serve s.host := by
  cases hs : s.state with
  | stopped d =>
    rw [step_of_stopped h hs]
    rfl
  | running =>
    have hhost := host_handle h (result s.source 0) { s with source := next s.source }
    rw [step_of_running h hs]
    simpa [Journal.orders_of_reading (LineReader.ofReading_readLine prompt s.source)] using hhost

end Session

end LineShell
