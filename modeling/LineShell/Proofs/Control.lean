import LineShell.Program
import LineShell.Proofs.Loop
import LineShell.Proofs.Stream

/-!
# What controls the loop

How the loop goes is decided by the results of its reads alone. Two loops whose readers give the
same results make the same reads, pass through the same states, carry out the same words and end in
the same way, however different the operating systems, the sinks for diagnostics and the sinks for
prompts are.
-/

namespace LineShell

/-- How a run of the loop went, without what it did to the outside world. -/
structure Course where
  /-- The results of its reads. -/
  reads : List ReadResult
  /-- The states that it passed through, the first and the last one included. -/
  states : List LoopState
  /-- The words that it carried out, line by line. -/
  dispatches : List (List Bytes)
  /-- What it returned. -/
  result : Except ShellError Unit
  /-- The exit code of a program that ends with it. -/
  exitCode : UInt8

namespace Session

open LineReader (next result results FirstStop SameResults)

variable {σ τ ι κ : Type} [LineReader ι] [LineReader κ]

/-- The course of a run from a session that ended as `act`. -/
def course (h : Host σ) (s : Session σ ι) (act : Act (Except ShellError Unit) (Session σ ι)) :
    Course where
  reads := act.journal.reads
  states := (List.range (act.journal.reads.length + 1)).map fun n => (steps h n s).after.state
  dispatches := act.journal.dispatches
  result := act.result
  exitCode := act.after.state.exitCode

variable (h : Host σ) (k : Host τ) {s : Session σ ι} {t : Session τ κ}

/-- A run that ended has made as many steps as reads. -/
theorem after_eq_steps (hs : s.state = .running)
    {act : Act (Except ShellError Unit) (Session σ ι)} (hact : Completes h s act) :
    act.after = (steps h act.journal.reads.length s).after := by
  obtain ⟨n, hn, rfl⟩ := (completes_iff_firstStop h hs).1 hact
  simp only [reads_steps h hs n hn.2, LineReader.length_results]

theorem course_eq (hs : s.state = .running) (ht : t.state = .running)
    (hst : SameResults s.source t.source)
    {act : Act (Except ShellError Unit) (Session σ ι)} (hact : Completes h s act)
    {act' : Act (Except ShellError Unit) (Session τ κ)} (hact' : Completes k t act') :
    course h s act = course k t act' := by
  obtain ⟨n, hn, rfl⟩ := (completes_iff_firstStop h hs).1 hact
  obtain ⟨m, hm, rfl⟩ := (completes_iff_firstStop k ht).1 hact'
  obtain rfl : n = m := (hst.firstStop hn).unique hm
  have hreads := hst.results_eq hn.2
  have hlast : result s.source n = result t.source n := hst n hn.2
  have hstates := state_steps_eq h k hs ht hst.nextState_eq
  simp only [course, reads_steps h hs n hn.2, reads_steps k ht n hm.2,
    dispatches_steps h hs n hn.2, dispatches_steps k ht n hm.2, hreads, hlast, hstates]

/-- **The loop is controlled by the results of its reads alone.** Take two running sessions on any
operating systems, with any sinks for diagnostics, whose readers give the same results up to the
first one that stops the loop. Step by step they are in the same states; one loop ends if and only
if the other does, and then both have taken the same course. On sources, which are finite, the loop
is `repl`, which always ends. Streams give the same results if their supplies are the same, whatever
becomes of their prompts. And words make the loop stop exactly if the first one is `exit`. -/
theorem loop_controlled_by_reads (hs : s.state = .running) (ht : t.state = .running)
    (hst : SameResults s.source t.source) :
    (∀ n, (steps h n s).after.state = (steps k n t).after.state) ∧
    ((∃ act, Completes h s act) ↔ ∃ act, Completes k t act) ∧
    (∀ act act', Completes h s act → Completes k t act' → course h s act = course k t act') ∧
    (∀ act, Completes h s act → act.after = (steps h act.journal.reads.length s).after) ∧
    (∀ {α β : Type} [LineSource α] [LineSource β] (u : Session σ α) (v : Session τ β),
      u.state = .running → v.state = .running → SameResults u.source v.source →
      course h u (u.repl h) = course k v (v.repl k)) ∧
    (∀ x y : StreamSource, x.supply = y.supply → SameResults x y) ∧
    ∀ ws, (s.execute h ws).result = .terminate ↔ ws.head? = some (utf8 "exit") := by
  refine ⟨state_steps_eq h k hs ht hst.nextState_eq, ?_, ?_, ?_, ?_, ?_, ?_⟩
  · constructor
    · rintro ⟨act, hact⟩
      obtain ⟨n, hn⟩ := Completes.exists_firstStop h hact hs
      exact ⟨_, completes_of_firstStop k ht (hst.firstStop hn)⟩
    · rintro ⟨act, hact⟩
      obtain ⟨n, hn⟩ := Completes.exists_firstStop k hact ht
      exact ⟨_, completes_of_firstStop h hs (hst.symm.firstStop hn)⟩
  · intro act act' hact hact'
    exact course_eq h k hs ht hst hact hact'
  · intro act hact
    exact after_eq_steps h hs hact
  · intro α β _ _ u v hu hv huv
    exact course_eq h k hu hv huv (completes_repl h u) (completes_repl k v)
  · intro x y hxy
    exact StreamSource.sameResults hxy
  · intro ws
    exact result_execute_eq_terminate h ws s

/-- A script on two hosts, one of which grants everything and one of which refuses everything, the
second with a full sink for diagnostics and a broken one for prompts. -/
theorem loop_controlled_by_reads_of_script :
    let supply : Supply := { script := [.bytes (utf8 "cd /\nls -l\nexit\nls\n")] }
    let s : Session Unit StreamSource :=
      { host := (), diagnostics := .unlimited
        source := { supply := supply, prompts := .unlimited } }
    let t : Session Unit StreamSource :=
      { host := (), diagnostics := { room := some 3 }
        source := { supply := supply
                    prompts := { room := some 0, refusal := .fault (.os Errno.noSpace) } } }
    s.state = .running ∧ t.state = .running ∧ SameResults s.source t.source ∧
      course Host.obliging s (s.repl Host.obliging)
        = course Host.refusing t (t.repl Host.refusing) := by
  intro supply s t
  have hst : SameResults s.source t.source := StreamSource.sameResults rfl
  have hmain := loop_controlled_by_reads Host.obliging Host.refusing (s := s) (t := t) rfl rfl hst
  exact ⟨rfl, rfl, hst, hmain.2.2.2.2.1 s t rfl rfl hst⟩

end Session

end LineShell
