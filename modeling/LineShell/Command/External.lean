import LineShell.Command.Diagnostic

/-!
# Running programs

A command that is not a builtin is a program: it is started and waited for until it has exited or
a signal has killed it. A child that is stopped is waited for until it goes on and ends. How the
program ends never stops the shell, and neither does a program that cannot be started.
-/

namespace LineShell

variable {σ : Type}

/-- Wait for the child `pid` until it has ended, when successive waits give these results. A wait
that was interrupted is made again, however it says so. -/
def awaitEnding (pid : Nat) : List WaitResult → Journal × Except LaunchError ChildStatus
  | [] => ([.asked (.wait pid)], .error (.wait pid (.os .noChild)))
  | .failed n :: rest =>
    if (Fault.os n).isInterruption then
      let (j, r) := awaitEnding pid rest
      (.asked (.wait pid) :: j, r)
    else ([.asked (.wait pid)], .error (.wait pid (.os n)))
  | .interrupted :: rest =>
    let (j, r) := awaitEnding pid rest
    (.asked (.wait pid) :: j, r)
  | .notice n :: rest =>
    match n.ending with
    | some status => ([.asked (.wait pid), .logged (.childWaited pid n)], .ok status)
    | none =>
      let (j, r) := awaitEnding pid rest
      (.asked (.wait pid) :: .logged (.childWaited pid n) :: j, r)

/-- Start a program and wait for its end. -/
def runProgram (h : Host σ) (program : Bytes) (args : List Bytes) (s : σ) :
    Act (Except LaunchError ChildStatus) σ :=
  match h.spawn program args s with
  | (.error f, s') => ⟨.error (.spawn program f), [.asked (.spawn program args)], s'⟩
  | (.ok pid, s') =>
    let (conduct, s'') := h.conduct pid s'
    let (j, r) := awaitEnding pid conduct.waits
    ⟨r,
      [.asked (.spawn program args), .logged (.childSpawned pid program)]
        ++ conduct.printed.map (fun (stream, b) => .printed stream b) ++ j,
      s''⟩

/-- Run the program that the words of a line name; no words, no program. -/
def launch (h : Host σ) (words : List Bytes) (a : Surroundings σ) : Act Outcome (Surroundings σ) :=
  match words with
  | [] => ⟨.continue, [], a⟩
  | program :: args =>
    match runProgram h program args a.host with
    | ⟨.ok status, j, s⟩ =>
      ⟨.continue, j ++ [.logged (.childFinished status)], { a with host := s }⟩
    | ⟨.error e, j, s⟩ =>
      let (told, sink) := report e.pieces a.diagnostics
      ⟨.continue, j ++ .logged (.launchFailed e) :: told, ⟨s, sink⟩⟩

end LineShell
