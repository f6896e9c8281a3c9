import LineShell.Fault
import LineShell.Signal

/-!
# Child processes

What waiting for a child reports, how a child ends, and why one could not be started or waited
for.
-/

namespace LineShell

/-- How a child process ended. -/
inductive ChildStatus where
  /-- It exited with a status. -/
  | exited (status : Int32)
  /-- A signal killed it. -/
  | signaled (signal : Int32)
  deriving DecidableEq, Repr

/-- The exit code in the shell's convention: the status itself, or 128 more than the signal. -/
def ChildStatus.code : ChildStatus → Int32
  | exited status => status
  | signaled signal => 128 + signal

/-- One notification about a child. -/
inductive Notice where
  /-- It exited. -/
  | exited (status : Int32)
  /-- A signal killed it, perhaps leaving a memory image. -/
  | signaled (signal : Int32) (dumped : Bool)
  /-- A signal stopped it; it can go on later. -/
  | stopped (signal : Int32)
  /-- It goes on after a stop. -/
  | continued
  /-- A signal stopped it for its tracer, at an event of its own kind. -/
  | tracedEvent (signal : Int32) (event : Int32)
  /-- It was stopped for its tracer at a system call. -/
  | tracedCall
  /-- Nothing has changed. -/
  | stillAlive
  deriving DecidableEq, Repr

/-- The ending that a notification announces, if it does. -/
def Notice.ending : Notice → Option ChildStatus
  | exited status => some (.exited status)
  | signaled signal _ => some (.signaled signal)
  | stopped _ | continued | tracedEvent .. | tracedCall | stillAlive => none

/-- The result of one wait on a child. -/
inductive WaitResult where
  /-- A notification. -/
  | notice (n : Notice)
  /-- The wait was interrupted and may be made again. -/
  | interrupted
  /-- The wait failed. -/
  | failed (number : Errno)
  deriving DecidableEq, Repr

/-- Why a program could not be run. -/
inductive LaunchError where
  /-- It could not be started. -/
  | spawn (program : Bytes) (cause : Fault)
  /-- It was started, but waiting for it failed. -/
  | wait (pid : Nat) (cause : Fault)
  deriving DecidableEq, Repr

end LineShell
