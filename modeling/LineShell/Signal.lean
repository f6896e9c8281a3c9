/-!
# Signals

The signals a process can be sent, with their numbers and short names, and what each does to a
process that makes no arrangement for it.
-/

namespace LineShell

/-- What a signal does by default. -/
inductive SignalAction where
  | terminate | ignore | stop | resume
  deriving DecidableEq, Repr

/-- The signals that have names: number, short name and default action. -/
def signalTable : List (Nat × String × SignalAction) := [
  (1, "HUP", .terminate), (2, "INT", .terminate), (3, "QUIT", .terminate), (4, "ILL", .terminate),
  (5, "TRAP", .terminate), (6, "ABRT", .terminate), (7, "BUS", .terminate), (8, "FPE", .terminate),
  (9, "KILL", .terminate), (10, "USR1", .terminate), (11, "SEGV", .terminate),
  (12, "USR2", .terminate), (13, "PIPE", .terminate), (14, "ALRM", .terminate),
  (15, "TERM", .terminate), (16, "STKFLT", .terminate), (17, "CHLD", .ignore),
  (18, "CONT", .resume), (19, "STOP", .stop), (20, "TSTP", .stop), (21, "TTIN", .stop),
  (22, "TTOU", .stop), (23, "URG", .ignore), (24, "XCPU", .terminate), (25, "XFSZ", .terminate),
  (26, "VTALRM", .terminate), (27, "PROF", .terminate), (28, "WINCH", .ignore),
  (29, "IO", .terminate), (30, "PWR", .terminate), (31, "SYS", .terminate)]

/-- The short name of a signal. -/
def signalName? (n : Nat) : Option String :=
  (signalTable.lookup n).map Prod.fst

/-- The signal with a short name. -/
def signalOfName? (name : String) : Option Nat :=
  (signalTable.find? fun (_, s, _) => s == name).map Prod.fst

/-- What a signal does to a process that makes no arrangement for it. Signals without a name end
the process. -/
def signalAction (n : Nat) : SignalAction :=
  ((signalTable.lookup n).map Prod.snd).getD .terminate

end LineShell
