import LineShell.ErrorText
import LineShell.Text.Quoted

/-!
# Events

What the shell notes for its log: each event is a value of the domain. Its level, its message, the
part of the shell it comes from and its fields are functions of it.
-/

namespace LineShell

/-- How much an event matters. -/
inductive Level where
  | warn
  | debug
  deriving DecidableEq, Repr

/-- The part of the shell that an event comes from. -/
inductive Origin where
  | program | builtins | launching | loop | input | reporting
  deriving DecidableEq, Repr

/-- Something that the shell notes. -/
inductive Event where
  /-- A prompt could not be written: for the first time, or again. -/
  | promptFailed (again : Bool) (cause : Fault)
  /-- The line being edited was thrown away. -/
  | lineDiscarded
  /-- The input is exhausted. -/
  | endOfInput
  /-- No line could be read. -/
  | readFailed (cause : Fault)
  /-- A line is passed over because it could not be cut. -/
  | lineSkipped (error : TokenizeError)
  /-- A builtin is about to be carried out. -/
  | runningBuiltin (builtin : Builtin)
  /-- A builtin failed. -/
  | builtinFailed (builtin : Builtin) (error : BuiltinError)
  /-- The working directory was changed. -/
  | directoryChanged (target : Bytes)
  /-- A program was started. -/
  | childSpawned (pid : Nat) (program : Bytes)
  /-- A wait on a child returned. -/
  | childWaited (pid : Nat) (notice : Notice)
  /-- A child ended. -/
  | childFinished (status : ChildStatus)
  /-- A program could not be run. -/
  | launchFailed (error : LaunchError)
  /-- A command asked the shell to stop. -/
  | terminationRequested (command : Bytes)
  /-- A diagnostic could not be written in full. -/
  | diagnosticLost (cause : Fault)
  /-- The program is about to end because no line could be read. -/
  | shellStopped (error : ShellError)
  deriving DecidableEq, Repr

/-- The value of a field: a name that log lines quote, or a text that they show as it is. -/
inductive FieldValue where
  | name (b : Bytes)
  | text (b : Bytes)
  deriving DecidableEq, Repr

/-- The text of a value. -/
def FieldValue.bytes : FieldValue → Bytes
  | name b => b
  | text b => b

/-- The text of a value in a log line. -/
def FieldValue.inLine : FieldValue → Bytes
  | name b => Text.quoted b
  | text b => b

/-- The text of a number. -/
def numberText (n : Int) : Bytes :=
  utf8 (toString n)

/-- The text of a child's ending. -/
def ChildStatus.text : ChildStatus → Bytes
  | exited status => utf8 "Exited(" ++ numberText status.toInt ++ utf8 ")"
  | signaled signal => utf8 "Signaled(" ++ numberText signal.toInt ++ utf8 ")"

/-- The text of a signal in a notification. -/
def signalText (signal : Int32) : Bytes :=
  utf8 ((signalName? signal.toInt.toNat).elim (toString signal.toInt) ("SIG" ++ ·))

/-- The text of a notification about the process `pid`. -/
def Notice.text (pid : Nat) : Notice → Bytes
  | exited status =>
    utf8 "Exited(Pid(" ++ numberText pid ++ utf8 "), " ++ numberText status.toInt ++ utf8 ")"
  | signaled signal dumped =>
    utf8 "Signaled(Pid(" ++ numberText pid ++ utf8 "), " ++ signalText signal ++ utf8 ", "
      ++ utf8 (if dumped then "true)" else "false)")
  | stopped signal =>
    utf8 "Stopped(Pid(" ++ numberText pid ++ utf8 "), " ++ signalText signal ++ utf8 ")"
  | tracedEvent signal event =>
    utf8 "PtraceEvent(Pid(" ++ numberText pid ++ utf8 "), " ++ signalText signal ++ utf8 ", "
      ++ numberText event.toInt ++ utf8 ")"
  | tracedCall => utf8 "PtraceSyscall(Pid(" ++ numberText pid ++ utf8 "))"
  | continued => utf8 "Continued(Pid(" ++ numberText pid ++ utf8 "))"
  | stillAlive => utf8 "StillAlive"

namespace Event

/-- How much an event matters: only output that is lost is worth a warning, and of lost prompts
only the first. -/
def level : Event → Level
  | promptFailed false _ => .warn
  | diagnosticLost _ => .warn
  | _ => .debug

/-- Where an event comes from. -/
def origin : Event → Origin
  | promptFailed .. | lineDiscarded => .input
  | endOfInput | readFailed _ | lineSkipped _ | runningBuiltin _ | terminationRequested _ => .loop
  | builtinFailed .. | directoryChanged _ => .builtins
  | childSpawned .. | childWaited .. | childFinished _ | launchFailed _ => .launching
  | diagnosticLost _ => .reporting
  | shellStopped _ => .program

/-- The message of an event. -/
def message : Event → String
  | promptFailed .. => "failed to write prompt"
  | lineDiscarded => "line discarded by interrupt"
  | endOfInput => "end of input"
  | readFailed _ => "failed to read input"
  | lineSkipped _ => "skipping line"
  | runningBuiltin _ => "running builtin"
  | builtinFailed .. => "builtin failed"
  | directoryChanged _ => "changed working directory"
  | childSpawned .. => "spawned child"
  | childWaited .. => "waiting for process"
  | childFinished _ => "child finished"
  | launchFailed _ => "launch failed"
  | terminationRequested _ => "command requested termination"
  | diagnosticLost _ => "failed to write diagnostic"
  | shellStopped _ => "shell stopped on input failure"

/-- The fields of an event, in order. -/
def fields : Event → List (String × FieldValue)
  | promptFailed _ cause => [("err", .text cause.message)]
  | lineDiscarded => []
  | endOfInput => []
  | readFailed cause => [("err", .text cause.message)]
  | lineSkipped error => [("err", .text error.message)]
  | runningBuiltin b => [("builtin", .name b.name)]
  | builtinFailed b error => [("builtin", .name b.name), ("err", .text error.message)]
  | directoryChanged target => [("target", .text (Text.quoted target))]
  | childSpawned pid program =>
    [("pid", .text (numberText pid)), ("program", .text (Text.quoted program))]
  | childWaited pid notice => [("pid", .text (numberText pid)), ("status", .text (notice.text pid))]
  | childFinished status =>
    [("status", .text status.text), ("code", .text (numberText status.code.toInt))]
  | launchFailed error => [("err", .text error.message)]
  | terminationRequested command =>
    [("command", .text (utf8 "Some(" ++ Text.quoted command ++ utf8 ")"))]
  | diagnosticLost cause => [("err", .text cause.message)]
  | shellStopped error => [("err", .text error.message)]

end Event

end LineShell
