import LineShell.Event

/-!
# Journal

A session leaves a journal: one sequence of everything it did that can be seen from outside, in
the order in which it happened. Each channel of the outside world is a projection of the journal.
-/

namespace LineShell

/-- The result of asking for a line. -/
inductive ReadResult where
  /-- A line, with its end of line if it had one. -/
  | line (b : Bytes)
  /-- There is no more input. -/
  | endOfInput
  /-- No line could be read. -/
  | failed (cause : Fault)
  deriving DecidableEq, Repr

/-- What the shell asks of the operating system. -/
inductive Request where
  /-- Change the working directory. -/
  | changeDirectory (path : Bytes)
  /-- Start a program with arguments. -/
  | spawn (program : Bytes) (args : List Bytes)
  /-- Wait for a child. -/
  | wait (pid : Nat)
  deriving DecidableEq, Repr

/-- The streams that programs print to. -/
inductive Stream where
  | out
  | err
  deriving DecidableEq, Repr

/-- One step of a session as seen from outside. -/
inductive Entry where
  /-- A prompt, and how many of its bytes were written to the prompt's sink. -/
  | prompted (text : Bytes) (kept : Nat)
  /-- A line was asked for. -/
  | read (result : ReadResult)
  /-- The words of a line were carried out. -/
  | dispatched (words : List Bytes)
  /-- A line was added to the history. -/
  | remembered (line : Bytes)
  /-- The operating system was asked for something. -/
  | asked (request : Request)
  /-- Bytes were printed on a stream. -/
  | printed (stream : Stream) (b : Bytes)
  /-- A diagnostic, and how many of its bytes were written. -/
  | diagnosed (line : Bytes) (kept : Nat)
  /-- An event was noted. -/
  | logged (event : Event)
  deriving DecidableEq, Repr

/-- Whether a step may be part of asking for a line. -/
def Entry.ofReading : Entry → Bool
  | .prompted .. | .remembered _ | .printed .. => true
  | .logged (.promptFailed ..) | .logged .lineDiscarded => true
  | _ => false

/-- Whether a step may be part of composing a line in an editor. -/
def Entry.ofComposing : Entry → Bool
  | .prompted .. | .printed .. => true
  | _ => false

theorem Entry.ofReading_of_ofComposing {e : Entry} (he : e.ofComposing) : e.ofReading := by
  cases e <;> first | rfl | cases he

/-- Whether a step may be part of carrying out a command. -/
def Entry.ofCommand : Entry → Bool
  | .asked _ | .printed .. | .diagnosed .. => true
  | .logged (.runningBuiltin _) | .logged (.builtinFailed ..) | .logged (.directoryChanged _)
  | .logged (.childSpawned ..) | .logged (.childWaited ..) | .logged (.childFinished _)
  | .logged (.launchFailed _) | .logged (.diagnosticLost _) => true
  | _ => false

/-- A sequence of steps. -/
abbrev Journal := List Entry

namespace Journal

/-- The events, in order. -/
def events (j : Journal) : List Event :=
  j.filterMap fun | .logged e => some e | _ => none

/-- The requests, in order. -/
def requests (j : Journal) : List Request :=
  j.filterMap fun | .asked r => some r | _ => none

/-- The requests to change the working directory and to start programs, in order. -/
def orders (j : Journal) : List Request :=
  j.filterMap fun
    | .asked (.changeDirectory path) => some (.changeDirectory path)
    | .asked (.spawn program args) => some (.spawn program args)
    | _ => none

/-- The results of asking for lines, in order. -/
def reads (j : Journal) : List ReadResult :=
  j.filterMap fun | .read r => some r | _ => none

/-- The words that were carried out, line by line. -/
def dispatches (j : Journal) : List (List Bytes) :=
  j.filterMap fun | .dispatched words => some words | _ => none

/-- The diagnostics, in order, whether they were written or not. -/
def diagnosed (j : Journal) : List Bytes :=
  j.filterMap fun | .diagnosed line _ => some line | _ => none

/-- What reached the prompt's sink. -/
def prompts (j : Journal) : Bytes :=
  j.flatMap fun | .prompted text kept => text.take kept | _ => []

/-- What reached the diagnostics' sink. -/
def diagnostics (j : Journal) : Bytes :=
  j.flatMap fun | .diagnosed line kept => line.take kept | _ => []

/-- What was printed on a stream. -/
def printed (s : Stream) (j : Journal) : Bytes :=
  j.flatMap fun | .printed t b => if t = s then b else [] | _ => []

/-- The lines added to the history, in order. -/
def remembered (j : Journal) : List Bytes :=
  j.filterMap fun | .remembered line => some line | _ => none

@[simp] theorem events_append (j k : Journal) : events (j ++ k) = events j ++ events k := by
  simp [events]

@[simp] theorem requests_append (j k : Journal) :
    requests (j ++ k) = requests j ++ requests k := by
  simp [requests]

@[simp] theorem reads_nil : reads [] = [] := rfl

@[simp] theorem orders_nil : orders [] = [] := rfl

@[simp] theorem dispatches_nil : dispatches [] = [] := rfl

@[simp] theorem diagnosed_nil : diagnosed [] = [] := rfl

@[simp] theorem reads_cons (e : Entry) (j : Journal) :
    reads (e :: j) = (match e with | .read r => [r] | _ => []) ++ reads j := by
  cases e <;> rfl

@[simp] theorem orders_cons (e : Entry) (j : Journal) :
    orders (e :: j)
      = (match e with
          | .asked (.changeDirectory path) => [.changeDirectory path]
          | .asked (.spawn program args) => [.spawn program args]
          | _ => []) ++ orders j := by
  cases e with
  | asked request => cases request <;> rfl
  | _ => rfl

@[simp] theorem dispatches_cons (e : Entry) (j : Journal) :
    dispatches (e :: j)
      = (match e with | .dispatched words => [words] | _ => []) ++ dispatches j := by
  cases e <;> rfl

@[simp] theorem diagnosed_cons (e : Entry) (j : Journal) :
    diagnosed (e :: j) = (match e with | .diagnosed line _ => [line] | _ => []) ++ diagnosed j := by
  cases e <;> rfl

@[simp] theorem remembered_cons (e : Entry) (j : Journal) :
    remembered (e :: j)
      = (match e with | .remembered line => [line] | _ => []) ++ remembered j := by
  cases e <;> rfl

@[simp] theorem orders_append (j k : Journal) : orders (j ++ k) = orders j ++ orders k := by
  simp [orders]

@[simp] theorem dispatches_append (j k : Journal) :
    dispatches (j ++ k) = dispatches j ++ dispatches k := by
  simp [dispatches]

@[simp] theorem diagnosed_append (j k : Journal) :
    diagnosed (j ++ k) = diagnosed j ++ diagnosed k := by
  simp [diagnosed]

@[simp] theorem reads_append (j k : Journal) : reads (j ++ k) = reads j ++ reads k := by
  simp [reads]

@[simp] theorem prompts_append (j k : Journal) : prompts (j ++ k) = prompts j ++ prompts k := by
  simp [prompts]

@[simp] theorem diagnostics_append (j k : Journal) :
    diagnostics (j ++ k) = diagnostics j ++ diagnostics k := by
  simp [diagnostics]

@[simp] theorem remembered_append (j k : Journal) :
    remembered (j ++ k) = remembered j ++ remembered k := by
  simp [remembered]

@[simp] theorem printed_append (s : Stream) (j k : Journal) :
    printed s (j ++ k) = printed s j ++ printed s k := by
  simp [printed]

end Journal

end LineShell
