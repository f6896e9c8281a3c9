import LineShell.Editor.Plain
import LineShell.Editor.Terminal
import LineShell.Input.Stream
import LineShell.Log.Filter
import LineShell.Log.Line
import LineShell.Program.Options
import LineShell.Shell

/-!
# The program

The shell as a program: its options choose where the lines come from and how much is logged. What
it prints is told by the journal of its session: prompts and the output of programs go to standard
output, and diagnostics, the log and the programs' own complaints to standard error, in the order
in which they happened.
-/

namespace LineShell

/-- What standard input is connected to. -/
inductive Connection where
  /-- A file, a pipe or a device. -/
  | stream (supply : Supply)
  /-- A terminal, and what the user types for each read; after that the user ends the input. -/
  | keyboard (typed : List Bytes)
  deriving DecidableEq, Repr

/-- A terminal on which the user types for one read. -/
def Connection.terminal (typed : Bytes) : Connection :=
  .keyboard [typed]

/-- A supply as the shell gets it. A standard input that is not open counts as one that has
ended. -/
def Supply.ofStandardInput (s : Supply) : Supply :=
  { s with
    script := s.script.map fun
      | .fault f => if f = .os .badDescriptor then .bytes [] else .fault f
      | .bytes b => .bytes b }

/-- What the program is started with. -/
structure Start where
  /-- The name that the program was called by. -/
  name : Bytes
  /-- The words behind its name. -/
  words : List Bytes
  /-- The text of the filter for the log, if one was set. -/
  filter : Option Bytes := none
  /-- The kind of the terminal, if one was set. -/
  terminalKind : Option Bytes := none
  /-- What standard input is connected to. -/
  input : Connection
  /-- Why standard output takes nothing, if it does not. -/
  outputFault : Option Fault := none
  deriving DecidableEq, Repr

/-- How the program ended. -/
structure Ending (σ : Type) where
  /-- Its exit code. -/
  code : UInt8
  /-- What was printed on standard output. -/
  out : Bytes
  /-- What was printed on standard error. -/
  err : Bytes
  /-- The operating system after it. -/
  host : σ

/-- The exit code of a program that ends with a session in a state. A session that has not stopped
counts as failed. -/
def LoopState.exitCode : LoopState → UInt8
  | running => Disposition.failed.exitCode
  | stopped d => d.exitCode

namespace Start

/-- The kinds of terminals that have no movable cursor. -/
def fixedKinds : List Bytes := [utf8 "dumb", utf8 "cons25", utf8 "emacs"]

/-- Whether the cursor of the terminal can be moved. -/
def hasMovableCursor (s : Start) : Bool :=
  !fixedKinds.any fun kind => s.terminalKind.any kind.sameButCase

/-- The sink for prompts that go to standard output. What is written to a standard output that is
not open is lost without a fault. -/
def promptSink (s : Start) : Sink :=
  match s.outputFault with
  | none => .unlimited
  | some f =>
    if f = .os .badDescriptor then .unlimited
    else .start { room := some 0, refusal := .fault f }

/-- Where the lines come from: from a line editor on a terminal, unless it is to be read plainly,
and from a stream otherwise. -/
def source (s : Start) (plain : Bool) :
    StreamSource ⊕ EditorSource Editor.Terminal ⊕ EditorSource Editor.PlainEditor :=
  match s.input with
  | .stream supply => .inl { supply := supply.ofStandardInput, prompts := s.promptSink }
  | .keyboard typed =>
    let supply : Supply := { script := typed.map .bytes }
    if plain then .inl { supply := supply, prompts := s.promptSink }
    else if s.hasMovableCursor then
      .inr (.inl ⟨{ typed := typed, screenFault := s.outputFault }⟩)
    else .inr (.inr ⟨{ supply := supply, screen := s.outputFault.elim .ready .broken }⟩)

end Start

/-- What a step of a session puts on standard output. -/
def Entry.onOut : Entry → Bytes
  | .prompted text kept => text.take kept
  | .printed .out b => b
  | _ => []

/-- What a step of a session puts on standard error. Of the events it puts there those that the
filter shows; `stamp` says when they happened. -/
def Entry.onErr (f : Log.Filter) (stamp : Bytes) : Entry → Bytes
  | .diagnosed line kept => line.take kept
  | .printed .err b => b
  | .logged e => if f.shows e then Log.line stamp e else []
  | _ => []

namespace Program

/-- Run a session to its end and note an input that failed. -/
def session {σ ι : Type} [LineSource ι] (p : Platform σ) (s : Session σ ι) :
    Act Unit (Session σ ι) :=
  let act := s.repl p
  match act.result with
  | .ok () => ⟨(), act.journal, act.after⟩
  | .error e => ⟨(), act.journal ++ [.logged (.shellStopped e)], act.after⟩

/-- Run the program on an operating system; `stamp` is the time of the log lines. -/
def run {σ : Type} (p : Platform σ) (stamp : Bytes) (start : Start) (host : σ) : Ending σ :=
  match Options.ofWords start.words with
  | .error e => ⟨1, [], e.message start.name, host⟩
  | .ok .help => ⟨0, Options.usage start.name, [], host⟩
  | .ok (.work o) =>
    let act := session p
      { host := host, diagnostics := .unlimited, source := start.source o.plain }
    ⟨act.after.state.exitCode,
      if start.outputFault.isSome then [] else act.journal.flatMap Entry.onOut,
      act.journal.flatMap (Entry.onErr (.chosen start.filter o.verbose) stamp), act.after.host⟩

end Program

end LineShell
