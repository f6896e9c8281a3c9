import LineShell.Command.External
import LineShell.Command.Internal
import LineShell.Input.Source
import LineShell.Words.Slots

/-!
# The shell

A session reads lines and carries them out, one after another, until the input ends, a command
asks to stop or a line cannot be read. Blank lines do nothing; every other line names a builtin or
a program by its first word. A line that memory does not suffice to cut is told of and passed over.
-/

namespace LineShell

/-- How a stopped session ended. -/
inductive Disposition where
  /-- The input ended or a command asked to stop. -/
  | clean
  /-- No line could be read. -/
  | failed
  deriving DecidableEq, Repr

/-- The exit code of a program that ends with a session. -/
def Disposition.exitCode : Disposition → UInt8
  | clean => 0
  | failed => 1

/-- Whether a session still reads lines. -/
inductive LoopState where
  | running
  | stopped (d : Disposition)
  deriving DecidableEq, Repr

/-- Whether a session still reads lines, as a truth value. -/
def LoopState.isRunning (s : LoopState) : Bool :=
  s = .running

/-- The prompt shown before every line. -/
def prompt : Bytes := utf8 "$ "

/-- A session with a host of states `σ` and a source of states `ι`. -/
structure Session (σ ι : Type) extends Surroundings σ where
  /-- Whether it still reads lines. -/
  state : LoopState := .running
  /-- Where its lines come from. -/
  source : ι

namespace Session

variable {σ ι : Type}

/-- Carry out the words of a line. No words, nothing to do. -/
def dispatch (h : Host σ) (words : List Bytes) (a : Surroundings σ) :
    Act Outcome (Surroundings σ) :=
  match words with
  | [] => ⟨.continue, [], a⟩
  | name :: _ =>
    match Builtin.lookup name with
    | some b =>
      let act := b.invoke h words a
      { act with journal := .logged (.runningBuiltin b) :: act.journal }
    | none => launch h words a

/-- Carry out the words of a line in a session. Its state stays as it is. -/
def execute (h : Host σ) (words : List Bytes) (s : Session σ ι) : Act Outcome (Session σ ι) :=
  let act := dispatch h words s.toSurroundings
  ⟨act.result, .dispatched words :: act.journal, { s with toSurroundings := act.after }⟩

/-- What a session does with the result of asking for a line. -/
def handle (p : Platform σ) (r : ReadResult) (s : Session σ ι) :
    Act (Except ShellError LoopState) (Session σ ι) :=
  match r with
  | .endOfInput =>
    ⟨.ok (.stopped .clean), [.logged .endOfInput], { s with state := .stopped .clean }⟩
  | .failed cause =>
    let (told, sink) := report (ShellError.read cause).pieces s.diagnostics
    ⟨.error (.read cause), .logged (.readFailed cause) :: told,
      { s with state := .stopped .failed, diagnostics := sink }⟩
  | .line b =>
    let (memory, host) := p.memory s.host
    match cut memory b with
    | .error e =>
      let (told, sink) := report (utf8 "failed to split line: " :: e.pieces) s.diagnostics
      ⟨.ok s.state, .logged (.lineSkipped e) :: told,
        { s with host := host, diagnostics := sink }⟩
    | .ok words =>
      let act := { s with host := host }.execute p.toHost words
      match act.result with
      | .continue => ⟨.ok act.after.state, act.journal, act.after⟩
      | .terminate =>
        ⟨.ok (.stopped .clean),
          act.journal ++ [.logged (.terminationRequested (words.headD []))],
          { act.after with state := .stopped .clean }⟩

@[simp] theorem source_handle (p : Platform σ) (r : ReadResult) (s : Session σ ι) :
    (handle p r s).after.source = s.source := by
  unfold handle
  split
  · rfl
  · rfl
  · dsimp only
    split
    · rfl
    · split <;> rfl

/-- Only a line leaves a session running. -/
theorem state_handle_of_not_line (p : Platform σ) {r : ReadResult} (s : Session σ ι)
    (hr : ∀ b, r ≠ .line b) : (handle p r s).after.state ≠ .running := by
  cases r with
  | line b => exact absurd rfl (hr b)
  | endOfInput => simp [handle]
  | failed cause => simp [handle]

/-- Read one line and carry it out. A stopped session reads nothing. -/
def step [LineReader ι] (p : Platform σ) (s : Session σ ι) :
    Act (Except ShellError LoopState) (Session σ ι) :=
  match s.state with
  | .stopped d => ⟨.ok (.stopped d), [], s⟩
  | .running =>
    let reading := LineReader.readLine prompt s.source
    let act := handle p reading.result { s with source := reading.after }
    { act with journal := reading.journal ++ .read reading.result :: act.journal }

variable [LineSource ι]

/-- A step that leaves the session running has used up some of its source. -/
theorem remaining_step_lt (p : Platform σ) (s : Session σ ι) (hs : s.state = .running)
    (ha : (step p s).after.state = .running) :
    LineSource.remaining (step p s).after.source < LineSource.remaining s.source := by
  simp only [step, hs] at ha ⊢
  rw [source_handle]
  cases hr : (LineReader.readLine prompt s.source).result with
  | line b => exact LineSource.remaining_lt _ _ b hr
  | endOfInput => rw [hr] at ha; exact absurd ha (state_handle_of_not_line p _ (by simp))
  | failed cause => rw [hr] at ha; exact absurd ha (state_handle_of_not_line p _ (by simp))

/-- Read and carry out lines until the session has stopped. -/
def repl (p : Platform σ) (s : Session σ ι) : Act (Except ShellError Unit) (Session σ ι) :=
  if _hs : s.state = .running then
    let first := step p s
    match first.result with
    | .error e => ⟨.error e, first.journal, first.after⟩
    | .ok _ =>
      if _ha : first.after.state = .running then
        let rest := repl p first.after
        { rest with journal := first.journal ++ rest.journal }
      else ⟨.ok (), first.journal, first.after⟩
  else ⟨.ok (), [], s⟩
termination_by LineSource.remaining s.source
decreasing_by exact remaining_step_lt p s _hs _ha

end Session

end LineShell
