import LineShell.Journal
import LineShell.Sink

/-!
# Hosts

The operating system as the shell sees it: it changes the working directory, starts programs and
tells what becomes of them. A host is any such behaviour over any type of states, so what is
proved of the shell holds on every system. The memory that the shell itself works in may run out; a
platform is a host together with such a memory, and a host alone stands for one with ample memory.
-/

namespace LineShell

/-- What a child does from its start until it is gone, as seen from outside. -/
structure Conduct where
  /-- What it prints. -/
  printed : List (Stream × Bytes)
  /-- What successive waits on it give; after these there is no child to wait for. -/
  waits : List WaitResult
  deriving DecidableEq, Repr

/-- An operating system with states in `σ`. -/
structure Host (σ : Type) where
  /-- Change the working directory. -/
  changeDirectory : Bytes → σ → Except Fault Unit × σ
  /-- Start a program with arguments; a started program has a process number. -/
  spawn : Bytes → List Bytes → σ → Except Fault Nat × σ
  /-- Let a child run until it is gone. -/
  conduct : Nat → σ → Conduct × σ

/-- A host that grants every request and whose programs all succeed. -/
def Host.obliging : Host Unit where
  changeDirectory _ s := (.ok (), s)
  spawn _ _ s := (.ok 1, s)
  conduct _ s := (⟨[], [.notice (.exited 0)]⟩, s)

/-- A host that refuses every request. -/
def Host.refusing : Host Unit where
  changeDirectory _ s := (.error (.os .accessDenied), s)
  spawn _ _ s := (.error (.os .accessDenied), s)
  conduct _ s := (⟨[], []⟩, s)

/-- A host and the memory that the shell itself works in. -/
structure Platform (σ : Type) extends Host σ where
  /-- What memory answers while one line is cut. -/
  memory : σ → Memory × σ

/-- A host on which memory never runs out. -/
@[coe] def Host.toPlatform {σ : Type} (h : Host σ) : Platform σ where
  toHost := h
  memory s := (.ample, s)

instance {σ : Type} : Coe (Host σ) (Platform σ) := ⟨Host.toPlatform⟩

/-- What an action gives: its result, what was seen of it, and the state after it. -/
structure Act (α S : Type) where
  result : α
  journal : Journal
  after : S
  deriving DecidableEq, Repr

/-- What commands work in: the operating system and the sink for diagnostics. -/
structure Surroundings (σ : Type) where
  host : σ
  diagnostics : Sink

/-- Whether the loop goes on after a command. -/
inductive Outcome where
  | continue
  | terminate
  deriving DecidableEq, Repr

/-- Whether the loop goes on. -/
def Outcome.shouldContinue (o : Outcome) : Bool :=
  o = .continue

end LineShell
