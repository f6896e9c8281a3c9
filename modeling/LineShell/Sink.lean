import LineShell.Fault

/-!
# Sinks

A sink is where bytes are written to: a stream that may be short, slow, interrupting or broken.
One call offers it bytes and it takes some of them, refuses, or is interrupted. Writing a whole
text makes calls until every byte is taken or one call fails, and makes an interrupted call again.
-/

namespace LineShell

/-- What a sink does with more bytes once it is full. -/
inductive Refusal where
  /-- It fails, and not because it was interrupted. -/
  | fails (f : Fault) (hf : f.isInterruption = false)
  /-- It takes nothing and says so. -/
  | takeNothing
  deriving DecidableEq, Repr

/-- The refusal with a fault. Interruptions refuse nothing, as the call is made again. -/
def Refusal.fault (f : Fault) : Refusal :=
  if hf : f.isInterruption = false then .fails f hf else .takeNothing

/-- A stream that bytes are written to. -/
structure Sink where
  /-- How many bytes it will still take; unlimited if there is no number. -/
  room : Option Nat := none
  /-- What it does once `room` is used up. -/
  refusal : Refusal := .takeNothing
  /-- The most bytes that it takes in its `n`-th answered call; unlimited if there is no number. -/
  portion : Nat → Option Nat := fun _ => none
  /-- How many calls are interrupted before the `n`-th answered one. -/
  interruptions : Nat → Nat := fun _ => 0
  /-- What its `n`-th answered call fails with, if it fails. An interruption is no answer. -/
  faults : Nat → Option Fault := fun _ => none
  /-- What every flush fails with, if flushing fails. -/
  flushFault : Option Fault := none
  /-- How many calls it has answered. -/
  answered : Nat := 0
  /-- How many calls it will interrupt before it answers the next one. -/
  pending : Nat := 0
  /-- The bytes that it has taken. -/
  accepted : Array UInt8 := #[]

/-- The result of one call to a sink. -/
inductive WriteResult where
  /-- So many bytes from the front were taken. -/
  | took (n : Nat)
  /-- Nothing was done; the call may be made again. -/
  | interrupted
  /-- The call failed. -/
  | failed (f : Fault)
  deriving DecidableEq, Repr

namespace Sink

/-- A sink that takes everything at once. -/
def unlimited : Sink := {}

/-- The same sink before its first call, with its interruptions about to begin. -/
def start (s : Sink) : Sink :=
  { s with answered := 0, pending := s.interruptions 0, accepted := #[] }

/-- The sink once it has answered one more call. -/
def answer (s : Sink) : Sink :=
  { s with answered := s.answered + 1, pending := s.interruptions (s.answered + 1) }

/-- What the next answered call fails with, if it fails. -/
def fault? (s : Sink) : Option Fault :=
  (s.faults s.answered).filter fun f => !f.isInterruption

/-- How many of `n` offered bytes the next answered call takes. -/
def share (s : Sink) (n : Nat) : Nat :=
  min (min n ((s.portion s.answered).getD n)) (s.room.getD n)

/-- One call that offers the bytes `b`. -/
def write (s : Sink) (b : Bytes) : WriteResult × Sink :=
  match s.pending with
  | k + 1 => (.interrupted, { s with pending := k })
  | 0 =>
    match s.fault? with
    | some f => (.failed f, s.answer)
    | none =>
      if s.room = some 0 ∧ b ≠ [] then
        match s.refusal with
        | .fails f _ => (.failed f, s.answer)
        | .takeNothing => (.took 0, s.answer)
      else
        let n := s.share b.length
        (.took n, { s.answer with
          room := s.room.map (· - n)
          accepted := s.accepted ++ b.take n })

/-- Offer the bytes until all are taken: the fault that stopped this, if any, and the sink after
it. -/
def writeAll (s : Sink) (b : Bytes) : Option Fault × Sink :=
  if _hb : b = [] then (none, s)
  else
    match h : s.write b with
    | (.took 0, s') => (some .writeZero, s')
    | (.took (n + 1), s') => writeAll s' (b.drop (n + 1))
    | (.interrupted, s') => writeAll s' b
    | (.failed f, s') => (some f, s')
termination_by (b.length, s.pending)
decreasing_by
  · apply Prod.Lex.left
    have := List.length_pos_iff.2 _hb
    simp only [List.length_drop]
    omega
  · apply Prod.Lex.right
    unfold write at h
    split at h
    · next k hk => cases h; simp [hk]
    · split at h
      · cases h
      · split at h
        · split at h <;> cases h
        · cases h

/-- How many more bytes `s'` has accepted than `s`. -/
def keptSince (s' s : Sink) : Nat :=
  s'.accepted.size - s.accepted.size

/-- Flush a sink: the fault, if it fails. -/
def flush (s : Sink) : Option Fault :=
  s.flushFault

end Sink

end LineShell
