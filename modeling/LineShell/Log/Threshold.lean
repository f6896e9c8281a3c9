import LineShell.Event

/-!
# Thresholds

How much is to be seen of a log: a threshold lets the events of some levels pass. It is written by
its name, in letters of either case, or by its number.
-/

namespace LineShell.Log

/-- A threshold. Each lets pass what the one before it does, and perhaps more. -/
inductive Threshold where
  | off | error | warn | info | debug | trace
  deriving DecidableEq, Repr

namespace Threshold

/-- The thresholds; the number of each is its place. -/
def all : List Threshold := [off, error, warn, info, debug, trace]

theorem mem_all (t : Threshold) : t ∈ all := by
  cases t <;> simp [all]

/-- The name of a threshold. -/
def name : Threshold → String
  | off => "off"
  | error => "error"
  | warn => "warn"
  | info => "info"
  | debug => "debug"
  | trace => "trace"

/-- Whether events of a level pass. -/
def passes : Threshold → Level → Bool
  | off, _ | error, _ => false
  | warn, l | info, l => l = .warn
  | debug, _ | trace, _ => true

/-- The number that a text writes in decimal digits, with or without a plus sign. -/
def numeral? (b : Bytes) : Option Nat :=
  let digits := if b.head? = some 43 then b.drop 1 else b
  if digits ≠ [] ∧ digits.all (fun c => 48 ≤ c && c ≤ 57) then
    some (digits.foldl (fun n c => 10 * n + (c.toNat - 48)) 0)
  else none

/-- The threshold that a text writes. -/
def ofText? (b : Bytes) : Option Threshold :=
  match numeral? b with
  | some n => all[n]?
  | none => all.find? fun t => (utf8 t.name).sameButCase b

/-- Every threshold is written by its name. -/
theorem ofText?_name (t : Threshold) : ofText? (utf8 t.name) = some t := by
  cases t <;> decide

end Threshold

end LineShell.Log
