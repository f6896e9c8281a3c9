import LineShell.Fault.Errno

/-!
# I/O faults

Why a read, a write, a change of directory or the start of a program failed. A fault is a cause;
its wording is `Fault.message` alone. A wording is written piece by piece, and a sink may stop
between any two pieces.
-/

namespace LineShell

/-- The cause of a failed input or output operation. -/
inductive Fault where
  /-- The operating system refused with an error number. -/
  | os (number : Errno)
  /-- A fault of any other origin, with its own text. -/
  | other (text : String)
  /-- The operation was interrupted and may be made again. -/
  | interrupted
  /-- A writer took none of the bytes it was given. -/
  | writeZero
  /-- A line of input is not well-formed UTF-8. -/
  | illFormedInput
  /-- The bytes of a keystroke are not well-formed UTF-8. -/
  | illFormedKey
  /-- A path holds a zero byte. -/
  | zeroInPath
  /-- A word for a new program holds a zero byte. -/
  | zeroInWord
  deriving DecidableEq, Repr

/-- The pieces in which a number is written: its sign, if it has one, and its digits. -/
def numberPieces : Int → List Bytes
  | .ofNat n => [utf8 (toString n)]
  | .negSucc n => [utf8 "-", utf8 (toString (n + 1))]

namespace Fault

/-- The pieces in which the wording of a fault is written. -/
def pieces : Fault → List Bytes
  | os n => [utf8 n.text, utf8 " (os error "] ++ numberPieces n ++ [utf8 ")"]
  | other t => [utf8 t]
  | interrupted => [utf8 "operation interrupted"]
  | writeZero => [utf8 "failed to write whole buffer"]
  | illFormedInput => [utf8 "stream did not contain valid UTF-8"]
  | illFormedKey => [utf8 "invalid data"]
  | zeroInPath => [utf8 "file name contained an unexpected NUL byte"]
  | zeroInWord => [utf8 "nul byte found in provided data"]

/-- The wording of a fault. -/
def message (f : Fault) : Bytes :=
  f.pieces.flatten

theorem message_other (text : String) : (other text).message = utf8 text :=
  List.append_nil _

/-- The kind of a fault. -/
def kind : Fault → FaultKind
  | os n => n.kind
  | other _ => .other
  | interrupted => .interrupted
  | writeZero => .writeZero
  | illFormedInput => .invalidData
  | illFormedKey => .invalidData
  | zeroInPath => .invalidInput
  | zeroInWord => .invalidInput

/-- Whether the failed call is simply to be made again. -/
def isInterruption (f : Fault) : Bool :=
  f.kind == .interrupted

end Fault

end LineShell
