import LineShell.Machine
import LineShell.Program
import Std.Time.Format

/-!
# The command line

Runs the shell on a machine that lives in memory: programs see its files and no others. Standard
input is read to its end before the first command is carried out, so a terminal on it is read as a
stream.
-/

namespace LineShell

/-- The variable of the environment that holds the filter for the log. -/
def filterVariable : String := "RUST_LOG"

/-- A variable of the environment, as bytes. -/
def variableBytes (name : String) : IO (Option Bytes) := do
  return (← IO.getEnv name).map utf8

/-- Everything that a stream still gives, behind what it gave already. -/
partial def readRest (input : IO.FS.Stream) (got : ByteArray) : IO ByteArray := do
  let more ← input.read 65536
  if more.isEmpty then return got
  readRest input (got ++ more)

/-- The time of day, as log lines show it. -/
def timeStamp : IO String := do
  let now := Std.Time.DateTime.ofTimestamp (← Std.Time.Timestamp.now) .UTC
  return now.format "uuuu-MM-dd'T'HH:mm:ss.SSSSSS'Z'"

end LineShell

open LineShell in
/-- Run the shell on the words behind the name of the program. -/
def main (words : List String) : IO UInt32 := do
  let filter ← variableBytes filterVariable
  let kind ← variableBytes "TERM"
  let input ← readRest (← IO.getStdin) .empty
  let inherited := [("TERM", kind), (filterVariable, filter)].filterMap fun (name, value) =>
    value.map (utf8 name, ·)
  let machine := Machine.withWorkshop (utf8 "/tmp/workshop") (utf8 "/tmp/workshop/4/3/2/1/root")
    Machine.standardPath inherited
  let ending := Program.run Machine.host (utf8 (← timeStamp)) {
      name := utf8 Log.programName
      words := words.map utf8
      filter := filter
      terminalKind := kind
      input := .stream { script := [.bytes input.toList] } }
    machine
  (← IO.getStdout).write ⟨ending.out.toArray⟩
  (← IO.getStderr).write ⟨ending.err.toArray⟩
  return ending.code.toUInt32
