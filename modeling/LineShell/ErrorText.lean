import LineShell.Builtin
import LineShell.Child
import LineShell.Text.Lossy
import LineShell.Words.Slots

/-!
# Wording of failures

The one-line texts of the shell's errors, in the pieces in which they are written. Names and paths
inside them are decoded lossily, so the texts are always well-formed: the name of a program at once,
a path part by part.
-/

namespace LineShell

open Text (lossy shownParts)

/-- The wording of a builtin's failure, in pieces. -/
def BuiltinError.pieces : BuiltinError → List Bytes
  | missingArgument command => [utf8 "expected argument to \"", command, utf8 "\""]
  | changeDirectory command path cause =>
    [command, utf8 ": "] ++ shownParts path ++ [utf8 ": "] ++ cause.pieces

/-- The wording of a builtin's failure. -/
def BuiltinError.message (e : BuiltinError) : Bytes :=
  e.pieces.flatten

theorem BuiltinError.message_changeDirectory (command path : Bytes) (cause : Fault) :
    (changeDirectory command path cause).message
      = command ++ utf8 ": " ++ lossy path ++ utf8 ": " ++ cause.message := by
  simp [message, pieces, Fault.message, Text.flatten_shownParts]

/-- The wording of a failure to run a program, in pieces. -/
def LaunchError.pieces : LaunchError → List Bytes
  | spawn program cause => [lossy program, utf8 ": "] ++ cause.pieces
  | wait pid cause =>
    [utf8 "waiting for process ", utf8 (toString pid), utf8 ": "] ++ cause.pieces

/-- The wording of a failure to run a program. -/
def LaunchError.message (e : LaunchError) : Bytes :=
  e.pieces.flatten

theorem LaunchError.message_spawn (program : Bytes) (cause : Fault) :
    (spawn program cause).message = lossy program ++ utf8 ": " ++ cause.message := by
  simp [message, pieces, Fault.message]

theorem LaunchError.message_wait (pid : Nat) (cause : Fault) :
    (wait pid cause).message
      = utf8 "waiting for process " ++ utf8 (toString pid) ++ utf8 ": " ++ cause.message := by
  simp [message, pieces, Fault.message]

/-- The wording of a failure to cut a line, in pieces. -/
def TokenizeError.pieces (e : TokenizeError) : List Bytes :=
  [utf8 "allocation error: ", utf8 "memory allocation failed",
    match e with
    | capacityOverflow =>
      utf8 " because the computed capacity exceeded the collection's maximum"
    | outOfMemory => utf8 " because the memory allocator returned an error"]

/-- The wording of a failure to cut a line. -/
def TokenizeError.message (e : TokenizeError) : Bytes :=
  e.pieces.flatten

/-- Why the shell stopped without having been told to. -/
inductive ShellError where
  /-- No line could be read. -/
  | read (cause : Fault)
  deriving DecidableEq, Repr

/-- The wording of a fatal failure, in pieces. -/
def ShellError.pieces : ShellError → List Bytes
  | read cause => utf8 "readline: " :: cause.pieces

/-- The wording of a fatal failure. -/
def ShellError.message (e : ShellError) : Bytes :=
  e.pieces.flatten

theorem ShellError.message_read (cause : Fault) :
    (read cause).message = utf8 "readline: " ++ cause.message := rfl

end LineShell
