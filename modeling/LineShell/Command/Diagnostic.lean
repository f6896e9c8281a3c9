import LineShell.Host

/-!
# Diagnostics

A failure that the shell survives is told in one line. The line is written in pieces: the mark in
front, the pieces of the message, and the end of the line. A sink for diagnostics that is broken is
noted and otherwise ignored: losing a message never stops the shell.
-/

namespace LineShell

/-- The pieces in which a diagnostic is written, from those of its message. -/
def diagnosticPieces (message : List Bytes) : List Bytes :=
  [utf8 "$", utf8 ": "] ++ message ++ [utf8 "\n"]

/-- The line that tells a message. -/
def diagnosticLine (message : Bytes) : Bytes :=
  utf8 "$: " ++ message ++ utf8 "\n"

/-- The pieces together are the line. -/
theorem flatten_diagnosticPieces (message : List Bytes) :
    (diagnosticPieces message).flatten = diagnosticLine message.flatten := by
  have hmark : utf8 "$" ++ utf8 ": " = utf8 "$: " := by decide
  simp only [diagnosticPieces, diagnosticLine, List.flatten_append, List.flatten_cons,
    List.flatten_nil, List.append_nil, hmark]

/-- Write pieces one after another until one fails. -/
def Sink.writeEach (s : Sink) : List Bytes → Option Fault × Sink
  | [] => (none, s)
  | b :: rest =>
    match s.writeAll b with
    | (none, s') => s'.writeEach rest
    | (some f, s') => (some f, s')

/-- Tell a message that is given in pieces. -/
def report (message : List Bytes) (sink : Sink) : Journal × Sink :=
  let (fault, sink') := sink.writeEach (diagnosticPieces message)
  (.diagnosed (diagnosticLine message.flatten) (sink'.keptSince sink)
      :: (fault.map fun f => Entry.logged (.diagnosticLost f)).toList,
    sink')

end LineShell
