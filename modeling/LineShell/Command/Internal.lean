import LineShell.Command.Diagnostic

/-!
# Carrying out builtins

A builtin receives all words of the line, its own name first. `cd` looks at the second word only,
`exit` at none. A builtin that fails is reported and the shell goes on.
-/

namespace LineShell

namespace Builtin

variable {σ : Type}

/-- Carry out a builtin on the words of a line. -/
def run (h : Host σ) (b : Builtin) (words : List Bytes) (s : σ) :
    Act (Except BuiltinError Outcome) σ :=
  match b, words[1]? with
  | .exit, _ => ⟨.ok .terminate, [], s⟩
  | .cd, none => ⟨.error (.missingArgument b.name), [], s⟩
  | .cd, some target =>
    match h.changeDirectory target s with
    | (.ok (), s') =>
      ⟨.ok .continue, [.asked (.changeDirectory target), .logged (.directoryChanged target)], s'⟩
    | (.error f, s') =>
      ⟨.error (.changeDirectory b.name target f), [.asked (.changeDirectory target)], s'⟩

/-- Carry out a builtin and report its failure, if it fails. -/
def invoke (h : Host σ) (b : Builtin) (words : List Bytes) (a : Surroundings σ) :
    Act Outcome (Surroundings σ) :=
  match b.run h words a.host with
  | ⟨.ok outcome, j, s⟩ => ⟨outcome, j, { a with host := s }⟩
  | ⟨.error e, j, s⟩ =>
    let (told, sink) := report e.pieces a.diagnostics
    ⟨.continue, j ++ .logged (.builtinFailed b e) :: told, ⟨s, sink⟩⟩

end Builtin

end LineShell
