import LineShell.Fault

/-!
# Builtin commands

The commands that the shell carries out itself. A name has to match exactly, byte for byte.
-/

namespace LineShell

/-- A command that the shell carries out itself. -/
inductive Builtin where
  /-- Change the working directory. -/
  | cd
  /-- Stop the shell. -/
  | exit
  deriving DecidableEq, Repr

namespace Builtin

/-- The name of a builtin. -/
def name : Builtin → Bytes
  | cd => utf8 "cd"
  | exit => utf8 "exit"

/-- All builtins. -/
def all : List Builtin := [cd, exit]

/-- The builtin with exactly the given name. -/
def lookup (word : Bytes) : Option Builtin :=
  all.find? fun b => b.name == word

theorem mem_all (b : Builtin) : b ∈ all := by
  cases b <;> simp [all]

/-- Looking up finds exactly the builtin that has the name. -/
theorem lookup_eq_some_iff (word : Bytes) (b : Builtin) :
    lookup word = some b ↔ word = b.name := by
  constructor
  · intro h
    have := List.find?_some h
    simpa using (beq_iff_eq.1 this).symm
  · rintro rfl
    cases b <;> decide

end Builtin

/-- Why a builtin failed. -/
inductive BuiltinError where
  /-- An argument is missing. -/
  | missingArgument (command : Bytes)
  /-- The working directory could not be changed. -/
  | changeDirectory (command path : Bytes) (cause : Fault)
  deriving DecidableEq, Repr

end LineShell
