import LineShell.Event

/-!
# Log lines

The form in which an event is shown: when it happened, its level, its message, and its fields with
their names.
-/

namespace LineShell.Log

/-- The name of a level, right-aligned. -/
def levelText : Level → Bytes
  | .warn => utf8 " WARN"
  | .debug => utf8 "DEBUG"

/-- The names of levels are aligned. -/
theorem length_levelText (l : Level) : (levelText l).length = 5 := by
  cases l <;> decide

/-- A field in a log line. -/
def fieldText (name : String) (v : FieldValue) : Bytes :=
  utf8 (" " ++ name ++ "=") ++ v.inLine

/-- The line for an event; `stamp` says when it happened. -/
def line (stamp : Bytes) (e : Event) : Bytes :=
  stamp ++ utf8 " " ++ levelText e.level ++ utf8 (" " ++ e.message)
    ++ e.fields.flatMap (fun (name, v) => fieldText name v) ++ utf8 "\n"

end LineShell.Log
