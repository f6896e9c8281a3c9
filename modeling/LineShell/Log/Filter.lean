import LineShell.Log.Directive

/-!
# Filters

A filter is a list of directives, written with commas between them. Of those that are about an
event the one that describes it most closely decides whether it is shown, and of equally close
ones the last. An event that no directive is about is not shown.
-/

namespace LineShell.Log

/-- A filter. -/
abbrev Filter := List Directive

namespace Filter

/-- The directive that describes its events most closely; of equally close ones the last. -/
def closest : List Directive → Option Directive
  | [] => none
  | d :: rest =>
    match closest rest with
    | none => some d
    | some e => if e.closeness < d.closeness then some d else some e

/-- Whether an event is shown. -/
def shows (f : Filter) (e : Event) : Bool :=
  match closest (f.filter (·.covers e)) with
  | none => false
  | some d => d.threshold.passes e.level

/-- The filter that has one threshold for all events. -/
def atThreshold (t : Threshold) : Filter := [{ threshold := t }]

/-- One threshold for all decides alone. -/
@[simp] theorem shows_atThreshold (t : Threshold) (e : Event) :
    (atThreshold t).shows e = t.passes e.level := by
  simp [shows, atThreshold, closest, Directive.covers]

/-- Read a text as a filter. Nothing between two commas says nothing. -/
def ofText? (b : Bytes) : Option Filter :=
  ((b.fields 44).filter (!·.isEmpty)).mapM Directive.ofText?

/-- The filter that a text asks for. If there is no text, or it is not written as a filter, warnings
are shown, and events of every level to a user who wants details. -/
def chosen (text : Option Bytes) (details : Bool) : Filter :=
  (text.bind ofText?).getD (atThreshold (if details then .debug else .warn))

end Filter

end LineShell.Log
