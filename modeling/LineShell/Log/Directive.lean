import LineShell.Log.Threshold
import LineShell.Text.Blank
import LineShell.Text.Letters

/-!
# Directives

A directive says how much is to be seen of some of the events. It names the place that they come
from, a span of time that they fall into or a field that they have, or nothing of these, and a
threshold: `debug`, `place=warn`, `place[span]=info` or `[{field}]`. Without a threshold
everything passes.
-/

namespace LineShell.Log

/-- The name of the program, as it stands before the names of its parts. -/
def programName : String := "mini_shell"

/-- The name of the place that an event comes from. -/
def placeName : Origin → Bytes
  | .program => utf8 programName
  | .builtins => utf8 (programName ++ "::builtin")
  | .launching => utf8 (programName ++ "::external")
  | .loop => utf8 (programName ++ "::interpreter")
  | .input => utf8 (programName ++ "::io_adapters")
  | .reporting => utf8 (programName ++ "::command")

/-- Something that a directive asks of the fields of an event. -/
structure FieldDemand where
  /-- There is a field of this name. -/
  name : Bytes
  /-- It has a certain value, not just any. -/
  valued : Bool
  deriving DecidableEq, Repr

/-- A directive. -/
structure Directive where
  /-- The events come from a place whose name begins like this. -/
  place : Option Bytes := none
  /-- They fall into a span of this name. -/
  span : Option Bytes := none
  /-- They have this field. -/
  field : Option FieldDemand := none
  /-- What passes of them. -/
  threshold : Threshold := .trace
  deriving DecidableEq, Repr

namespace Directive

/-- Whether an event has a field. -/
def hasField (e : Event) (name : Bytes) : Bool :=
  ("message" :: e.fields.map Prod.fst).any fun k => utf8 k == name

/-- Whether a directive is about an event. No event of the shell falls into a span, and no
directive looks at the values of the fields outside of one. -/
def covers (d : Directive) (e : Event) : Bool :=
  d.span.isNone
    && d.place.all (fun p => (placeName e.origin).startsWith p)
    && d.field.all (fun f => !f.valued && hasField e f.name)

/-- How closely a directive describes its events, as a key: by a longer place name, then by a
field, then by the greater name of the field. -/
def closeness (d : Directive) : List Nat :=
  d.place.elim 0 (·.length + 1) :: d.field.elim [0] fun f => 1 :: f.name.map UInt8.toNat

/-! ## Reading directives -/

/-- The marks that set off the parts of a directive. -/
def equals : UInt8 := 61
def openBracket : UInt8 := 91
def closeBracket : UInt8 := 93
def openBrace : UInt8 := 123
def closeBrace : UInt8 := 125

/-- The part of a text that starts at a place and has a length. -/
def part (text : Bytes) (start length : Nat) : Bytes :=
  (text.drop start).take length

/-- The threshold that ends a directive. -/
def thresholdAt? (text : Bytes) (n : Nat) : Option Threshold :=
  if (text.drop n).isEmpty then some .trace else Threshold.ofText? (text.drop n)

/-- Read what follows a closing bracket. -/
def afterBracket? (marked text : Bytes) (n : Nat) (d : Directive) : Option Directive :=
  match marked.drop n with
  | [] => some d
  | c :: _ =>
    if c = equals then (thresholdAt? text (n + 1)).map fun t => { d with threshold := t }
    else none

/-- What a directive asks of fields between braces. -/
def demand (b : Bytes) : FieldDemand :=
  ⟨b.takeWhile (· ≠ equals), b.contains equals⟩

/-- Read what follows an opening bracket. -/
def bracket? (marked text : Bytes) (n : Nat) (d : Directive) : Option Directive :=
  let k := ((marked.drop n).takeWhile fun c => c ≠ closeBracket ∧ c ≠ openBrace).length
  let span := part text n k
  match marked.drop (n + k) with
  | [] => none
  | c :: inside =>
    if c = closeBracket then afterBracket? marked text (n + k + 1) { d with span := some span }
    else
      let m := (inside.takeWhile (· ≠ closeBrace)).length
      let field := part text (n + k + 1) m
      if field.isEmpty ∨ part marked (n + k + 1 + m) 2 ≠ [closeBrace, closeBracket] then none
      else
        afterBracket? marked text (n + k + m + 3)
          { d with span := if k = 0 then none else some span, field := some (demand field) }

/-- Whether a directive can begin with a character, other than an opening bracket. -/
def canBegin (c : Char) : Bool :=
  c == '-' || c == ':' || c == '_' || Text.isAlphanumeric c

/-- Read a text as a directive. Its marks are looked for in `marked`, the text without the blanks
at its ends, but its parts are taken from the text itself, at the places where the marks were. -/
def ofText? (text : Bytes) : Option Directive :=
  match (Bytes.decode? text).map Text.trim with
  | none | some [] => none
  | some (c :: cs) =>
    let marked := encode (c :: cs)
    if c = '[' then bracket? marked text 1 {}
    else if canBegin c then
      let k := (marked.takeWhile fun c => c ≠ equals ∧ c ≠ openBracket).length
      let place := text.take k
      match marked.drop k with
      | [] =>
        match Threshold.ofText? text with
        | some t => some { threshold := t }
        | none => some { place := some text }
      | c :: _ =>
        if c = equals then
          (thresholdAt? text (k + 1)).map fun t => { place := some place, threshold := t }
        else bracket? marked text (k + 1) { place := some place }
    else none

end Directive

end LineShell.Log
