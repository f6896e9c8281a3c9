import LineShell.Host
import LineShell.Machine.Files

/-!
# What running programs do

A running program changes files and prints. What it prints on a descriptor goes to an outlet: one
of the streams that can be seen, a file, a device.
-/

namespace LineShell.Machine

/-- Where printed bytes go. -/
inductive Outlet where
  /-- A stream that can be seen. -/
  | stream (s : Stream)
  /-- A file, at its end. -/
  | file (n : Nat)
  /-- Nowhere. -/
  | nowhere
  /-- A device without room. -/
  | full
  deriving DecidableEq, Repr

/-- The files, and what has been printed so far. -/
structure World where
  files : Files
  /-- What was printed on the streams, last one first. -/
  printed : List (Stream × Bytes) := []
  deriving DecidableEq, Repr

/-- What a program is given when it starts. -/
structure Setting where
  /-- Its working directory. -/
  here : Nat
  /-- Its environment, in order. -/
  environment : List (Bytes × Bytes)
  /-- Its standard output. -/
  out : Outlet := .stream .out
  /-- Its standard error. -/
  err : Outlet := .stream .err
  /-- Its standard input. -/
  input : Bytes := []
  deriving DecidableEq, Repr

namespace World

/-- Print bytes: whether there was room for them, and the world after it. -/
def print (o : Outlet) (b : Bytes) (w : World) : Bool × World :=
  if b.isEmpty then (true, w)
  else
    match o with
    | .stream s => (true, { w with printed := (s, b) :: w.printed })
    | .nowhere => (true, w)
    | .full => (false, w)
    | .file n =>
      match w.files.file n with
      | .regular content executable =>
        (true, { w with files := w.files.set n (.regular (content ++ b) executable) })
      | .device .full => (false, w)
      | _ => (true, w)

/-- What a regular file holds; other files hold nothing. -/
def content (w : World) (n : Nat) : Bytes :=
  match w.files.file n with
  | .regular content _ => content
  | _ => []

/-- Print a complaint of the program `name`. -/
def complain (s : Setting) (name text : Bytes) (w : World) : World :=
  (w.print s.err (name ++ utf8 ": " ++ text ++ utf8 "\n")).2

/-- Print the result of the program `name`: its status, and the world after it. -/
def answer (s : Setting) (name b : Bytes) (status : Nat) (w : World) : Nat × World :=
  match w.print s.out b with
  | (true, w) => (status, w)
  | (false, w) => (1, w.complain s name (utf8 ("write error: " ++ Errno.noSpace.text)))

end World

/-- The value of a variable of an environment. -/
def Setting.valueOf? (s : Setting) (name : String) : Option Bytes :=
  s.environment.lookup (utf8 name)

end LineShell.Machine
