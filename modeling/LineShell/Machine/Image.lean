import LineShell.Machine.World

/-!
# Starting programs

A program is found by its path, or by its name in the directories of the search path. An installed
program is started as it is; an executable text that names its interpreter in its first line is
started by that interpreter. Other files cannot be started.
-/

namespace LineShell.Machine

/-- A program that is ready to run. -/
structure Image where
  tool : Tool
  /-- The name under which it was started. -/
  name : Bytes
  args : List Bytes
  deriving DecidableEq, Repr

/-- The words of the first line of a text that begins with a number sign and an exclamation mark:
the path of an interpreter and at most one argument, which may hold blanks. -/
def interpreter? (content : Bytes) : Option (Bytes × Option Bytes) :=
  match content with
  | 35 :: 33 :: rest =>
    let isBlank (b : UInt8) : Bool := b == 32 || b == 9
    let line := (rest.take 254).takeWhile (· != newlineByte)
    let line := ((line.dropWhile isBlank).reverse.dropWhile isBlank).reverse
    let path := line.takeWhile (!isBlank ·)
    let arg := (line.drop path.length).dropWhile isBlank
    if path.isEmpty then none else some (path, if arg.isEmpty then none else some arg)
  | _ => none
where
  /-- The end of a line. -/
  newlineByte : UInt8 := 10

/-- The length from which on an argument is too long. -/
def argumentLimit : Nat := 131072

/-- The program at a path, started under a name with arguments. Interpreters may be texts with
interpreters in turn, to a depth. -/
def Files.image (fs : Files) (start : Nat) (depth : Nat) (path name : Bytes) (args : List Bytes) :
    Except Errno Image :=
  match fs.find start path with
  | .error e => .error e
  | .ok n =>
    match fs.file n with
    | .tool t =>
      if args.any (argumentLimit ≤ ·.length) then .error .argumentsTooLong else .ok ⟨t, name, args⟩
    | .regular content true =>
      if args.any (argumentLimit ≤ ·.length) then .error .argumentsTooLong
      else
        match interpreter? content, depth with
        | none, _ => .error .execFormat
        | some _, 0 => .error .linkLoop
        | some (interpreter, arg), depth + 1 =>
          fs.image start depth interpreter interpreter (arg.toList ++ path :: args)
    | _ => .error .accessDenied

/-- How many interpreters may stand behind each other. -/
def interpreterDepth : Nat := 5

/-- Whether a search goes on with the next directory after an error. -/
def searchGoesOn (e : Errno) : Bool :=
  e == .noEntry || e == .notDirectory || e == .accessDenied

/-- Search directories for a program. A denied permission is remembered until one is found; other
errors than these and a missing file end the search. -/
def Files.search (fs : Files) (start : Nat) (name : Bytes) (args : List Bytes) (last : Errno)
    (denied : Bool) : List Bytes → Except Errno Image
  | [] => .error (if denied then .accessDenied else last)
  | folder :: rest =>
    let path := if folder.isEmpty then name else folder ++ [slash] ++ name
    match fs.image start interpreterDepth path name args with
    | .ok image => .ok image
    | .error e =>
      if searchGoesOn e then
        fs.search start name args e (denied || e == .accessDenied) rest
      else .error e

/-- The program that a name means: a path if there is a slash in it, otherwise what is found in the
directories of the search path. An empty one among them is the working directory. -/
def Files.program (fs : Files) (s : Setting) (name : Bytes) (args : List Bytes) :
    Except Errno Image :=
  if name.contains slash then fs.image s.here interpreterDepth name name args
  else
    let path := (s.valueOf? "PATH").getD (utf8 "/bin:/usr/bin")
    fs.search s.here name args .noEntry false (path.fields 58)

end LineShell.Machine
