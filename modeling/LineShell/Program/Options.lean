import LineShell.Text.Lossy

/-!
# Options

What the words behind the name of the program ask for. The program takes options only: a word that
is no option is refused, and so is every option behind a call for help.
-/

namespace LineShell

/-- How the program is to work. -/
structure Options where
  /-- Log everything, not only warnings. -/
  verbose : Bool := false
  /-- Do not edit lines, even on a terminal. -/
  plain : Bool := false
  deriving DecidableEq, Repr

/-- What a user who starts the program asks for. -/
inductive Demand where
  /-- To work as the options say. -/
  | work (o : Options)
  /-- To show how the program is used. -/
  | help
  deriving DecidableEq, Repr

/-- Why the words behind the name of the program were refused. -/
inductive OptionsError where
  /-- A word is not well-formed UTF-8. -/
  | illFormed (word : Bytes)
  /-- A word is no option. -/
  | unrecognized (word : Bytes)
  /-- An option stands behind a call for help. -/
  | behindHelp
  deriving DecidableEq, Repr

namespace Options

/-- The words that call for help. -/
def helpWords : List Bytes := [utf8 "--help", utf8 "help"]

/-- The options once a word has been taken into account, if it is an option. -/
def add? (o : Options) (word : Bytes) : Option Options :=
  if word = utf8 "-v" ∨ word = utf8 "--verbose" then some { o with verbose := true }
  else if word = utf8 "--plain" then some { o with plain := true }
  else none

/-- Whether a word has the form of an option. -/
def isDashed (word : Bytes) : Bool :=
  word.startsWith (utf8 "-")

/-- Read words: `o` holds the options so far, and `help` says that help was called for. Behind two
dashes nothing is an option any more. -/
def readFrom (o : Options) (help : Bool) : List Bytes → Except OptionsError Demand
  | [] => .ok (if help then .help else .work o)
  | word :: rest =>
    if word ∈ helpWords then readFrom o true rest
    else if word = utf8 "--" then
      match rest with
      | [] => .ok (if help then .help else .work o)
      | word :: _ => .error (.unrecognized word)
    else if help && isDashed word then .error .behindHelp
    else
      match o.add? word with
      | some o => readFrom o help rest
      | none => .error (.unrecognized word)

/-- What the words behind the name of the program ask for. -/
def ofWords (words : List Bytes) : Except OptionsError Demand :=
  match words.find? (!Text.isWellFormed ·) with
  | some word => .error (.illFormed word)
  | none => readFrom {} false words

/-- How the program called `name` is used. -/
def usage (name : Bytes) : Bytes :=
  utf8 "Usage: " ++ name ++ utf8 " [-v] [--plain]

A minimal interactive shell: runs `cd`, `exit` and external programs.

Options:
  -v, --verbose     log debug events, including child process waits, to standard
                    error.
  --plain           read standard input as a plain stream even when it is a
                    terminal.
  --help, help      display usage information

"

end Options

/-- What the program called `name` says about words that it refuses. -/
def OptionsError.message (name : Bytes) : OptionsError → Bytes
  | illFormed word => utf8 "Invalid utf8: " ++ Text.lossy word ++ utf8 "\n"
  | unrecognized word => utf8 "Unrecognized argument: " ++ word ++ utf8 "\n" ++ hint
  | behindHelp => utf8 "Trailing arguments are not allowed after `help`." ++ hint
where
  /-- Where to look further. -/
  hint : Bytes := utf8 "\nRun " ++ name ++ utf8 " --help for more information.\n"

end LineShell
