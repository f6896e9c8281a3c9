import LineShell.Bytes

/-!
# Scripts

The language of shell scripts, as far as the machine's shell knows it: commands with assignments
and redirections, sequences, pipes, conditions, loops, subshells and jobs in the background. A
script is cut into words and marks first.
-/

namespace LineShell.Machine

/-- What a dollar sign can stand before. -/
inductive Parameter where
  /-- An argument by its number; the name of the script is number 0. -/
  | argument (n : Nat)
  /-- How many arguments there are. -/
  | count
  /-- All arguments, each a word of its own. -/
  | all
  /-- All arguments in one word. -/
  | joined
  /-- The status of the last command. -/
  | status
  /-- The number of the shell's process. -/
  | process
  /-- A variable. -/
  | variable (name : Bytes)
  deriving DecidableEq, Repr

/-- A part of a word. -/
inductive Part where
  /-- Text; quoted text is kept as it is. -/
  | text (b : Bytes) (quoted : Bool)
  /-- The value of a parameter; a quoted one is not cut into words. -/
  | parameter (p : Parameter) (quoted : Bool)
  deriving DecidableEq, Repr

/-- A word of a script. -/
abbrev ScriptWord := List Part

/-- A word or a mark of a script. -/
inductive Token where
  /-- A word; whether it stands directly behind what is before it, and its line. -/
  | word (parts : ScriptWord) (glued : Bool) (line : Nat)
  /-- A mark that belongs to no word, or an end of line. -/
  | mark (c : UInt8) (glued : Bool)
  deriving DecidableEq, Repr

/-- Where a redirection leads. -/
inductive Redirection where
  /-- A descriptor to a file, which is emptied first unless text is appended. -/
  | toFile (descriptor : Nat) (append : Bool) (target : ScriptWord)
  /-- A descriptor to where another one leads. -/
  | duplicate (descriptor : Nat) (source : ScriptWord)
  /-- Standard input from a file. -/
  | fromFile (source : ScriptWord)
  deriving DecidableEq, Repr

/-- What can be wrong with the text of a script. -/
inductive ScriptFlaw where
  /-- A quoted text does not end. -/
  | openQuote
  /-- The name of a parameter does not end. -/
  | openBrace
  /-- Words and marks do not fit together. -/
  | misplaced
  deriving DecidableEq, Repr

/-- Why a text is no script, and on which of its lines that is seen. -/
structure ScriptFault where
  line : Nat
  flaw : ScriptFlaw
  deriving DecidableEq, Repr

/-- The wording of a flaw. -/
def ScriptFlaw.message : ScriptFlaw → String
  | openQuote => "Syntax error: Unterminated quoted string"
  | openBrace => "Syntax error: Missing '\x7d'"
  | misplaced => "Syntax error"

/-- A script. -/
inductive Script where
  /-- Nothing. -/
  | nothing
  /-- A command on a line: assignments, words and redirections. -/
  | command (line : Nat) (assignments : List (Bytes × ScriptWord)) (words : List ScriptWord)
    (redirections : List Redirection)
  /-- One after the other. -/
  | sequence (first second : Script)
  /-- The second if the first succeeds. -/
  | both (first second : Script)
  /-- The second if the first fails. -/
  | either (first second : Script)
  /-- The opposite status. -/
  | negation (body : Script)
  /-- Two at once, the second reading what the first prints. -/
  | pipe (first second : Script)
  /-- Commands with redirections of their own, in a shell of their own if `separate`. -/
  | group (separate : Bool) (body : Script) (redirections : List Redirection)
  /-- A job in the background. -/
  | background (job : Script)
  /-- As long as a condition holds, or until it does. -/
  | loop (untilHolds : Bool) (condition body : Script)
  /-- A choice. -/
  | choice (condition yes no : Script)
  /-- For each of some words, or of the arguments. -/
  | each (name : Bytes) (words : Option (List ScriptWord)) (body : Script)
  deriving Repr

/-! ## Words and marks -/

namespace Lexer

/-- Where in a script its reader is. -/
inductive Mode where
  | plain | single | double | comment
  /-- Behind a backslash. -/
  | escape (inDouble : Bool)
  /-- Behind a dollar sign. -/
  | dollar (inDouble : Bool)
  /-- In the name of a variable. -/
  | name (got : Bytes) (inDouble : Bool)
  /-- Between braces. -/
  | brace (got : Bytes) (inDouble : Bool)
  deriving DecidableEq, Repr

/-- What has been read. Sequences stand in reverse. -/
structure Progress where
  tokens : List Token := []
  /-- The parts of the open word, if there is one. -/
  word : Option (List Part) := none
  /-- The text at the end of the open word. -/
  text : Bytes := []
  /-- Whether that text is quoted. -/
  quoted : Bool := false
  mode : Mode := .plain
  /-- Whether what comes next stands directly behind the last token. -/
  glued : Bool := false
  line : Nat := 1

/-- Whether a byte can begin a name. -/
def beginsName (c : UInt8) : Bool :=
  (65 ≤ c && c ≤ 90) || (97 ≤ c && c ≤ 122) || c == 95

/-- Whether a byte can stand in a name. -/
def inName (c : UInt8) : Bool :=
  beginsName c || (48 ≤ c && c ≤ 57)

/-- The parameter with a name of one sign. -/
def special? (c : UInt8) : Option Parameter :=
  if 48 ≤ c ∧ c ≤ 57 then some (.argument (c.toNat - 48))
  else if c = 35 then some .count
  else if c = 64 then some .all
  else if c = 42 then some .joined
  else if c = 63 then some .status
  else if c = 36 then some .process
  else none

/-- The parameter with a name. -/
def named (b : Bytes) : Parameter :=
  match b with
  | [c] => (special? c).getD (.variable b)
  | _ =>
    match (Bytes.decode? b).bind (String.ofList · |>.toNat?) with
    | some n => .argument n
    | none => .variable b

/-- Close the text at the end of the open word. -/
def closeText (p : Progress) : Progress :=
  if p.text.isEmpty then p
  else { p with word := some (.text p.text.reverse p.quoted :: p.word.getD []), text := [] }

/-- Close the open word, if there is one. -/
def closeWord (p : Progress) : Progress :=
  let p := closeText p
  match p.word with
  | none => p
  | some parts =>
    { p with tokens := .word parts.reverse p.glued p.line :: p.tokens, word := none, glued := true }

/-- Add a byte to the open word. -/
def addByte (c : UInt8) (quoted : Bool) (p : Progress) : Progress :=
  let p := if p.quoted = quoted then p else closeText p
  { p with word := some (p.word.getD []), text := c :: p.text, quoted := quoted }

/-- Begin quoted text, which makes a word even if it is empty. -/
def beginQuotes (mode : Mode) (p : Progress) : Progress :=
  let p := closeText p
  { p with word := some (.text [] true :: p.word.getD []), quoted := true, mode := mode }

/-- Add a parameter to the open word. -/
def addParameter (r : Parameter) (inDouble : Bool) (p : Progress) : Progress :=
  let p := closeText p
  { p with
    word := some (.parameter r inDouble :: p.word.getD [])
    mode := if inDouble then .double else .plain }

/-- Read a byte outside of quotes. -/
def readPlain (c : UInt8) (p : Progress) : Progress :=
  if c = 32 ∨ c = 9 then { closeWord p with glued := false }
  else if c = 10 then
    let p := closeWord p
    { p with tokens := .mark 10 p.glued :: p.tokens, glued := false, line := p.line + 1 }
  else if c = 35 ∧ p.word.isNone then { p with mode := .comment }
  else if c = 39 then beginQuotes .single p
  else if c = 34 then beginQuotes .double p
  else if c = 92 then { p with word := some (p.word.getD []), mode := .escape false }
  else if c = 36 then { p with word := some (p.word.getD []), mode := .dollar false }
  else if (utf8 ";&|()<>").contains c then
    let p := closeWord p
    { p with tokens := .mark c p.glued :: p.tokens, glued := true }
  else addByte c false p

/-- Read a byte between double quotes. -/
def readDouble (c : UInt8) (p : Progress) : Progress :=
  if c = 34 then { p with mode := .plain }
  else if c = 92 then { p with mode := .escape true }
  else if c = 36 then { p with mode := .dollar true }
  else addByte c true { p with line := if c = 10 then p.line + 1 else p.line }

/-- Read a byte behind what belongs to a dollar sign. -/
def readBehind (c : UInt8) (inDouble : Bool) (p : Progress) : Progress :=
  if inDouble then readDouble c p else readPlain c p

/-- Read one byte. -/
def read (p : Progress) (c : UInt8) : Progress :=
  match p.mode with
  | .plain => readPlain c p
  | .single =>
    if c = 39 then { p with mode := .plain }
    else addByte c true { p with line := if c = 10 then p.line + 1 else p.line }
  | .double => readDouble c p
  | .comment => if c = 10 then readPlain c { p with mode := .plain } else p
  | .escape false =>
    if c = 10 then { p with mode := .plain, line := p.line + 1 }
    else addByte c true { p with mode := .plain }
  | .escape true =>
    if c = 10 then { p with mode := .double, line := p.line + 1 }
    else if c = 36 ∨ c = 34 ∨ c = 92 ∨ c = 96 then addByte c true { p with mode := .double }
    else addByte c true (addByte 92 true { p with mode := .double })
  | .dollar inDouble =>
    if c = 123 then { p with mode := .brace [] inDouble }
    else if beginsName c then { p with mode := .name [c] inDouble }
    else
      match special? c with
      | some r => addParameter r inDouble p
      | none =>
        readBehind c inDouble
          (addByte 36 inDouble { p with mode := if inDouble then .double else .plain })
  | .name got inDouble =>
    if inName c then { p with mode := .name (c :: got) inDouble }
    else readBehind c inDouble (addParameter (.variable got.reverse) inDouble p)
  | .brace got inDouble =>
    if c = 125 then addParameter (named got.reverse) inDouble p
    else { p with mode := .brace (c :: got) inDouble }

/-- Close the word at the end of a script, unless quotes or braces are still open there. -/
def finish (p : Progress) : Except ScriptFault Progress :=
  match p.mode with
  | .plain | .comment => .ok (closeWord p)
  | .escape false => .ok (closeWord (addByte 92 false p))
  | .dollar false => .ok (closeWord (addByte 36 false p))
  | .name got false => .ok (closeWord (addParameter (.variable got.reverse) false p))
  | .brace .. => .error ⟨p.line, .openBrace⟩
  | .single | .double | .escape true | .dollar true | .name _ true => .error ⟨p.line, .openQuote⟩

end Lexer

/-- The words and marks of a script. -/
def Token.ofBytes (b : Bytes) : Except ScriptFault (List Token) :=
  (Lexer.finish (b.foldl Lexer.read {})).map fun p => p.tokens.reverse

/-! ## Structure -/

namespace Script

/-- The text of a word that is all plain text. -/
def plainText? : ScriptWord → Option Bytes
  | [.text b false] => some b
  | _ => none

/-- Whether a token is a word with exactly this plain text. -/
def isWord (name : String) : Token → Bool
  | .word parts _ _ => plainText? parts == some (utf8 name)
  | .mark .. => false

/-- Whether a token ends a list of commands. -/
def endsList : Token → Bool
  | .mark c _ => c == 41
  | t => ["then", "else", "elif", "fi", "do", "done", "\x7d"].any (isWord · t)

/-- Tokens without the ends of line and semicolons at the front. -/
def skipBreaks : List Token → List Token
  | .mark c g :: rest => if c = 10 ∨ c = 59 then skipBreaks rest else .mark c g :: rest
  | ts => ts

/-- A plain text that is an assignment: the name and the value's start. -/
def assignment? : ScriptWord → Option (Bytes × ScriptWord)
  | .text b false :: rest =>
    let name := b.takeWhile Lexer.inName
    match name, b.drop name.length with
    | c :: _, 61 :: value =>
      if Lexer.beginsName c then
        some (name, if value.isEmpty then rest else .text value false :: rest)
      else none
    | _, _ => none
  | _ => none

/-- Read a redirection at the front of tokens, of a descriptor if one is given before it. -/
def redirection? : List Token → Option (Redirection × List Token)
  | .word [.text [d] false] g l :: .mark c true :: rest =>
    if 48 ≤ d ∧ d ≤ 57 ∧ (c = 60 ∨ c = 62) then marked (d.toNat - 48) (.mark c false :: rest)
    else marked 1 (.word [.text [d] false] g l :: .mark c true :: rest)
  | ts => marked 1 ts
where
  /-- Read a redirection that begins with its mark. -/
  marked (d : Nat) : List Token → Option (Redirection × List Token)
    | .mark 62 _ :: .mark 62 true :: .word w _ _ :: rest => some (.toFile d true w, rest)
    | .mark 62 _ :: .mark 38 true :: .word w _ _ :: rest => some (.duplicate d w, rest)
    | .mark 62 _ :: .mark 124 true :: .word w _ _ :: rest => some (.toFile d false w, rest)
    | .mark 62 _ :: .word w _ _ :: rest => some (.toFile d false w, rest)
    | .mark 60 _ :: .word w _ _ :: rest => some (.fromFile w, rest)
    | _ => none

/-- Read as many redirections as there are, at most `n`. -/
def redirections (n : Nat) (ts : List Token) : List Redirection × List Token :=
  match n, redirection? ts with
  | n + 1, some (r, rest) =>
    let (rs, rest) := redirections n rest
    (r :: rs, rest)
  | _, _ => ([], ts)

/-- Read a simple command. -/
def simple (n : Nat) (line : Nat) (assignments : List (Bytes × ScriptWord))
    (words : List ScriptWord) (rs : List Redirection) (ts : List Token) : Script × List Token :=
  let done := command line assignments.reverse words.reverse rs.reverse
  match n with
  | 0 => (done, ts)
  | n + 1 =>
    match redirection? ts with
    | some (r, rest) => simple n line assignments words (r :: rs) rest
    | none =>
      match ts with
      | .word w _ _ :: rest =>
        match words, assignment? w with
        | [], some a => simple n line (a :: assignments) [] rs rest
        | _, _ => simple n line assignments (w :: words) rs rest
      | _ => (done, ts)

/-- The words up to the end of a line. -/
def wordsOfLine : List Token → List ScriptWord × List Token
  | .word w _ _ :: rest =>
    let (ws, rest) := wordsOfLine rest
    (w :: ws, rest)
  | ts => ([], ts)

mutual

/-- Read a list of commands. -/
def list (n : Nat) (ts : List Token) : Option (Script × List Token) :=
  match n with
  | 0 => none
  | n + 1 =>
    match skipBreaks ts with
    | [] => some (nothing, [])
    | t :: rest =>
      if endsList t then some (nothing, t :: rest)
      else
        match chain n (t :: rest) with
        | none => none
        | some (first, ts) =>
          match ts with
          | .mark 38 _ :: ts =>
            (list n ts).map fun (second, ts) => (sequence (background first) second, ts)
          | [] => some (first, [])
          | t :: rest =>
            if endsList t then some (first, t :: rest)
            else if t matches .mark 10 _ | .mark 59 _ then
              (list n (t :: rest)).map fun (second, ts) => (sequence first second, ts)
            else none

/-- Read commands that depend on each other. -/
def chain (n : Nat) (ts : List Token) : Option (Script × List Token) :=
  match n with
  | 0 => none
  | n + 1 => (pipeline n ts).bind fun (first, ts) => links n first ts

/-- Read what depends on the command before it. -/
def links (n : Nat) (first : Script) (ts : List Token) : Option (Script × List Token) :=
  match n with
  | 0 => none
  | n + 1 =>
    match ts with
    | .mark 38 _ :: .mark 38 true :: ts =>
      (pipeline n (skipBreaks ts)).bind fun (second, ts) => links n (both first second) ts
    | .mark 124 _ :: .mark 124 true :: ts =>
      (pipeline n (skipBreaks ts)).bind fun (second, ts) => links n (either first second) ts
    | ts => some (first, ts)

/-- Read commands that print to each other, or the opposite of such. -/
def pipeline (n : Nat) (ts : List Token) : Option (Script × List Token) :=
  match n with
  | 0 => none
  | n + 1 =>
    match ts with
    | t :: rest =>
      if isWord "!" t then (pipeline n rest).map fun (s, ts) => (negation s, ts)
      else (single n (t :: rest)).bind fun (first, ts) => pipes n first ts
    | [] => none

/-- Read what the command before it prints to. -/
def pipes (n : Nat) (first : Script) (ts : List Token) : Option (Script × List Token) :=
  match n with
  | 0 => none
  | n + 1 =>
    match ts with
    | .mark 124 _ :: .mark 124 true :: _ => some (first, ts)
    | .mark 124 _ :: ts =>
      (single n (skipBreaks ts)).bind fun (second, ts) => pipes n (pipe first second) ts
    | ts => some (first, ts)

/-- Read one command. -/
def single (n : Nat) (ts : List Token) : Option (Script × List Token) :=
  match n, ts with
  | 0, _ | _, [] => none
  | n + 1, t :: rest =>
    if t matches .mark 40 _ then
      (list n rest).bind fun
        | (body, .mark 41 _ :: ts) =>
          let (rs, ts) := redirections ts.length ts
          some (group true body rs, ts)
        | _ => none
    else if isWord "\x7b" t then
      (list n rest).bind fun
        | (body, t :: ts) =>
          if isWord "\x7d" t then
            let (rs, ts) := redirections ts.length ts
            some (group false body rs, ts)
          else none
        | _ => none
    else if isWord "if" t then decision n rest
    else if isWord "while" t ∨ isWord "until" t then
      (list n rest).bind fun (condition, ts) =>
        (doneBody n ts).map fun (body, rs, ts) =>
          (group false (loop (isWord "until" t) condition body) rs, ts)
    else if isWord "for" t then
      match rest with
      | .word w _ _ :: ts =>
        let ts := match ts with
          | .mark 10 _ :: _ => skipBreaks ts
          | ts => ts
        let (ws, ts) := match ts with
          | t :: ts =>
            if isWord "in" t then
              let (ws, ts) := wordsOfLine ts
              (some ws, ts)
            else (none, t :: ts)
          | [] => (none, [])
        (plainText? w).bind fun name =>
          (doneBody n (skipBreaks ts)).map fun (body, rs, ts) =>
            (group false (each name ws body) rs, ts)
      | _ => none
    else
      match t with
      | .word _ _ line => some (simple (2 * (rest.length + 1)) line [] [] [] (t :: rest))
      | .mark c _ =>
        if c = 60 ∨ c = 62 then some (simple (2 * (rest.length + 1)) 1 [] [] [] (t :: rest))
        else none

/-- Read a body between `do` and `done`, and the redirections behind it. -/
def doneBody (n : Nat) (ts : List Token) : Option (Script × List Redirection × List Token) :=
  match n, ts with
  | 0, _ | _, [] => none
  | n + 1, t :: rest =>
    if isWord "do" t then
      (list n rest).bind fun
        | (body, t :: ts) =>
          if isWord "done" t then
            let (rs, ts) := redirections ts.length ts
            some (body, rs, ts)
          else none
        | _ => none
    else none

/-- Read a choice behind its first word. -/
def decision (n : Nat) (ts : List Token) : Option (Script × List Token) :=
  match n with
  | 0 => none
  | n + 1 =>
    (list n ts).bind fun
      | (condition, t :: ts) =>
        if isWord "then" t then
          (list n ts).bind fun
            | (yes, t :: ts) =>
              if isWord "fi" t then
                let (rs, ts) := redirections ts.length ts
                some (group false (choice condition yes nothing) rs, ts)
              else if isWord "else" t then
                (list n ts).bind fun
                  | (no, t :: ts) =>
                    if isWord "fi" t then
                      let (rs, ts) := redirections ts.length ts
                      some (group false (choice condition yes no) rs, ts)
                    else none
                  | _ => none
              else if isWord "elif" t then
                (decision n ts).map fun (no, ts) => (choice condition yes no, ts)
              else none
            | _ => none
        else none
      | _ => none

end

/-- The script that a text holds. -/
def ofBytes (b : Bytes) : Except ScriptFault Script :=
  match Token.ofBytes b with
  | .error f => .error f
  | .ok ts =>
    match list (10 * ts.length + 10) ts with
    | some (s, []) => .ok s
    | _ => .error ⟨1, .misplaced⟩

end Script

end LineShell.Machine
