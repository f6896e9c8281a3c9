import LineShell.Machine.World

/-!
# What the tools do

Each tool takes its name and its arguments, changes files, prints, and ends with a status. Their
complaints show names between single quotes.
-/

namespace LineShell.Machine

/-- Whether a byte is printed as it is between single quotes. -/
def isPlainByte (b : UInt8) : Bool :=
  0x20 ≤ b && b < 0x7F && b != 0x27

/-- An octal escape of a byte. -/
def octal (b : UInt8) : Bytes :=
  let digit (n : Nat) : UInt8 := UInt8.ofNat (48 + n)
  [0x5C, digit (b.toNat / 64), digit (b.toNat / 8 % 8), digit (b.toNat % 8)]

/-- A byte that has to be escaped between quotes that allow it. -/
def escapedByte (b : UInt8) : Bytes :=
  if b = 0x0A then utf8 "\\n" else if b = 0x09 then utf8 "\\t" else if b = 0x0D then utf8 "\\r"
  else if b = 0x07 then utf8 "\\a" else if b = 0x08 then utf8 "\\b" else if b = 0x0B then utf8 "\\v"
  else if b = 0x0C then utf8 "\\f" else if b = 0x27 then utf8 "\\'" else octal b

/-- A name between single quotes, from inside (`inside`) or outside of them. Bytes that are not
printed as they are stand in escaping quotes of their own. -/
def quotedOnto (inside escaping : Bool) : Bytes → Bytes
  | [] => if inside ∨ escaping then utf8 "'" else []
  | b :: rest =>
    if isPlainByte b then
      (if inside then [] else if escaping then utf8 "''" else utf8 "'") ++ b
        :: quotedOnto true false rest
    else
      (if escaping then [] else if inside then utf8 "'$'" else utf8 "''$'") ++ escapedByte b
        ++ quotedOnto false true rest

/-- A name as complaints show it. -/
def shownName (name : Bytes) : Bytes :=
  if name.all fun b => isPlainByte b || b == 0x27 then
    if name.contains 0x27 then utf8 "\"" ++ name ++ utf8 "\"" else utf8 "'" ++ name ++ utf8 "'"
  else quotedOnto false false name

/-- A name as complaints show it where quotes are left out if they can be. -/
def bareName (name : Bytes) : Bytes :=
  if !name.isEmpty && name.all fun b =>
      (48 ≤ b && b ≤ 57) || (65 ≤ b && b ≤ 90) || (97 ≤ b && b ≤ 122)
        || (utf8 "%+,-./:@_").contains b then name
  else shownName name

/-- Do something for each operand: the status is 1 if it failed for one of them. -/
def forEach (f : Bytes → World → Option Bytes × World) (s : Setting) (name : Bytes) :
    List Bytes → World → Nat × World
  | [], w => (0, w)
  | x :: rest, w =>
    match f x w with
    | (none, w) => forEach f s name rest w
    | (some complaint, w) => (1, (forEach f s name rest (w.complain s name complaint)).2)

/-- A complaint about how a tool was called. -/
def misuse (s : Setting) (name : Bytes) (text : String) (w : World) : Nat × World :=
  (1, w.complain s name (utf8 text ++ utf8 "\nTry '" ++ name
    ++ utf8 " --help' for more information."))

/-- The options and the operands among arguments. -/
def splitOptions : List Bytes → Bytes × List Bytes
  | [] => ([], [])
  | a :: rest =>
    if a = utf8 "--" then ([], rest)
    else
      let (options, operands) := splitOptions rest
      match a with
      | 45 :: x :: xs => ((x :: xs) ++ options, operands)
      | _ => (options, a :: operands)

/-- Whether a letter is among options. -/
def hasOption (options : Bytes) (letters : String) : Bool :=
  options.any (utf8 letters).contains

/-- The text of an error number. -/
def errorText (e : Errno) : Bytes :=
  utf8 e.text

/-- Do something to the files, or complain. -/
def attempt (w : World) (complaint : Bytes) (r : Except Errno Files) : Option Bytes × World :=
  match r with
  | .ok files => (none, { w with files := files })
  | .error e => (some (complaint ++ utf8 ": " ++ errorText e), w)

/-- Print arguments; a leading `-n` leaves out the end of line. -/
def runEcho (s : Setting) (name : Bytes) (args : List Bytes) (w : World) : Nat × World :=
  let isFlag (a : Bytes) : Bool :=
    a.head? == some 45 && 1 < a.length && (a.drop 1).all fun b => (utf8 "neE").contains b
  let flags := args.takeWhile isFlag
  let text := ((args.dropWhile isFlag).intersperse [32]).flatten
  w.answer s name (text ++ if flags.any (·.contains 110) then [] else [10]) 0

/-- Print the working directory. -/
def runPwd (s : Setting) (name : Bytes) (w : World) : Nat × World :=
  match w.files.path? s.here with
  | some path => w.answer s name (path ++ [10]) 0
  | none =>
    (1, w.complain s name (utf8 "couldn't find directory entry in '..' with matching i-node"))

/-- Make files that are not there. -/
def runTouch (s : Setting) (name : Bytes) (args : List Bytes) (w : World) : Nat × World :=
  let (options, operands) := splitOptions args
  if operands.isEmpty then misuse s name "missing file operand" w
  else
    forEach (fun x w =>
      if hasOption options "c" then (none, w)
      else attempt w (utf8 "cannot touch " ++ shownName x)
        ((w.files.openOrMake s.here x).map Prod.snd)) s name operands w

/-- Make directories. -/
def runMkdir (s : Setting) (name : Bytes) (args : List Bytes) (w : World) : Nat × World :=
  let (options, operands) := splitOptions args
  if operands.isEmpty then misuse s name "missing operand" w
  else
    forEach (fun x w =>
      let complaint := utf8 "cannot create directory " ++ shownName x
      if hasOption options "p" then
        (none, { w with files :=
          (w.files.makeDirectories (if x.head? = some slash then 0 else s.here) (components x)).2 })
      else attempt w complaint (w.files.makeDirectory s.here x)) s name operands w

/-- Remove empty directories. -/
def runRmdir (s : Setting) (name : Bytes) (args : List Bytes) (w : World) : Nat × World :=
  let (_, operands) := splitOptions args
  if operands.isEmpty then misuse s name "missing operand" w
  else
    forEach (fun x w =>
      attempt w (utf8 "failed to remove " ++ shownName x) (w.files.removeDirectory s.here x))
      s name operands w

/-- Remove files, and directories with all below them if told so. -/
def runRm (s : Setting) (name : Bytes) (args : List Bytes) (w : World) : Nat × World :=
  let (options, operands) := splitOptions args
  let force := hasOption options "f"
  if operands.isEmpty then if force then (0, w) else misuse s name "missing operand" w
  else
    forEach (fun x w =>
      let complaint := utf8 "cannot remove " ++ shownName x
      match w.files.resolve s.here x false with
      | .ok { folder, name := n, file := some m } =>
        if (w.files.directory? m).isSome ∧ hasOption options "rR" then
          if n.isEmpty then
            (some (utf8 "refusing to remove '.' or '..' directory: skipping " ++ shownName x), w)
          else (none, { w with files := w.files.removeTree ⟨folder, n, some m⟩ m })
        else attempt w complaint (w.files.unlink s.here x)
      | .ok { file := none, .. } =>
        if force then (none, w) else (some (complaint ++ utf8 ": " ++ errorText .noEntry), w)
      | .error e =>
        if force ∧ (e = .noEntry ∨ e = .notDirectory) then (none, w)
        else (some (complaint ++ utf8 ": " ++ errorText e), w)) s name operands w

/-- The last component of a path. -/
def lastName (path : Bytes) : Bytes :=
  ((path.fields slash).filter (!·.isEmpty)).getLast?.getD path

/-- The path of a file that is put to a place: inside it, if the place is a directory. -/
def placed (s : Setting) (w : World) (source target : Bytes) : Bytes :=
  match w.files.find s.here target with
  | .ok n =>
    if (w.files.directory? n).isSome then target ++ [slash] ++ lastName source else target
  | .error _ => target

/-- Make a link. -/
def runLn (s : Setting) (name : Bytes) (args : List Bytes) (w : World) : Nat × World :=
  let (options, operands) := splitOptions args
  let symbolic := hasOption options "s"
  let link (source target : Bytes) : Nat × World :=
    let path := placed s w source target
    let complaint :=
      utf8 (if symbolic then "failed to create symbolic link " else "failed to create hard link ")
        ++ shownName path
    let result :=
      if symbolic then w.files.makeLink s.here source path
      else
        match w.files.find s.here source false, w.files.freeSpot s.here path false with
        | .ok n, .ok spot => .ok (w.files.enter spot.folder spot.name n)
        | .error e, _ => .error e
        | _, .error e => .error e
    match attempt w complaint result with
    | (none, w) => (0, w)
    | (some text, w) => (1, w.complain s name text)
  match operands with
  | [source] => link source (lastName source)
  | [source, target] => link source target
  | [] => misuse s name "missing file operand" w
  | _ => (1, w)

/-- The file that is shown for a path: what it leads to, or a link that leads nowhere. -/
def shownFile (s : Setting) (w : World) (path : Bytes) : Except Errno Nat :=
  match w.files.find s.here path with
  | .error e =>
    if e = .noEntry ∨ e = .linkLoop then w.files.find s.here path false else .error e
  | r => r

/-- Show the names in directories. -/
def runLs (s : Setting) (name : Bytes) (args : List Bytes) (w : World) : Nat × World :=
  let (options, operands) := splitOptions args
  let hidden (b : Bytes) : Bool := b.head? == some 46
  let contents (n : Nat) : Bytes :=
    let names := (w.files.entries n).map Prod.fst
    let names :=
      if hasOption options "a" then dot :: dotDot :: names
      else if hasOption options "A" then names
      else names.filter (!hidden ·)
    names.flatMap (· ++ [10])
  let operands := if operands.isEmpty then [dot] else operands
  let found := (operands.mergeSort fun a b => !nameBefore b a).map fun x => (x, shownFile s w x)
  let isDirectory (n : Nat) : Bool := (w.files.directory? n).isSome && !hasOption options "d"
  let failures := found.filterMap fun
    | (x, .error e) => some (utf8 "cannot access " ++ shownName x ++ utf8 ": " ++ errorText e)
    | _ => none
  let single := found.filterMap fun
    | (x, .ok n) => if isDirectory n then none else some (x ++ [10])
    | _ => none
  let folders := found.filterMap fun
    | (x, .ok n) => if isDirectory n then some (x, contents n) else none
    | _ => none
  let blocks :=
    folders.map fun (x, b) => if operands.length = 1 then b else bareName x ++ utf8 ":\n" ++ b
  let parts := (if single.isEmpty then [] else [single.flatten]) ++ blocks
  let w := failures.foldl (fun w text => w.complain s name text) w
  w.answer s name ((parts.intersperse [10]).flatten) (if failures.isEmpty then 0 else 2)

/-- The content of a file. -/
def contentOf (w : World) (n : Nat) : Except Errno Bytes :=
  match w.files.file n with
  | .directory _ => .error .isDirectory
  | _ => .ok (w.content n)

/-- Print files, or standard input. -/
def runCat (s : Setting) (name : Bytes) (args : List Bytes) (w : World) : Nat × World :=
  let (_, operands) := splitOptions args
  if operands.isEmpty then w.answer s name s.input 0
  else
    forEach (fun x w =>
      if x = utf8 "-" then (none, (w.print s.out s.input).2)
      else
        match (w.files.find s.here x).bind (contentOf w) with
        | .ok content => (none, (w.print s.out content).2)
        | .error e => (some (bareName x ++ utf8 ": " ++ errorText e), w)) s name operands w

/-- Copy a file. -/
def runCp (s : Setting) (name : Bytes) (args : List Bytes) (w : World) : Nat × World :=
  match (splitOptions args).2 with
  | [source, target] =>
    match w.files.find s.here source with
    | .error e =>
      (1, w.complain s name (utf8 "cannot stat " ++ shownName source ++ utf8 ": " ++ errorText e))
    | .ok n =>
      match w.files.file n with
      | .directory _ =>
        (1, w.complain s name
          (utf8 "-r not specified; omitting directory " ++ shownName source))
      | file =>
        let path := placed s w source target
        match w.files.openOrMake s.here path with
        | .error e =>
          (1, w.complain s name
            (utf8 "cannot create regular file " ++ shownName path ++ utf8 ": " ++ errorText e))
        | .ok (m, files) => (0, { w with files := files.set m file })
  | [source] =>
    misuse s name (String.ofList ((Bytes.decode?
      (utf8 "missing destination file operand after " ++ shownName source)).getD [])) w
  | _ => misuse s name "missing file operand" w

/-- Move a file. -/
def runMv (s : Setting) (name : Bytes) (args : List Bytes) (w : World) : Nat × World :=
  match (splitOptions args).2 with
  | [source, target] =>
    match w.files.resolve s.here source false with
    | .ok { folder, name := old, file := some n } =>
      let path := placed s w source target
      match w.files.resolve s.here path false with
      | .error e =>
        (1, w.complain s name (utf8 "cannot move " ++ shownName source ++ utf8 " to "
          ++ shownName path ++ utf8 ": " ++ errorText e))
      | .ok spot =>
        let files := (w.files.leave folder old).enter spot.folder spot.name n
        (0, { w with files := files.editDirectory n fun d => { d with parent := spot.folder } })
    | .ok _ =>
      (1, w.complain s name
        (utf8 "cannot stat " ++ shownName source ++ utf8 ": " ++ errorText .noEntry))
    | .error e =>
      (1, w.complain s name (utf8 "cannot stat " ++ shownName source ++ utf8 ": " ++ errorText e))
  | [source] =>
    misuse s name (String.ofList ((Bytes.decode?
      (utf8 "missing destination file operand after " ++ shownName source)).getD [])) w
  | _ => misuse s name "missing file operand" w

/-- Whether a condition holds: on strings, on numbers or on files. -/
def holds (s : Setting) (w : World) : List Bytes → Bool
  | [] => false
  | [x] => !x.isEmpty
  | [op, x] =>
    let file? := (w.files.find s.here x).toOption.map w.files.file
    if op = utf8 "!" then x.isEmpty
    else if op = utf8 "-n" then !x.isEmpty
    else if op = utf8 "-z" then x.isEmpty
    else if op = utf8 "-e" then file?.isSome
    else if op = utf8 "-d" then file? matches some (.directory _)
    else if op = utf8 "-f" then file? matches some (.regular ..) | some (.tool _)
    else if op = utf8 "-x" then
      file? matches some (.regular _ true) | some (.tool _) | some (.directory _)
    else if op = utf8 "-s" then file? matches some (.regular (_ :: _) _) | some (.tool _)
    else if op = utf8 "-L" ∨ op = utf8 "-h" then
      (w.files.find s.here x false).toOption.map w.files.file matches some (.link _)
    else false
  | [x, op, y] =>
    let numbers (test : Int → Int → Bool) : Bool :=
      match (Bytes.decode? x).bind (String.ofList · |>.toInt?),
        (Bytes.decode? y).bind (String.ofList · |>.toInt?) with
      | some m, some n => test m n
      | _, _ => false
    if op = utf8 "=" then x == y
    else if op = utf8 "!=" then x != y
    else if op = utf8 "-eq" then numbers (· == ·)
    else if op = utf8 "-ne" then numbers (· != ·)
    else if op = utf8 "-lt" then numbers (· < ·)
    else if op = utf8 "-le" then numbers (· ≤ ·)
    else if op = utf8 "-gt" then numbers (· > ·)
    else if op = utf8 "-ge" then numbers (· ≥ ·)
    else if x = utf8 "!" then !holds s w [op, y]
    else false
  | x :: rest => if x = utf8 "!" then !holds s w rest else false

/-- Test a condition; a bracket needs its counterpart. -/
def runTest (s : Setting) (name : Bytes) (bracket : Bool) (args : List Bytes) (w : World) :
    Nat × World :=
  if bracket then
    if args.getLast? = some (utf8 "]") then (if holds s w args.dropLast then 0 else 1, w)
    else (2, w.complain s name (utf8 "missing ']'"))
  else (if holds s w args then 0 else 1, w)

/-- Wait for a time, which must be a number. -/
def runSleep (s : Setting) (name : Bytes) (args : List Bytes) (w : World) : Nat × World :=
  let isTime (b : Bytes) : Bool :=
    !b.isEmpty && b.any (fun c => 48 ≤ c && c ≤ 57)
      && b.all fun c => (48 ≤ c && c ≤ 57) || (utf8 ".smhd").contains c
  match args.find? (!isTime ·) with
  | some x =>
    misuse s name (String.ofList ((Bytes.decode?
      (utf8 "invalid time interval " ++ shownName x)).getD [])) w
  | none => if args.isEmpty then misuse s name "missing operand" w else (0, w)

/-- The bytes of a format with its escapes and its string places carried out, and the arguments
left. -/
def formatted : Bytes → List Bytes → Bytes × List Bytes
  | 0x5C :: 110 :: rest, args => let (b, left) := formatted rest args; (10 :: b, left)
  | 0x5C :: 116 :: rest, args => let (b, left) := formatted rest args; (9 :: b, left)
  | 0x5C :: 0x5C :: rest, args => let (b, left) := formatted rest args; (0x5C :: b, left)
  | 37 :: 37 :: rest, args => let (b, left) := formatted rest args; (37 :: b, left)
  | 37 :: 115 :: rest, args =>
    let (b, left) := formatted rest (args.drop 1)
    (args.headD [] ++ b, left)
  | 37 :: 100 :: rest, args =>
    let (b, left) := formatted rest (args.drop 1)
    (args.headD (utf8 "0") ++ b, left)
  | c :: rest, args => let (b, left) := formatted rest args; (c :: b, left)
  | [], args => ([], args)

/-- The bytes of a format that is used again until no arguments are left, at most `n` times. -/
def formattedAll (n : Nat) (format : Bytes) (args : List Bytes) : Bytes :=
  match n with
  | 0 => []
  | n + 1 =>
    let (b, left) := formatted format args
    if left.isEmpty ∨ left.length = args.length then b else b ++ formattedAll n format left

/-- Print by a format. -/
def runPrintf (s : Setting) (name : Bytes) (args : List Bytes) (w : World) : Nat × World :=
  match args with
  | [] => misuse s name "missing operand" w
  | format :: args => w.answer s name (formattedAll (args.length + 1) format args) 0

/-- An environment as lines. -/
def environmentLines (e : List (Bytes × Bytes)) : Bytes :=
  e.flatMap fun (k, v) => k ++ [61] ++ v ++ [10]

/-- Print the environment, or the values of some of its variables. -/
def runPrintenv (s : Setting) (name : Bytes) (args : List Bytes) (w : World) : Nat × World :=
  if args.isEmpty then w.answer s name (environmentLines s.environment) 0
  else
    let values := args.map fun a => s.environment.lookup a
    w.answer s name (values.flatMap fun v => v.elim [] (· ++ [10]))
      (if values.all Option.isSome then 0 else 1)

/-- Run a tool that starts no other program. -/
def Tool.run (t : Tool) (s : Setting) (name : Bytes) (args : List Bytes) (w : World) :
    Nat × World :=
  match t with
  | .succeed => (0, w)
  | .fail => (1, w)
  | .echo => runEcho s name args w
  | .pwd => runPwd s name w
  | .touch => runTouch s name args w
  | .mkdir => runMkdir s name args w
  | .rmdir => runRmdir s name args w
  | .rm => runRm s name args w
  | .ln => runLn s name args w
  | .ls => runLs s name args w
  | .cat => runCat s name args w
  | .cp => runCp s name args w
  | .mv => runMv s name args w
  | .test => runTest s name false args w
  | .bracket => runTest s name true args w
  | .sleep => runSleep s name args w
  | .printf => runPrintf s name args w
  | .printenv => runPrintenv s name args w
  | .env | .shell => (0, w)

end LineShell.Machine
