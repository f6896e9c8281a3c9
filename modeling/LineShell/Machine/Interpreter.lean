import LineShell.Child
import LineShell.Machine.Image
import LineShell.Machine.Script
import LineShell.Machine.Toolbox

/-!
# Running scripts

The machine's shell carries out scripts. It has commands of its own and starts programs for all
others. It can send signals to itself: one that ends it, or one that stops it until a job in its
background sends another one that lets it go on.
-/

namespace LineShell.Machine

/-- The state of a running script. -/
structure Running where
  setting : Setting
  world : World
  /-- The name of the script. -/
  name : Bytes
  /-- The arguments of the script. -/
  args : List Bytes
  /-- The variables that programs do not see. -/
  unshared : List (Bytes × Bytes) := []
  /-- The status of the last command. -/
  status : Nat := 0
  /-- The number of the shell's process. -/
  process : Nat
  /-- Whether that process is still there. -/
  alive : Bool := true
  /-- Whether this is a job in the background. -/
  inJob : Bool := false
  /-- Jobs in the background that have not run yet. -/
  jobs : List Script := []
  /-- The signals that stopped the shell, last one first. -/
  stops : List Nat := []

/-- How a script goes on after a command. -/
inductive Flow where
  /-- With the next command. -/
  | next
  /-- It has exited. -/
  | exited (status : Nat)
  /-- A signal has killed the shell. -/
  | killed (signal : Nat)
  /-- It is stopped, and nothing resumes it. -/
  | stuck
  /-- A job has resumed the shell. -/
  | resumed
  /-- It leaves so many loops. -/
  | left (n : Nat)
  /-- It goes on with the next round of a loop, leaving so many others. -/
  | again (n : Nat)
  deriving DecidableEq, Repr

/-- How a script goes on behind commands in a shell of their own. -/
def Flow.ofSeparate : Flow → Flow
  | exited _ | left _ | again _ => next
  | flow => flow

/-- The status of a shell that has exited, and otherwise that of its last command. -/
def Flow.statusOr (last : Nat) : Flow → Nat
  | exited status => status
  | _ => last

namespace Running

/-- The decimal digits of a number. -/
def digits (n : Nat) : Bytes :=
  utf8 (toString n)

/-- The value of a variable. -/
def lookup (r : Running) (name : Bytes) : Bytes :=
  ((r.unshared.lookup name).or (r.setting.environment.lookup name)).getD []

/-- The value of a parameter as one text. -/
def value (r : Running) : Parameter → Bytes
  | .argument 0 => r.name
  | .argument (n + 1) => r.args[n]?.getD []
  | .count => digits r.args.length
  | .all | .joined => (r.args.intersperse [32]).flatten
  | .status => digits r.status
  | .process => digits r.process
  | .variable name => r.lookup name

/-- Whether a byte separates the words of a value. -/
def separates (b : UInt8) : Bool :=
  b == 32 || b == 9 || b == 10

/-- Words that are being put together: the closed ones, in reverse, and the open one. -/
structure Field where
  closed : List Bytes := []
  opened : Option Bytes := none

/-- Close the open word. -/
def Field.close (f : Field) : Field :=
  ⟨f.opened.toList ++ f.closed, none⟩

/-- Add text to the open word. -/
def Field.add (b : Bytes) (f : Field) : Field :=
  { f with opened := some (f.opened.getD [] ++ b) }

/-- Add the words of a value: the first joins the open word, the last stays open. -/
def Field.addWords (b : Bytes) (f : Field) : Field :=
  b.foldl (fun f c => if separates c then f.close else f.add [c]) f

/-- Add words each of its own, the first to the open one. -/
def Field.addEach (f : Field) : List Bytes → Field
  | [] => f
  | [x] => f.add x
  | x :: rest => ((f.add x).close).addEach rest

/-- The words that a word of a script stands for. -/
def expand (r : Running) (w : ScriptWord) : List Bytes :=
  let w := if w.contains (.parameter .all true) then w.filter (· != .text [] true) else w
  let f := w.foldl (fun (f : Field) part =>
    match part with
    | .text b _ => f.add b
    | .parameter .all true => f.addEach r.args
    | .parameter p true => f.add (r.value p)
    | .parameter p false => f.addWords (r.value p)) {}
  f.close.closed.reverse

/-- The text that a word of a script stands for where it is not cut into words. -/
def expandWhole (r : Running) (w : ScriptWord) : Bytes :=
  w.flatMap fun
    | .text b _ => b
    | .parameter p _ => r.value p

/-- Print a complaint with the place in the script. -/
def complain (r : Running) (line : Nat) (text : Bytes) : Running :=
  { r with world := r.world.complain r.setting (r.name ++ utf8 ": " ++ digits line) text }

/-- Set a variable; one of the environment stays there. -/
def assign (r : Running) (name v : Bytes) : Running :=
  if (r.setting.environment.lookup name).isSome then
    { r with setting.environment :=
        r.setting.environment.map fun (k, old) => (k, if k = name then v else old) }
  else { r with unshared := (name, v) :: r.unshared.filter (·.1 != name) }

/-- Put a variable into the environment. -/
def exportVariable (r : Running) (name : Bytes) : Running :=
  if (r.setting.environment.lookup name).isSome then r
  else
    { r with
      setting.environment := r.setting.environment ++ [(name, r.lookup name)]
      unshared := r.unshared.filter (·.1 != name) }

/-! ## Redirections -/

/-- The outlet to a file, emptied first unless text is appended. -/
def openOutlet (r : Running) (append : Bool) (path : Bytes) : Except Bytes (Outlet × World) :=
  match r.world.files.openOrMake r.setting.here path with
  | .error e =>
    .error (utf8 "cannot create " ++ path ++ utf8 ": "
      ++ if e = .noEntry then utf8 "Directory nonexistent" else errorText e)
  | .ok (n, files) =>
    match files.file n with
    | .directory _ => .error (utf8 "cannot create " ++ path ++ utf8 ": Is a directory")
    | .device .null => .ok (.nowhere, { r.world with files := files })
    | .device .full => .ok (.full, { r.world with files := files })
    | .regular _ executable =>
      .ok (.file n, { r.world with
        files := if append then files else files.set n (.regular [] executable) })
    | _ => .ok (.nowhere, { r.world with files := files })

/-- Carry out a redirection, or tell why not. -/
def redirect (r : Running) : Redirection → Except Bytes Running
  | .toFile d append target =>
    match r.openOutlet append (r.expandWhole target) with
    | .error text => .error text
    | .ok (o, world) =>
      let r := { r with world := world }
      .ok (if d = 2 then { r with setting.err := o } else { r with setting.out := o })
  | .duplicate d source =>
    let o :=
      match r.expandWhole source with
      | [50] => r.setting.err
      | [49] => r.setting.out
      | _ => .nowhere
    .ok (if d = 2 then { r with setting.err := o } else { r with setting.out := o })
  | .fromFile source =>
    let path := r.expandWhole source
    match (r.world.files.find r.setting.here path).bind (contentOf r.world) with
    | .ok content => .ok { r with setting.input := content }
    | .error e =>
      .error (utf8 "cannot open " ++ path ++ utf8 ": "
        ++ if e = .noEntry then utf8 "No such file" else errorText e)

/-- Carry out redirections. -/
def redirectAll (r : Running) (rs : List Redirection) : Except Bytes Running :=
  rs.foldlM redirect r

/-! ## Commands of the shell itself -/

/-- Text with the escapes that the shell's own `echo` knows, and whether it ends the output. -/
def unescape : Bytes → Bytes × Bool
  | 92 :: c :: rest =>
    let simple (b : UInt8) : Bytes × Bool :=
      let (t, stop) := unescape rest
      (b :: t, stop)
    if c = 110 then simple 10
    else if c = 116 then simple 9
    else if c = 92 then simple 92
    else if c = 97 then simple 7
    else if c = 98 then simple 8
    else if c = 102 then simple 12
    else if c = 114 then simple 13
    else if c = 118 then simple 11
    else if c = 99 then ([], true)
    else
      let (t, stop) := unescape rest
      (92 :: c :: t, stop)
  | c :: rest =>
    let (t, stop) := unescape rest
    (c :: t, stop)
  | [] => ([], false)

/-- Print words, as the shell's own `echo` does. -/
def echo (r : Running) (line : Nat) (words : List Bytes) : Running :=
  let (words, newline) := match words with
    | w :: rest => if w = utf8 "-n" then (rest, false) else (words, true)
    | [] => ([], true)
  let (text, stop) := unescape ((words.intersperse [32]).flatten)
  match r.world.print r.setting.out (text ++ if newline ∧ !stop then [10] else []) with
  | (true, w) => { r with world := w, status := 0 }
  | (false, w) =>
    { ({ r with world := w }).complain line (utf8 "echo: echo: I/O error") with status := 1 }

/-- Change the working directory of the shell. -/
def changeDirectory (r : Running) (line : Nat) (target : Bytes) : Running :=
  match r.world.files.find r.setting.here target with
  | .ok n =>
    if (r.world.files.directory? n).isSome then { r with setting.here := n, status := 0 }
    else { r.complain line (utf8 "cd: can't cd to " ++ target) with status := 2 }
  | .error _ => { r.complain line (utf8 "cd: can't cd to " ++ target) with status := 2 }

/-- The number that a text is. -/
def number? (b : Bytes) : Option Nat :=
  if !b.isEmpty && b.all fun c => 48 ≤ c && c ≤ 57 then
    some (b.foldl (fun n c => 10 * n + (c.toNat - 48)) 0)
  else none

/-- The signal that a text names, by number or by name. -/
def signal? (b : Bytes) : Option Nat :=
  match number? b with
  | some n => some n
  | none => (Bytes.decode? b).bind fun cs => signalOfName? (String.ofList (cs.map Char.toUpper))

/-- How `kill` is used. -/
def killUsage : String :=
  "kill: Usage: kill [-s sigspec | -signum | -sigspec] [pid | job]... or\nkill -l [exitstatus]"

/-- The signal and the processes that the words behind `kill` name. -/
def killTarget? : List Bytes → Option (Nat × List Bytes)
  | flag :: rest =>
    if flag = utf8 "-s" then
      match rest with
      | name :: ps => (signal? name).map (·, ps)
      | [] => none
    else
      match flag with
      | 45 :: name => (signal? name).map (·, rest)
      | _ => some (15, flag :: rest)
  | [] => none

/-- The program that a name means. A file of the right permission that is not in a form that can be
started is taken for a script. -/
def program (r : Running) (name : Bytes) (args : List Bytes) : Except Errno Image :=
  match r.world.files.program r.setting name args with
  | .error .execFormat => .ok ⟨.shell, utf8 "sh", name :: args⟩
  | result => result

/-- The text of a script in a file. What cannot be read holds nothing. -/
def scriptText (s : Setting) (w : World) (path : Bytes) : Except Errno Bytes :=
  match w.files.find s.here path with
  | .error e => .error e
  | .ok n => .ok ((contentOf w n).toOption.getD [])

/-- The text that a shell was started with, its name and its arguments, or why it ends at once. -/
def source (s : Setting) (w : World) (name : Bytes) :
    List Bytes → Except Bytes (Bytes × Bytes × List Bytes)
  | [] => .ok (s.input, name, [])
  | a :: rest =>
    if a = utf8 "-c" then
      match rest with
      | [] => .error (utf8 "-c requires an argument")
      | text :: rest => .ok (text, rest.headD name, rest.drop 1)
    else if a.head? = some 45 then source s w name rest
    else
      match scriptText s w a with
      | .ok text => .ok (text, a, rest)
      | .error e =>
        .error (utf8 "cannot open " ++ a ++ utf8 ": "
          ++ if e = .noEntry then utf8 "No such file" else errorText e)

/-- A shell at the start of its script, or the status with which it ends at once. -/
def start (image : Image) (s : Setting) (process : Nat) (w : World) :
    Except (Nat × World) (Script × Running) :=
  let complaint (name text : Bytes) (w : World) := w.complain s name text
  let w :=
    if (w.files.path? s.here).isSome then w
    else complaint (image.name ++ utf8 ": 0")
      (utf8 ("getcwd() failed: " ++ Errno.noEntry.text)) w
  match source s w image.name image.args with
  | .error text => .error (2, complaint (image.name ++ utf8 ": 0") text w)
  | .ok (text, name, args) =>
    match Script.ofBytes text with
    | .error f =>
      .error (2, complaint (name ++ utf8 ": " ++ digits f.line) (utf8 f.flaw.message) w)
    | .ok script =>
      .ok (script, { setting := s, world := w, name := name, args := args, process := process })

end Running

/-- What the machine's shell does with a word that names a command. -/
inductive OwnCommand where
  | succeed | fail | echo | cd | exit | kill | shift | exportVariable | wait | leave | again
  | tool (t : Tool)
  deriving DecidableEq, Repr

/-- The commands of the shell itself, by name. -/
def OwnCommand.names : List (String × OwnCommand) := [
  (":", .succeed), ("true", .succeed), ("false", .fail), ("echo", .echo), ("cd", .cd),
  ("exit", .exit), ("kill", .kill), ("shift", .shift), ("export", .exportVariable),
  ("wait", .wait), ("break", .leave), ("continue", .again), ("pwd", .tool .pwd),
  ("test", .tool .test), ("[", .tool .bracket), ("printf", .tool .printf)]

/-- The command of the shell itself with a name. -/
def OwnCommand.ofName? (name : Bytes) : Option OwnCommand :=
  (OwnCommand.names.find? fun (s, _) => utf8 s == name).map Prod.snd

mutual

/-- Carry out a script, in at most `n` nested steps. -/
def Script.run (n : Nat) (s : Script) (r : Running) : Flow × Running :=
  match n with
  | 0 => (.exited r.status, r)
  | n + 1 =>
    match s with
    | .nothing => (.next, r)
    | .command line assignments words rs =>
      let given := assignments.map fun (name, w) => (name, r.expandWhole w)
      match words.flatMap r.expand, r.redirectAll rs with
      | _, .error text => (.next, { r.complain line text with status := 2 })
      | [], .ok r' =>
        let r := given.foldl (fun r (name, v) => r.assign name v) { r with world := r'.world }
        (.next, { r with status := 0 })
      | name :: args, .ok r' =>
        match OwnCommand.ofName? name with
        | some c =>
          let (flow, r'') := c.run n line name args r'
          (flow, { r'' with
            setting.out := r.setting.out, setting.err := r.setting.err
            setting.input := r.setting.input })
        | none =>
          let r'' := given.foldl (fun r (name, v) => (r.assign name v).exportVariable name) r'
          let (flow, r''') := startProgram n line name args r''
          (flow, { r''' with setting := r.setting, unshared := r.unshared })
    | .sequence first second =>
      match first.run n r with
      | (.next, r) => second.run n r
      | result => result
    | .both first second =>
      match first.run n r with
      | (.next, r) => if r.status = 0 then second.run n r else (.next, r)
      | result => result
    | .either first second =>
      match first.run n r with
      | (.next, r) => if r.status = 0 then (.next, r) else second.run n r
      | result => result
    | .negation body =>
      match body.run n r with
      | (.next, r) => (.next, { r with status := if r.status = 0 then 1 else 0 })
      | result => result
    | .pipe first second =>
      let (between, files) := r.world.files.addNameless (.regular [] false)
      let (flow₁, r₁) := first.run n
        { r with world := { r.world with files := files }, setting.out := .file between }
      let r := { r with world := r₁.world, stops := r₁.stops }
      match flow₁.ofSeparate with
      | .next =>
        let (flow₂, r₂) := second.run n { r with setting.input := r.world.content between }
        (flow₂.ofSeparate, { r with
          world := r₂.world, stops := r₂.stops, status := flow₂.statusOr r₂.status })
      | flow => (flow, r)
    | .group separate body rs =>
      match r.redirectAll rs with
      | .error text => (.next, { r.complain 1 text with status := 2 })
      | .ok r' =>
        let (flow, r'') := body.run n r'
        if separate then
          (flow.ofSeparate,
            { r with world := r''.world, stops := r''.stops, status := flow.statusOr r''.status })
        else
          (flow, { r'' with
            setting.out := r.setting.out, setting.err := r.setting.err
            setting.input := r.setting.input })
    | .background job => (.next, { r with jobs := r.jobs ++ [job], status := 0 })
    | .loop untilHolds condition body =>
      match condition.run n r with
      | (.next, r) =>
        if (r.status = 0) = untilHolds then (.next, { r with status := 0 })
        else
          match body.run n r with
          | (.next, r) | (.again 0, r) => (Script.loop untilHolds condition body).run n r
          | (.left 0, r) => (.next, r)
          | (.left (k + 1), r) => (.left k, r)
          | (.again (k + 1), r) => (.again k, r)
          | result => result
      | result => result
    | .choice condition yes no =>
      match condition.run n r with
      | (.next, r) => if r.status = 0 then yes.run n r else no.run n { r with status := 0 }
      | result => result
    | .each name words body =>
      runEach n name ((words.map fun ws => ws.flatMap r.expand).getD r.args) body r
termination_by structural n

/-- Carry out a body for each of some values of a variable. -/
def runEach (n : Nat) (name : Bytes) (values : List Bytes) (body : Script) (r : Running) :
    Flow × Running :=
  match n with
  | 0 => (.exited r.status, r)
  | n + 1 =>
    match values with
    | [] => (.next, r)
    | v :: rest =>
      match body.run n (r.assign name v) with
      | (.next, r) | (.again 0, r) => runEach n name rest body r
      | (.left 0, r) => (.next, r)
      | (.left (k + 1), r) => (.left k, r)
      | (.again (k + 1), r) => (.again k, r)
      | result => result
termination_by structural n

/-- Carry out a command of the shell itself. -/
def OwnCommand.run (n : Nat) (c : OwnCommand) (line : Nat) (name : Bytes) (args : List Bytes)
    (r : Running) : Flow × Running :=
  match n with
  | 0 => (.exited r.status, r)
  | n + 1 =>
    let level := ((args.head?.bind Running.number?).getD 1) - 1
    match c with
    | .succeed => (.next, { r with status := 0 })
    | .fail => (.next, { r with status := 1 })
    | .echo => (.next, r.echo line args)
    | .cd =>
      match args with
      | [] => (.next, { r.complain line (utf8 "cd: HOME not set") with status := 2 })
      | target :: _ => (.next, r.changeDirectory line target)
    | .exit =>
      match args with
      | [] => (.exited r.status, r)
      | a :: _ =>
        match Running.number? a with
        | some k => (.exited (k % 256), r)
        | none => (.exited 2, r.complain line (utf8 "exit: Illegal number: " ++ a))
    | .kill => sendSignal n line args r
    | .shift => (.next, { r with args := r.args.drop (level + 1), status := 0 })
    | .exportVariable =>
      (.next, args.foldl (fun r a =>
        let k := a.takeWhile (· != 61)
        let r := if k.length < a.length then r.assign k (a.drop (k.length + 1)) else r
        r.exportVariable k) { r with status := 0 })
    | .wait => (.next, { r with status := 0 })
    | .leave => (.left level, { r with status := 0 })
    | .again => (.again level, { r with status := 0 })
    | .tool t =>
      let (status, w) := t.run r.setting name args r.world
      (.next, { r with status := status, world := w })
termination_by structural n

/-- Send a signal to the processes that are named. The shell itself is the only one there is. -/
def sendSignal (n : Nat) (line : Nat) (args : List Bytes) (r : Running) : Flow × Running :=
  match n with
  | 0 => (.exited r.status, r)
  | n + 1 =>
    match Running.killTarget? args with
    | none => (.next, { r.complain line (utf8 Running.killUsage) with status := 2 })
    | some (signal, targets) =>
      if !r.alive ∨ targets != [Running.digits r.process] then
        (.next, { r.complain line (utf8 "kill: No such process\n") with status := 1 })
      else if signal = 0 then (.next, { r with status := 0 })
      else
        match signalAction signal with
        | .terminate => (.killed signal, r)
        | .ignore => (.next, { r with status := 0 })
        | .resume => if r.inJob then (.resumed, r) else (.next, { r with status := 0 })
        | .stop =>
          match runJobs n { r with stops := signal :: r.stops, inJob := true } with
          | (.resumed, w) =>
            (.next, { r with world := w, stops := signal :: r.stops, jobs := [], status := 0 })
          | (_, w) => (.stuck, { r with world := w, stops := signal :: r.stops, jobs := [] })
termination_by structural n

/-- Run the jobs in the background until one resumes the shell. -/
def runJobs (n : Nat) (r : Running) : Flow × World :=
  match n with
  | 0 => (.next, r.world)
  | n + 1 =>
    match r.jobs with
    | [] => (.next, r.world)
    | job :: rest =>
      match job.run n { r with jobs := [] } with
      | (.resumed, r') => (.resumed, r'.world)
      | (_, r') => runJobs n { r with world := r'.world, jobs := rest }
termination_by structural n

/-- Start a program from a script and wait for it. -/
def startProgram (n : Nat) (line : Nat) (name : Bytes) (args : List Bytes) (r : Running) :
    Flow × Running :=
  match n with
  | 0 => (.exited r.status, r)
  | n + 1 =>
    match r.program name args with
    | .ok image =>
      match image.run n r.setting r.process r.world with
      | (.exited k, _, w) => (.next, { r with status := k, world := w })
      | (.killed k, _, w) => (.next, { r with status := 128 + k, world := w })
      | (_, _, w) => (.stuck, { r with world := w })
    | .error e =>
      if e = .accessDenied then
        (.next, { r.complain line (name ++ utf8 ": Permission denied") with status := 126 })
      else (.next, { r.complain line (name ++ utf8 ": not found") with status := 127 })
termination_by structural n

/-- Run a program: how it ended, the signals that stopped it meanwhile, and the world after it. -/
def Image.run (n : Nat) (image : Image) (s : Setting) (process : Nat) (w : World) :
    Flow × List Nat × World :=
  match n with
  | 0 => (.exited 0, [], w)
  | n + 1 =>
    match image.tool with
    | .shell =>
      match Running.start image s process w with
      | .error (status, w) => (.exited status, [], w)
      | .ok (script, r) =>
        let (flow, r) := script.run n r
        let flow := match flow with
          | .exited k => .exited k
          | .killed k => .killed k
          | .stuck => .stuck
          | _ => .exited r.status
        (flow, r.stops, (runJobs n { r with alive := false, inJob := true }).2)
    | .env =>
      let (cleared, args) := match image.args with
        | a :: rest =>
          if a = utf8 "-i" ∨ a = utf8 "-" then ([], rest) else (s.environment, a :: rest)
        | [] => (s.environment, [])
      let given := args.takeWhile (·.contains 61)
      let s := { s with environment := cleared ++ given.map fun a =>
        let k := a.takeWhile (· != 61)
        (k, a.drop (k.length + 1)) }
      match args.drop given.length with
      | [] =>
        let (status, w) := w.answer s image.name (environmentLines s.environment) 0
        (.exited status, [], w)
      | name :: args =>
        match w.files.program s name args with
        | .ok image => image.run n s process w
        | .error e =>
          (.exited (if e = .noEntry then 127 else 126), [],
            w.complain s image.name (shownName name ++ utf8 ": " ++ errorText e))
    | t =>
      let (status, w) := t.run s image.name image.args w
      (.exited status, [], w)
termination_by structural n

end

end LineShell.Machine
