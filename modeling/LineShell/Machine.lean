import LineShell.Machine.Interpreter

/-!
# The machine

A host with files, a handful of programs and a shell for scripts: small, but with the rules of
paths, links, permissions and the search for programs that a real one has. Programs take no time,
so a child has run as soon as it is waited for.
-/

namespace LineShell

/-- A machine with a working directory. -/
structure Machine where
  files : Machine.Files
  /-- The working directory. -/
  here : Nat
  /-- The environment of the programs that are started. -/
  environment : List (Bytes × Bytes)
  /-- Where the programs' standard output goes. -/
  out : Machine.Outlet := .stream .out
  /-- Where the programs' standard error goes. -/
  err : Machine.Outlet := .stream .err
  /-- What is left of the standard input. -/
  input : Bytes := []
  /-- Programs that have been started and have not run yet. -/
  children : List (Nat × Machine.Image) := []
  /-- The number of the next process. -/
  nextProcess : Nat := 1000

namespace Machine

/-- What a program is given when it is started. -/
def setting (m : Machine) : Setting where
  here := m.here
  environment := m.environment
  out := m.out
  err := m.err
  input := m.input

/-- Change the working directory. -/
def changeDirectory (path : Bytes) (m : Machine) : Except Fault Unit × Machine :=
  if path.contains 0 then (.error .zeroInPath, m)
  else
    match m.files.find m.here path with
    | .error e => (.error (.os e), m)
    | .ok n =>
      if (m.files.directory? n).isSome then (.ok (), { m with here := n })
      else (.error (.os .notDirectory), m)

/-- Start a program. -/
def spawn (program : Bytes) (args : List Bytes) (m : Machine) : Except Fault Nat × Machine :=
  if (program :: args).any (·.contains 0) then (.error .zeroInWord, m)
  else
    match m.files.program m.setting program args with
    | .error e => (.error (.os e), m)
    | .ok image =>
      (.ok m.nextProcess,
        { m with
          children := (m.nextProcess, image) :: m.children
          nextProcess := m.nextProcess + 1 })

/-- How many nested steps a script may take. -/
def stepLimit : Nat := 20000

/-- What a wait reports of a signal. A signal without a name cannot be reported: the wait fails. -/
def report (signal : Nat) (notice : Int32 → Notice) : WaitResult :=
  if (signalName? signal).isSome then .notice (notice (Int32.ofNat signal)) else .failed .invalid

/-- What waits on a program report that ended in a way, after signals had stopped it. -/
def reports (flow : Flow) (stops : List Nat) : List WaitResult :=
  stops.reverse.map (fun k => report k .stopped)
    ++ match flow with
      | .exited k => [.notice (.exited (Int32.ofNat k))]
      | .killed k => [report k (.signaled · false)]
      | _ => []

/-- Let a child run to its end. -/
def conduct (pid : Nat) (m : Machine) : Conduct × Machine :=
  match m.children.lookup pid with
  | none => (⟨[], []⟩, m)
  | some image =>
    let (flow, stops, w) := image.run stepLimit m.setting pid { files := m.files }
    (⟨w.printed.reverse, reports flow stops⟩,
      { m with files := w.files, children := m.children.filter (·.1 != pid) })

/-- The machine as a host. -/
def host : Host Machine where
  changeDirectory := changeDirectory
  spawn := spawn
  conduct := conduct

/-! ## Setting a machine up -/

/-- The directories that every machine has. -/
def standardDirectories : List String := [
  "/boot", "/dev", "/etc", "/home", "/media", "/mnt", "/opt", "/proc", "/root", "/run", "/srv",
  "/sys", "/tmp", "/usr/bin", "/usr/games", "/usr/include", "/usr/lib", "/usr/local/bin",
  "/usr/local/etc", "/usr/local/lib", "/usr/local/share", "/usr/sbin", "/usr/share", "/usr/src",
  "/var/cache", "/var/lib", "/var/log", "/var/spool", "/var/tmp"]

/-- Add a file at a path, from a directory that paths start at. -/
def put (n : Nat) (path : Bytes) (f : File) (fs : Files) : Files :=
  match fs.freeSpot n path false with
  | .ok spot => (fs.add spot.folder spot.name f).2
  | .error _ => fs

/-- The files that every machine has. -/
def standardFiles : Files :=
  let fs := standardDirectories.foldl
    (fun fs path => (fs.makeDirectories 0 (components (utf8 path))).2) {}
  let fs := ["bin", "lib", "sbin"].foldl
    (fun fs name => put 0 (utf8 ("/" ++ name)) (.link (utf8 ("usr/" ++ name))) fs) fs
  let fs := put 0 (utf8 "/dev/null") (.device .null) fs
  let fs := put 0 (utf8 "/dev/full") (.device .full) fs
  Tool.names.foldl (fun fs (name, t) => put 0 (utf8 ("/usr/bin/" ++ name)) (.tool t) fs) fs

/-- The directories that are searched for programs unless the user sets others. -/
def standardPath : Bytes :=
  utf8 "/usr/local/bin:/usr/bin:/bin"

/-- A machine that works in an empty directory some way below a directory of its own. The two are
shown under the names given. -/
def withWorkshop (ownName workshopName path : Bytes) (settings : List (Bytes × Bytes)) :
    Machine :=
  let (own, fs) := standardFiles.makeDirectories 0 (components (utf8 "/tmp/workshop"))
  let (workshop, fs) := fs.makeDirectories own (components (utf8 "4/3/2/1/root"))
  { files := { fs with landmarks := [(own, ownName), (workshop, workshopName)] }
    here := workshop
    environment := (utf8 "PATH", path) :: settings }

/-- Add a file below the working directory. -/
def addFile (path : Bytes) (f : File) (m : Machine) : Machine :=
  { m with files := put m.here path f m.files }

/-- Add directories below the working directory. -/
def addDirectory (path : Bytes) (m : Machine) : Machine :=
  { m with files := (m.files.makeDirectories m.here (components path)).2 }

/-- The path of the working directory, unless it was removed. -/
def workingDirectory? (m : Machine) : Option Bytes :=
  m.files.path? m.here

end Machine

end LineShell
