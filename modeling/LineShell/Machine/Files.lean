import LineShell.Fault.Errno
import LineShell.Machine.Tool

/-!
# Files

The files of the machine: directories, regular files, symbolic links, devices and installed
programs. A file has a number and directories give names to numbers, so a file can be moved or
removed while something still holds on to it. A path is resolved step by step through directories
and symbolic links.
-/

namespace LineShell.Machine

/-- A directory. -/
structure Directory where
  /-- The directory above it; that of the topmost one is itself. -/
  parent : Nat
  /-- The names in it, sorted by their bytes. -/
  entries : List (Bytes × Nat) := []
  /-- Whether it was removed. Nothing can be made in it then, but it still leads upwards. -/
  removed : Bool := false
  deriving DecidableEq, Repr

/-- A file that stands for a device. -/
inductive Device where
  /-- Takes everything and holds nothing. -/
  | null
  /-- Has no room for anything. -/
  | full
  deriving DecidableEq, Repr

/-- A file. -/
inductive File where
  | directory (d : Directory)
  | regular (content : Bytes) (executable : Bool)
  | link (target : Bytes)
  | device (d : Device)
  | tool (t : Tool)
  deriving DecidableEq, Repr

/-- All files of the machine. -/
structure Files where
  /-- The files by number; the topmost directory has the number 0. -/
  files : Array File := #[.directory { parent := 0 }]
  /-- Directories that are shown under a name of their own. -/
  landmarks : List (Nat × Bytes) := []
  deriving DecidableEq, Repr

/-- The byte that separates the components of a path. -/
def slash : UInt8 := 47

/-- A name for the directory itself. -/
def dot : Bytes := utf8 "."

/-- A name for the directory above. -/
def dotDot : Bytes := utf8 ".."

/-- Whether a name sorts before another one. -/
def nameBefore : Bytes → Bytes → Bool
  | [], b => !b.isEmpty
  | _ :: _, [] => false
  | x :: a, y :: b => x < y || (x == y && nameBefore a b)

/-- The components of a path. A path that ends in a slash has to lead to a directory, which a last
component `.` makes sure of. -/
def components (path : Bytes) : List Bytes :=
  path.fields slash |>.filter (!·.isEmpty)
    |> (· ++ if path.getLast? = some slash then [dot] else [])

/-- Where a path leads. -/
structure Spot where
  /-- The directory of its last component. -/
  folder : Nat
  /-- Its last component; empty if that is not the name of an entry. -/
  name : Bytes
  /-- What is there. -/
  file : Option Nat
  deriving DecidableEq, Repr

namespace Files

/-- The file with a number. -/
def file (fs : Files) (n : Nat) : File :=
  fs.files[n]?.getD (.regular [] false)

/-- The directory with a number, if it is one. -/
def directory? (fs : Files) (n : Nat) : Option Directory :=
  match fs.file n with
  | .directory d => some d
  | _ => none

/-- The longest name that an entry can have. -/
def nameLimit : Nat := 255

/-- The length from which on a path is too long. -/
def pathLimit : Nat := 4096

/-- How many symbolic links one path may lead through. -/
def linkLimit : Nat := 40

/-- Follow the components of a path from a directory, through at most `links` symbolic links. A
last component that is a symbolic link is itself followed only if `follow` says so. -/
def walk (fs : Files) (follow : Bool) (links : Nat) (n : Nat) : List Bytes → Except Errno Spot
  | [] => .ok ⟨n, [], some n⟩
  | c :: rest =>
    match fs.directory? n with
    | none => .error .notDirectory
    | some d =>
      if c = dot then walk fs follow links n rest
      else if c = dotDot then walk fs follow links d.parent rest
      else if nameLimit < c.length then .error .nameTooLong
      else
        match d.entries.lookup c with
        | none => if rest.isEmpty then .ok ⟨n, c, none⟩ else .error .noEntry
        | some m =>
          match fs.file m, rest.isEmpty && !follow with
          | .link target, false =>
            match links with
            | 0 => .error .linkLoop
            | links + 1 =>
              walk fs follow links (if target.head? = some slash then 0 else n)
                (components target ++ rest)
          | _, _ => if rest.isEmpty then .ok ⟨n, c, some m⟩ else walk fs follow links m rest
termination_by cs => (links, cs.length)

/-- Resolve a path that starts at the directory `n` unless it is absolute. -/
def resolve (fs : Files) (n : Nat) (path : Bytes) (follow : Bool := true) : Except Errno Spot :=
  if path.isEmpty then .error .noEntry
  else if pathLimit ≤ path.length then .error .nameTooLong
  else fs.walk follow linkLimit (if path.head? = some slash then 0 else n) (components path)

/-- The file that a path leads to. -/
def find (fs : Files) (n : Nat) (path : Bytes) (follow : Bool := true) : Except Errno Nat :=
  match fs.resolve n path follow with
  | .error e => .error e
  | .ok spot => spot.file.elim (.error .noEntry) .ok

/-! ## Changing files -/

/-- Put a file at a number. -/
def set (fs : Files) (n : Nat) (f : File) : Files :=
  { fs with files := fs.files.setIfInBounds n f }

/-- Change a directory. -/
def editDirectory (fs : Files) (n : Nat) (f : Directory → Directory) : Files :=
  match fs.file n with
  | .directory d => fs.set n (.directory (f d))
  | _ => fs

/-- Entries with one more, in order. -/
def insertEntry (name : Bytes) (n : Nat) : List (Bytes × Nat) → List (Bytes × Nat)
  | [] => [(name, n)]
  | e :: rest =>
    if nameBefore name e.1 then (name, n) :: e :: rest
    else if e.1 = name then (name, n) :: rest
    else e :: insertEntry name n rest

/-- Give a file a name in a directory. -/
def enter (fs : Files) (folder : Nat) (name : Bytes) (n : Nat) : Files :=
  fs.editDirectory folder fun d => { d with entries := insertEntry name n d.entries }

/-- Take a name out of a directory. -/
def leave (fs : Files) (folder : Nat) (name : Bytes) : Files :=
  fs.editDirectory folder fun d => { d with entries := d.entries.filter (·.1 != name) }

/-- Add a new file without a name. -/
def addNameless (fs : Files) (f : File) : Nat × Files :=
  (fs.files.size, { fs with files := fs.files.push f })

/-- Add a new file under a name. -/
def add (fs : Files) (folder : Nat) (name : Bytes) (f : File) : Nat × Files :=
  let (n, fs) := fs.addNameless f
  (n, fs.enter folder name n)

/-- Whether nothing can be made in a directory. -/
def isRemoved (fs : Files) (n : Nat) : Bool :=
  (fs.directory? n).elim true Directory.removed

/-- A path without the slashes at its end. -/
def withoutEndSlashes (path : Bytes) : Bytes :=
  match (path.reverse.dropWhile (· == slash)).reverse with
  | [] => path.take 1
  | p => p

/-- Where a new file can be made. -/
def freeSpot (fs : Files) (n : Nat) (path : Bytes) (follow : Bool) : Except Errno Spot :=
  match fs.resolve n path follow with
  | .error e => .error e
  | .ok spot =>
    if spot.file.isSome ∨ spot.name.isEmpty then .error .alreadyExists
    else if fs.isRemoved spot.folder then .error .noEntry
    else .ok spot

/-- Make a directory. -/
def makeDirectory (fs : Files) (n : Nat) (path : Bytes) : Except Errno Files :=
  match fs.freeSpot n (withoutEndSlashes path) false with
  | .error e => .error e
  | .ok spot => .ok (fs.add spot.folder spot.name (.directory { parent := spot.folder })).2

/-- Make a symbolic link. -/
def makeLink (fs : Files) (n : Nat) (target path : Bytes) : Except Errno Files :=
  match fs.freeSpot n path false with
  | .error e => .error e
  | .ok spot => .ok (fs.add spot.folder spot.name (.link target)).2

/-- The file at a path, which is made if nothing is there. -/
def openOrMake (fs : Files) (n : Nat) (path : Bytes) (executable : Bool := false) :
    Except Errno (Nat × Files) :=
  match fs.resolve n path with
  | .error e => .error e
  | .ok spot =>
    match spot.file with
    | some m => .ok (m, fs)
    | none =>
      if fs.isRemoved spot.folder then .error .noEntry
      else .ok (fs.add spot.folder spot.name (.regular [] executable))

/-- Make the directories of a path, as far as they are not there yet. -/
def makeDirectories (fs : Files) (n : Nat) : List Bytes → Nat × Files
  | [] => (n, fs)
  | c :: rest =>
    if c = dot then makeDirectories fs n rest
    else
      match (fs.directory? n).bind (·.entries.lookup c) with
      | some m => makeDirectories fs m rest
      | none =>
        let (m, fs) := fs.add n c (.directory { parent := n })
        makeDirectories fs m rest

/-- Remove what has a name, if it is not a directory. -/
def unlink (fs : Files) (n : Nat) (path : Bytes) : Except Errno Files :=
  match fs.resolve n path false with
  | .error e => .error e
  | .ok spot =>
    match spot.file with
    | none => .error .noEntry
    | some m =>
      if (fs.directory? m).isSome then .error .isDirectory else .ok (fs.leave spot.folder spot.name)

/-- Remove an empty directory. -/
def removeDirectory (fs : Files) (n : Nat) (path : Bytes) : Except Errno Files :=
  match fs.resolve n (withoutEndSlashes path) false with
  | .error e => .error e
  | .ok spot =>
    match spot.file with
    | none => .error .noEntry
    | some m =>
      match fs.directory? m with
      | none => .error .notDirectory
      | some d =>
        if spot.name.isEmpty then
          .error (if components path |>.getLast? |>.any (· == dotDot) then .notEmpty else .invalid)
        else if d.entries.isEmpty then
          .ok ((fs.leave spot.folder spot.name).editDirectory m fun d => { d with removed := true })
        else .error .notEmpty

/-- Mark the directories in and below a list of files as removed, to a depth. -/
def removeBelow (depth : Nat) (fs : Files) (ns : List Nat) : Files :=
  match depth with
  | 0 => fs
  | depth + 1 =>
    ns.foldl (fun fs n =>
      match fs.directory? n with
      | none => fs
      | some d =>
        (removeBelow depth fs (d.entries.map Prod.snd)).editDirectory n fun d =>
          { d with entries := [], removed := true }) fs

/-- Remove an entry with everything below it. -/
def removeTree (fs : Files) (spot : Spot) (n : Nat) : Files :=
  removeBelow fs.files.size (fs.leave spot.folder spot.name) [n]

/-! ## Looking at files -/

/-- The names of a directory with what they stand for. -/
def entries (fs : Files) (n : Nat) : List (Bytes × File) :=
  ((fs.directory? n).elim [] Directory.entries).map fun (name, m) => (name, fs.file m)

/-- The components by which a directory is reached from the topmost one or from a landmark, looking
upwards at most `depth` times; none if it was removed. -/
def trail (fs : Files) (depth : Nat) (n : Nat) (below : List Bytes) : Option (List Bytes) :=
  match fs.landmarks.lookup n, depth with
  | some name, _ => some (name :: below)
  | none, 0 => some ([] :: below)
  | none, depth + 1 =>
    if n = 0 then some ([] :: below)
    else
      match fs.directory? n with
      | none => none
      | some d =>
        match (fs.directory? d.parent).bind fun up => up.entries.find? (·.2 == n) with
        | none => none
        | some (name, _) => fs.trail depth d.parent (name :: below)

/-- The absolute path of a directory that has not been removed. -/
def path? (fs : Files) (n : Nat) : Option Bytes :=
  (fs.trail fs.files.size n []).map fun
    | [[]] => [slash]
    | cs => (cs.intersperse [slash]).flatten

/-- Everything below a directory, to a depth: paths from it, directories with a slash behind and
symbolic links with an at sign. -/
def listing (fs : Files) (depth : Nat) (n : Nat) (above : Bytes) : List Bytes :=
  match depth with
  | 0 => []
  | depth + 1 =>
    ((fs.directory? n).elim [] Directory.entries).flatMap fun (name, m) =>
      match fs.file m with
      | .directory _ =>
        let path := above ++ name ++ [slash]
        path :: fs.listing depth m path
      | .link _ => [above ++ name ++ utf8 "@"]
      | _ => [above ++ name]

/-- Everything below a directory, sorted by bytes. -/
def tree (fs : Files) (n : Nat) : List Bytes :=
  (fs.listing fs.files.size n []).mergeSort fun a b => !nameBefore b a

end Files

end LineShell.Machine
