import PlainTerminal.Keyed
import PlainTerminal.Machine.Fault
import PlainTerminal.Path

/-!
# The files of the machine

The real directories and files, as a map from canonical paths to what is there. Other than in the
simulated tree a path is walked: every piece of it that something follows has to be a directory, so
`missing/..` leads nowhere. Files hold bytes.
-/

namespace PlainTerminal

/-- Files that are no files. -/
inductive Device where
  /-- Swallows everything and holds nothing. -/
  | null
  /-- Swallows everything and holds zero bytes without end. -/
  | zero
  /-- Has no room for anything. -/
  | full
deriving DecidableEq, Repr

/-- What is at a path. -/
inductive Entry where
  | directory
  | file (content : List UInt8)
  | device (which : Device)
deriving DecidableEq, Repr

/-- The files of the machine by canonical path. -/
structure Files where
  entries : Keyed Entry
deriving DecidableEq, Repr

namespace Files

/-- What is at a canonical path. -/
def entry? (files : Files) (path : String) : Option Entry := Keyed.find? files.entries path

/-- There is a directory at a canonical path. -/
def isDirectory (files : Files) (path : String) : Bool := files.entry? path == some .directory

/-- Puts something at a canonical path. -/
def put (files : Files) (path : String) (e : Entry) : Files :=
  ⟨Keyed.insert files.entries path e⟩

/-- Takes away what is at a canonical path. -/
def erase (files : Files) (path : String) : Files := ⟨Keyed.erase files.entries path⟩

/-- The directory that holds a canonical path. -/
def parent (path : String) : String := Path.render (Path.segments "/" path).dropLast

/-- The last segment of a path. -/
def lastName (path : String) : String := (Path.segments "/" path).getLast?.getD "/"

/-- The names in a directory, in order. -/
def children (files : Files) (path : String) : List String :=
  (Keyed.names files.entries).filterMap fun p =>
    if p ≠ "/" ∧ parent p = path then some (lastName p) else none

/-- The longest name that a file can have, in bytes. -/
def longestName : Nat := 255

/-- The longest path that can be walked, in bytes. -/
def longestPath : Nat := 4095

/-- Walks one piece of a path from a directory, whose segments are kept last one first. -/
def enter (files : Files) (above : List String) (piece : String) : Except Fault (List String) :=
  match files.entry? (Path.render above.reverse) with
  | none => .error .notFound
  | some .directory =>
    if longestName < piece.utf8ByteSize then .error .nameTooLong else .ok (Path.push above piece)
  | some _ => .error .notDirectory

/-- The canonical form of a path as seen from a directory, if all that it passes through is
there. What it ends at need not be. -/
def locate (files : Files) (directory path : String) : Except Fault String :=
  if path = "" then .error .notFound
  else if longestPath < path.utf8ByteSize then .error .nameTooLong
  else
    ((Path.pieces (Path.join directory path)).foldlM files.enter []).map fun above =>
      Path.render above.reverse

/-- What is at a path as seen from a directory. -/
def look (files : Files) (directory path : String) : Except Fault (String × Entry) := do
  let place ← files.locate directory path
  match files.entry? place with
  | some e => return (place, e)
  | none => throw .notFound

/-- The path leads to a directory. -/
def leadsToDirectory (files : Files) (path : String) : Bool :=
  match files.look "/" path with
  | .ok (_, .directory) => true
  | _ => false

/-- Makes an empty directory, in a directory that is there. -/
def makeDirectory (files : Files) (directory path : String) : Except Fault Files := do
  let place ← files.locate directory
    (if Path.withoutEndSlashes path = "" then path else Path.withoutEndSlashes path)
  if (files.entry? place).isSome then throw .alreadyThere
  else return files.put place .directory

/-- Removes an empty directory. -/
def removeDirectory (files : Files) (directory path : String) : Except Fault Files := do
  let (place, e) ← files.look directory path
  if e ≠ .directory then throw .notDirectory
  else if files.children place ≠ [] then throw .notEmpty
  else return files.erase place

/-- Removes a file. -/
def remove (files : Files) (directory path : String) : Except Fault Files := do
  let (place, e) ← files.look directory path
  if e = .directory then throw .isDirectory else return files.erase place

/-- Moves what is at one path to another. What lies below a directory moves along with it. -/
def rename (files : Files) (directory source target : String) : Except Fault Files := do
  let (origin, e) ← files.look directory source
  let goal ← files.locate directory target
  if origin = goal then return files
  else if Path.isWithin origin goal then throw .invalid
  else match e, files.entry? goal with
    | .directory, some .directory =>
      if files.children goal ≠ [] then throw .notEmpty
    | .directory, some _ => throw .notDirectory
    | _, some .directory => throw .isDirectory
    | _, _ => pure ()
  let moved := files.entries.filter fun x => Path.isWithin origin x.1
  let kept : Files := ⟨files.entries.filter fun x => !Path.isWithin origin x.1⟩
  return moved.foldl (fun files x =>
    files.put (goal ++ String.ofList (x.1.toList.drop origin.toList.length)) x.2) kept

/-- Adds a directory together with all that lies above it. -/
def withDirectory (files : Files) (path : String) : Files :=
  let segments := Path.segments "/" path
  (List.range (segments.length + 1)).foldl (fun files n =>
    let place := Path.render (segments.take n)
    if (files.entry? place).isSome then files else files.put place .directory) files

/-- Adds an empty file, in a directory that is made if it is not there. -/
def withFile (files : Files) (directory name : String) : Files :=
  (files.withDirectory directory).put (Path.normalize directory name) (.file [])

/-- The home directories of the users that every machine has. -/
def homes : List (String × String) :=
  [("root", "/root"), ("daemon", "/usr/sbin"), ("bin", "/bin"), ("sys", "/dev"), ("sync", "/bin"),
    ("games", "/usr/games"), ("man", "/var/cache/man"), ("lp", "/var/spool/lpd"),
    ("mail", "/var/mail"), ("news", "/var/spool/news"), ("uucp", "/var/spool/uucp"),
    ("proxy", "/bin"), ("www-data", "/var/www"), ("backup", "/var/backups"), ("list", "/var/list"),
    ("irc", "/run/ircd"), ("nobody", "/nonexistent")]

/-- Where programs are. -/
def programDirectories : List String := ["/bin", "/usr/bin"]

/-- An absolute path leads to where programs are. -/
def isAmongPrograms (path : String) : Bool :=
  Path.isAbsolute path && programDirectories.contains (parent path)

/-- Adds a program. -/
def withProgram (files : Files) (name : String) : Files :=
  programDirectories.foldl (fun files d => files.put (d ++ "/" ++ name) (.file [])) files

/-- The directories of a machine on which nobody has done anything yet. -/
def usualDirectories : List String :=
  ["/bin", "/boot", "/dev/pts", "/dev/shm", "/etc", "/home", "/lib", "/lib64", "/media", "/mnt",
    "/opt", "/proc", "/root", "/run", "/sbin", "/srv", "/sys", "/tmp", "/usr/bin", "/usr/games",
    "/usr/include", "/usr/lib", "/usr/local/bin", "/usr/local/etc", "/usr/local/lib",
    "/usr/local/sbin", "/usr/local/share", "/usr/local/src", "/usr/sbin", "/usr/share", "/usr/src",
    "/var/backups", "/var/cache", "/var/lib", "/var/local", "/var/lock", "/var/log", "/var/mail",
    "/var/opt", "/var/run", "/var/spool", "/var/tmp"]

/-- The files of a machine on which nobody has done anything yet. -/
def usual : Files :=
  let directories := usualDirectories.foldl withDirectory ⟨[]⟩
  [("/dev/null", Device.null), ("/dev/zero", .zero), ("/dev/full", .full)].foldl
    (fun files d => files.put d.1 (.device d.2)) directories

end Files

end PlainTerminal
