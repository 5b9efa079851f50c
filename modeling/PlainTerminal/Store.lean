import PlainTerminal.Command.Result
import PlainTerminal.Environment
import PlainTerminal.Tree.Listing
import PlainTerminal.Tree.Seed

/-!
# The virtual store

The files of a session that are not on any disk: the virtual tree, and the files that were
uploaded. An upload is known by its full path and is also written into the tree where there is a
directory for it; when a file is read the upload comes first.
-/

namespace PlainTerminal

/-- An uploaded file. -/
structure Upload where
  name : String
  content : String
  path : String
  kind : String
  uploaded : Timestamp
deriving DecidableEq

namespace Upload

/-- The size of an upload. -/
def size (u : Upload) : Nat := u.content.utf8ByteSize

/-- The path of an upload. -/
def fullPath (u : Upload) : String := Path.normalize "/" (u.path ++ "/" ++ u.name)

/-- The directory that an upload belongs to. -/
def directory (u : Upload) : String := Path.normalize "/" u.path

/-- A name that an upload can have. -/
def hasFileName (u : Upload) : Bool := u.name != "" && !u.name.toList.contains '/'

/-- The line of an upload in a long listing. -/
def line (u : Upload) : String :=
  Listing.line "-rw-r--r--" "user" "user" u.size u.uploaded u.name

end Upload

/-- The outcome of an operation on files. -/
structure FileResult where
  success : Bool
  content : Option String
  error : Option String
  isSimulated : Bool
  exitCode : Int
deriving DecidableEq, Repr

namespace FileResult

/-- A success in the virtual store. -/
def simulated (content : String) : FileResult := ⟨true, some content, none, true, 0⟩

/-- A failure in the virtual store. -/
def simulatedError (error : String) : FileResult := ⟨false, none, some error, true, 1⟩

/-- The outcome of a command of the real shell. -/
def ofCommand (r : CommandResult) : FileResult :=
  ⟨r.success, some r.stdout, if r.stderr = "" then none else some r.stderr, false, r.exitCode⟩

/-- An outcome as that of a command. -/
def toCommand (r : FileResult) : CommandResult :=
  if r.success then .ok (r.content.getD "")
  else
    { stdout := r.content.getD ""
      stderr := r.error.getD ""
      exitCode := if r.exitCode = 0 then 1 else r.exitCode
      success := false }

end FileResult

/-- The files of a session, with the mode that says whether they count. -/
structure Store where
  mode : Mode
  tree : Tree
  uploads : Keyed Upload

namespace Store

/-- A store around a tree. -/
def new (mode : Mode) (tree : Tree) : Store := ⟨mode, tree, []⟩

/-- Files are those of the virtual store. -/
def isSimulated (s : Store) : Bool := s.mode != .localMachine

/-- The place in the tree that a typed path means. -/
def resolvePath (path cwd home : String) : String :=
  if path = "" ∨ path = "." then Path.normalize "/" cwd
  else if path = "~" then home
  else match path.toList with
    | '~' :: '/' :: rest => Path.normalize home (String.ofList rest)
    | _ => Path.normalize cwd path

/-- The text of the file at a full path: an upload, or else a file of the tree. -/
def content? (s : Store) (full : String) : Option String :=
  match Keyed.find? s.uploads full with
  | some u => some u.content
  | none => (s.tree.contentOf full).toOption

/-- Reads a file; `path` is how it was asked for. -/
def read (s : Store) (path full : String) : FileResult :=
  match s.content? full with
  | some content => .simulated content
  | none => .simulatedError ("File not found: " ++ path)

/-- The uploads that a listing of a directory adds to the entries of the tree. -/
def listedUploads (s : Store) (full : String) (showHidden : Bool) (entries : List (String × Node)) :
    List Upload :=
  (s.uploads.map Prod.snd).filter fun u =>
    u.directory == full && !(entries.any fun e => e.1 == u.name) &&
      (showHidden || !Tree.isHidden u.name)

/-- Lists a directory: the entries of the tree, then the uploads that are not among them. -/
def list (s : Store) (path full : String) (showHidden : Bool) : FileResult :=
  match s.tree.entries full showHidden with
  | .error _ =>
    .simulatedError ("Directory not found: " ++ if path = "" then "." else path)
  | .ok entries =>
    .simulated (Listing.withTotal
      ((entries.map fun e => Listing.ofNode e.1 e.2) ++
        (s.listedUploads full showHidden entries).map Upload.line))

/-- Writes a file of the tree. -/
def createFile (s : Store) (now : Timestamp) (full content : String) : FileResult × Store :=
  match s.tree.createFile now full content with
  | .ok tree => (.simulated "", { s with tree })
  | .error _ => (.simulatedError "Failed to create file in virtual filesystem", s)

/-- Makes a directory of the tree; `path` is how it was asked for. -/
def createDirectory (s : Store) (now : Timestamp) (path full : String) : FileResult × Store :=
  match s.tree.createDirectory now full with
  | .ok tree => (.simulated "", { s with tree })
  | .error e =>
    (.simulatedError ("mkdir: cannot create directory '" ++ path ++ "': " ++ e.message), s)

/-- Takes an upload in, unless its name is no file name, and writes it into the tree where the tree
allows it. -/
def upload (s : Store) (u : Upload) : Bool × Store :=
  if u.hasFileName then
    let tree := match s.tree.createFile u.uploaded u.fullPath u.content with
      | .ok tree => tree
      | .error _ => s.tree
    (true, { s with tree, uploads := Keyed.insert s.uploads u.fullPath u })
  else (false, s)

/-- The uploads in the order of their full paths. -/
def uploadedFiles (s : Store) : List Upload := s.uploads.map Prod.snd

/-- Forgets the uploads; what was written into the tree stays. -/
def clearUploads (s : Store) : Store := { s with uploads := [] }

end Store

end PlainTerminal
