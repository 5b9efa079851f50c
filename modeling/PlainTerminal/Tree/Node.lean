import PlainTerminal.Calendar
import PlainTerminal.Keyed

/-!
# Files and directories

A tree of files is a value: a file has a text, a directory has children by name, and both carry the
attributes that a listing shows. A node does not know its own name; the directory that holds it
does. The size of a node is what it holds: for a file the length of its text in UTF-8, for a
directory a fixed number.
-/

namespace PlainTerminal

/-- What a listing shows of a node besides its name and size. -/
structure Attributes where
  permissions : String
  owner : String
  group : String
  modified : Timestamp
deriving DecidableEq, Inhabited

namespace Attributes

/-- A file that belongs to the system. -/
def ofFile (now : Timestamp) : Attributes := ⟨"-rw-r--r--", "root", "root", now⟩

/-- A directory that belongs to the system. -/
def ofDirectory (now : Timestamp) : Attributes := ⟨"drwxr-xr-x", "root", "root", now⟩

end Attributes

/-- A file with its text, or a directory with its children. -/
inductive Node where
  | file (attributes : Attributes) (content : String)
  | directory (attributes : Attributes) (children : List (String × Node))

instance : Inhabited Node := ⟨.file default ""⟩

namespace Node

/-- The size that listings give for every directory. -/
def directorySize : Nat := 4096

/-- The attributes of a node. -/
def attributes : Node → Attributes
  | file a _ => a
  | directory a _ => a

/-- The same node with its attributes changed. -/
def mapAttributes (f : Attributes → Attributes) : Node → Node
  | file a content => file (f a) content
  | directory a children => directory (f a) children

/-- The same node in other hands. -/
def owned (node : Node) (owner group : String) : Node :=
  node.mapAttributes fun a => { a with owner := owner, group := group }

/-- The same node with other permissions. -/
def permitted (node : Node) (permissions : String) : Node :=
  node.mapAttributes fun a => { a with permissions := permissions }

/-- The size that a listing shows. -/
def size : Node → Nat
  | file _ content => content.utf8ByteSize
  | directory _ _ => directorySize

/-- The node is a directory. -/
def isDirectory : Node → Bool
  | file _ _ => false
  | directory _ _ => true

/-- The text of a file. -/
def content? : Node → Option String
  | file _ content => some content
  | directory _ _ => none

/-- The children of a directory. -/
def children? : Node → Option (Keyed Node)
  | file _ _ => none
  | directory _ children => some children

/-- A file of the system. -/
def newFile (now : Timestamp) (content : String) : Node := file (.ofFile now) content

/-- A directory of the system without children. -/
def newDirectory (now : Timestamp) : Node := directory (.ofDirectory now) []

/-- A directory with more children, a later one in place of an earlier one of its name. A file
stays as it is. -/
def withChildren (node : Node) (more : List (String × Node)) : Node :=
  match node with
  | file a content => file a content
  | directory a children => directory a (more.foldl (fun m e => Keyed.insert m e.1 e.2) children)

end Node

end PlainTerminal
