import PlainTerminal.Path
import PlainTerminal.Tree.Node

/-!
# The tree as a map from paths to nodes

`resolve` finds the node at a path, whatever the spelling of the path; `createFile` and
`createDirectory` add to the tree. Both fail with a cause when the place does not allow it and then
leave no trace, since a failing operation returns no tree. Everything is done on the segments of a
path: `find?` walks down along them, and `put` builds the tree anew along the same way.
-/

namespace PlainTerminal

/-- Why an operation on a tree fails. -/
inductive TreeError where
  | notFound (path : String)
  | notADirectory (path : String)
  | isADirectory (path : String)
  | invalidPath (path : String)
deriving DecidableEq, Repr

namespace TreeError

/-- The wording of an error. -/
def message : TreeError → String
  | notFound path => path ++ ": No such file or directory"
  | notADirectory path => path ++ ": Not a directory"
  | isADirectory path => path ++ ": Is a directory"
  | invalidPath path => path ++ ": Invalid path"

end TreeError

namespace Node

/-- The node at the end of a walk along segments. -/
def find? : List String → Node → Option Node
  | [], node => some node
  | segment :: rest, node => (node.children?.bind fun c => Keyed.find? c segment).bind (find? rest)

/-- The tree with another node at the end of a walk. A walk that leaves the tree before its last
step changes nothing. -/
def put : List String → Node → Node → Node
  | [], _, new => new
  | _ :: _, file a content, _ => file a content
  | segment :: rest, directory a children, new =>
    match rest, Keyed.find? children segment with
    | [], _ => directory a (Keyed.insert children segment new)
    | _ :: _, some child => directory a (Keyed.insert children segment (put rest child new))
    | _ :: _, none => directory a children

end Node

/-- A tree is its root directory. -/
abbrev Tree := Node

namespace Tree

/-- The node at a path. -/
def resolve (tree : Tree) (path : String) : Option Node := tree.find? (Path.segments "/" path)

/-- The path leads to a directory. -/
def isDirectory (tree : Tree) (path : String) : Bool := (tree.resolve path).any Node.isDirectory

/-- The text of the file at a path. -/
def contentOf (tree : Tree) (path : String) : Except TreeError String :=
  match tree.resolve path with
  | none => .error (.notFound path)
  | some (.directory _ _) => .error (.isADirectory path)
  | some (.file _ content) => .ok content

/-- A name that is shown only on demand. -/
def isHidden (name : String) : Bool := name.toList.head? == some '.'

/-- The children of the directory at a path in the order of their names, hidden ones only on
demand. -/
def entries (tree : Tree) (path : String) (showHidden : Bool) :
    Except TreeError (List (String × Node)) :=
  match tree.resolve path with
  | none => .error (.notFound path)
  | some (.file _ _) => .error (.notADirectory path)
  | some (.directory _ children) =>
    .ok (children.filter fun e => showHidden || !isHidden e.1)

/-- The children of the directory in which the path's last segment stands, with that segment and
the ones before it. -/
def parentOf (tree : Tree) (path : String) : Except TreeError (List String × String × Keyed Node) :=
  let segments := Path.segments "/" path
  match segments.getLast? with
  | none => .error (.invalidPath path)
  | some name =>
    let above := segments.dropLast
    match tree.find? above with
    | none => .error (.notFound (Path.render above))
    | some (.file _ _) => .error (.notADirectory (Path.render above))
    | some (.directory _ children) => .ok (above, name, children)

/-- Writes a file: a new one belongs to the user, an old one keeps its attributes but for the time.
The directory around it has to be there. -/
def createFile (tree : Tree) (now : Timestamp) (path content : String) : Except TreeError Tree := do
  let (above, name, children) ← tree.parentOf path
  match Keyed.find? children name with
  | some (.directory _ _) => .error (.isADirectory path)
  | some (.file a _) =>
    return tree.put (above ++ [name]) (.file { a with modified := now } content)
  | none =>
    return tree.put (above ++ [name]) ((Node.newFile now content).owned "user" "user")

/-- Makes a directory; one that is there already stays as it is. -/
def createDirectory (tree : Tree) (now : Timestamp) (path : String) : Except TreeError Tree := do
  let (above, name, children) ← tree.parentOf path
  match Keyed.find? children name with
  | some (.directory _ _) => return tree
  | some (.file _ _) => .error (.notADirectory path)
  | none => return tree.put (above ++ [name]) ((Node.newDirectory now).owned "user" "user")

/-- A tree of nothing but its root. -/
def empty (now : Timestamp) : Tree := Node.newDirectory now

end Tree

end PlainTerminal
