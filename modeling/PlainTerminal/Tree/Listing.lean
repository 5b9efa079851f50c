import PlainTerminal.Tree

/-!
# Listings

One line of a long listing: permissions, a link count that is always one, owner, group, size, time
of the last change, and name.
-/

namespace PlainTerminal.Listing

/-- A line of a long listing. -/
def line (permissions owner group : String) (size : Nat) (modified : Timestamp) (name : String) :
    String :=
  permissions ++ " 1 " ++ owner ++ " " ++ group ++ " " ++ toString size ++ " " ++
    modified.listingText ++ " " ++ name

/-- The line of a node under a name. -/
def ofNode (name : String) (node : Node) : String :=
  line node.attributes.permissions node.attributes.owner node.attributes.group node.size
    node.attributes.modified name

/-- Lines under their count. -/
def withTotal (lines : List String) : String :=
  "total " ++ toString lines.length ++ "\n" ++ String.join (lines.map (· ++ "\n"))

/-- The long listing of a directory of a tree, a line per entry. -/
def ofDirectory (tree : Tree) (path : String) (showHidden : Bool) :
    Except TreeError (List String) :=
  (tree.entries path showHidden).map fun es => es.map fun e => ofNode e.1 e.2

end PlainTerminal.Listing
