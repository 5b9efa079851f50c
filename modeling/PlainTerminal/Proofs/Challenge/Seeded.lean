import PlainTerminal.Challenge.Map
import PlainTerminal.Proofs.Path
import PlainTerminal.Proofs.Tree
import PlainTerminal.Tree.Seed

/-!
# Where the challenge is

The directory of the challenge in the tree that a session starts with, and what it means for a path
to belong to the challenge: a canonical path belongs to it if its segments begin with those of the
directory.
-/

namespace PlainTerminal

namespace Node

mutual

/-- The node as of another time. -/
def dated (now : Timestamp) : Node → Node
  | file a content => file { a with modified := now } content
  | directory a children => directory { a with modified := now } (datedAll now children)

/-- Nodes as of another time. -/
def datedAll (now : Timestamp) : List (String × Node) → List (String × Node)
  | [] => []
  | e :: rest => datedEntry now e :: datedAll now rest

/-- A named node as of another time. -/
def datedEntry (now : Timestamp) : String × Node → String × Node
  | (name, node) => (name, dated now node)

end

theorem find?_datedAll (now : Timestamp) (children : Keyed Node) (name : String) :
    Keyed.find? (datedAll now children) name = (Keyed.find? children name).map (dated now) := by
  induction children with
  | nil => rfl
  | cons e rest ih =>
      obtain ⟨k, node⟩ := e
      rw [datedAll, datedEntry, Keyed.find?, Keyed.find?]
      split
      · rfl
      · exact ih

/-- The time is no part of a face. -/
theorem faceAt_dated (now : Timestamp) (node : Node) (segments : List String) :
    (node.dated now).faceAt segments = node.faceAt segments := by
  induction segments generalizing node with
  | nil => cases node <;> rw [dated] <;> rfl
  | cons x rest ih =>
      cases node with
      | file a content => rw [dated]; rfl
      | directory a children =>
          unfold faceAt at ih ⊢
          rw [dated, find?_directory_cons, find?_directory_cons, find?_datedAll]
          cases Keyed.find? children x with
          | none => rfl
          | some child => exact ih child

/-- The size shown of a file is that of its text. -/
theorem size_of_face {node : Node} {content : String} (h : node.face.content? = some content) :
    node.face.size = content.utf8ByteSize := by
  cases node with
  | file a text =>
      obtain rfl : text = content := Option.some.inj h
      rfl
  | directory a children => cases h

end Node

namespace Challenge

/-- The segments of the directory of the challenge. -/
def rootSegments : List String := ["var", "games"]

theorem root_eq_render : root = Path.render rootSegments := by decide

theorem rootSegments_isSegment : ∀ s ∈ rootSegments, Path.IsSegment s := by
  unfold rootSegments Path.IsSegment
  decide

theorem segments_root (base : String) : Path.segments base root = rootSegments := by
  rw [root_eq_render, Path.segments_render base rootSegments_isSegment]

/-- A canonical path belongs to the challenge if its segments say so. -/
theorem contains_iff {path : String} (h : Path.IsCanonical path) :
    contains path = true ↔ rootSegments <+: Path.segments "/" path := by
  rw [contains, root_eq_render]
  exact h.isWithin_iff (by decide) rootSegments_isSegment

theorem find?_seed (now : Timestamp) :
    (Seed.tree now).find? rootSegments = some (gamesTree now) := by
  simp only [rootSegments, Seed.tree, Seed.systemDirectory, Node.withChildren, Node.newDirectory,
    List.foldl_cons, List.foldl_nil, Keyed.insert, Keyed.find?, Node.find?, Node.children?,
    Option.bind_some, Option.bind_fun_some, String.reduceEq, String.reduceLT, ↓reduceIte]

/-- What a walk into the challenge is to find. -/
def face? (below : List String) : Option Face := (gamesTree ⟨0⟩).faceAt below

theorem gamesTree_dated (now : Timestamp) : gamesTree now = (gamesTree ⟨0⟩).dated now := by
  simp only [gamesTree, gameDirectory, gameFile, Node.withChildren, Node.newDirectory, Node.newFile,
    Node.owned, Node.permitted, Node.mapAttributes, Attributes.ofFile, Attributes.ofDirectory,
    List.foldl_cons, List.foldl_nil, Keyed.insert, Node.dated, Node.datedAll, Node.datedEntry,
    String.reduceEq, String.reduceLT, ↓reduceIte]

/-- The tree shows the challenge as it is to be: under every name of every directory there is the
seeded thing, with its text, size, permissions and owner, and nothing else. -/
def Intact (tree : Tree) : Prop := ∀ below, tree.faceAt (rootSegments ++ below) = face? below

theorem intact_seed (now : Timestamp) : Intact (Seed.tree now) := by
  intro below
  have hfind : (Seed.tree now).find? (rootSegments ++ below) = (gamesTree now).find? below := by
    rw [Node.find?_append, find?_seed, Option.bind_some]
  rw [Node.faceAt, hfind]
  show (gamesTree now).faceAt below = _
  rw [gamesTree_dated, Node.faceAt_dated]
  rfl

theorem Intact.isDirectory {tree : Tree} (h : Intact tree) : tree.isDirectory root = true := by
  rw [Tree.isDirectory_eq, segments_root, ← List.append_nil rootSegments, h]
  decide

theorem isDirectory_seed (now : Timestamp) : (Seed.tree now).isDirectory root = true :=
  (intact_seed now).isDirectory

end Challenge

end PlainTerminal
