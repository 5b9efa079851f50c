import PlainTerminal.Proofs.Tree.WellFormed
import PlainTerminal.Tree.Listing

/-!
# The tree as it is stored

A node of the tree does not know its own name, which is that of its place, nor its size, which is
computed. Where a tree is stored, each node has a label with both. They are written when the node is
made or gets a new text, and read when it is listed, so they had better be right: `Sound` says of a
stored tree that every label in it is.

Labels have no say in what a write does. Without them a stored tree is a tree, its *erasure*, and a
write to the one is the same write to the other, with the same error if it fails. So the two go side
by side, and a stored tree that started sound is the tree with the right labels, always.
-/

namespace PlainTerminal

namespace Keyed

variable {α β : Type}

/-- Changes every value. -/
def mapValues (f : α → β) (m : Keyed α) : Keyed β := m.map fun e => (e.1, f e.2)

theorem find?_mapValues (f : α → β) (m : Keyed α) (name : String) :
    (m.mapValues f).find? name = (m.find? name).map f := by
  induction m with
  | nil => rfl
  | cons e rest ih =>
      obtain ⟨k, v⟩ := e
      by_cases hk : k = name
      · simp only [mapValues, List.map_cons, find?, if_pos hk, Option.map_some]
      · simp only [mapValues, List.map_cons, find?, if_neg hk]
        exact ih

theorem mapValues_insert (f : α → β) (m : Keyed α) (name : String) (value : α) :
    (m.insert name value).mapValues f = (m.mapValues f).insert name (f value) := by
  induction m with
  | nil => rfl
  | cons e rest ih =>
      obtain ⟨k, v⟩ := e
      unfold mapValues at ih ⊢
      by_cases hk : k = name
      · simp only [insert, if_pos hk, List.map_cons]
      · by_cases hlt : k < name
        · simp only [insert, if_neg hk, if_pos hlt, List.map_cons, ih]
        · simp only [insert, if_neg hk, if_neg hlt, List.map_cons]

/-- A name that is larger than all others is put at the end. -/
theorem insert_of_forall_lt {m : Keyed α} {name : String} (h : ∀ e ∈ m, e.1 < name) (value : α) :
    m.insert name value = m ++ [(name, value)] := by
  induction m with
  | nil => rfl
  | cons e rest ih =>
      obtain ⟨k, v⟩ := e
      obtain ⟨hk, hrest⟩ := List.forall_mem_cons.mp h
      have hne : k ≠ name := (String.ne_of_lt hk)
      rw [insert, if_neg hne, if_pos hk, ih hrest]
      rfl

/-- Entries that are in order are put one after the other. -/
theorem foldl_insert_of_ordered {m more : Keyed α} (h : Ordered (m ++ more)) :
    more.foldl (fun m e => m.insert e.1 e.2) m = m ++ more := by
  induction more generalizing m with
  | nil => exact (List.append_nil m).symm
  | cons e rest ih =>
      have hbefore : ∀ e' ∈ m, e'.1 < e.1 := fun e' he' =>
        (List.pairwise_append.mp h).2.2 e' he' e List.mem_cons_self
      rw [List.foldl_cons, insert_of_forall_lt hbefore]
      have happend : m ++ e :: rest = m ++ [e] ++ rest := by simp
      rw [happend] at h ⊢
      exact ih h

end Keyed

/-- What a stored node knows about itself. -/
structure Label where
  name : String
  size : Nat
  attributes : Attributes

/-- A stored node. -/
inductive Inode where
  | file (label : Label) (content : String)
  | directory (label : Label) (children : List (String × Inode))

namespace Inode

/-! ## Making nodes -/

/-- The label of a node. -/
def label : Inode → Label
  | file l _ => l
  | directory l _ => l

/-- The name on the label. -/
def name (i : Inode) : String := i.label.name

/-- A file of the system. -/
def newFile (name : String) (now : Timestamp) (content : String) : Inode :=
  file ⟨name, content.utf8ByteSize, .ofFile now⟩ content

/-- A directory of the system without children. -/
def newDirectory (name : String) (now : Timestamp) : Inode :=
  directory ⟨name, Node.directorySize, .ofDirectory now⟩ []

/-- The same node with its attributes changed. -/
def mapAttributes (f : Attributes → Attributes) : Inode → Inode
  | file l content => file { l with attributes := f l.attributes } content
  | directory l children => directory { l with attributes := f l.attributes } children

/-- The same node in other hands. -/
def owned (i : Inode) (owner group : String) : Inode :=
  i.mapAttributes fun a => { a with owner := owner, group := group }

/-- The same node with other permissions. -/
def permitted (i : Inode) (permissions : String) : Inode :=
  i.mapAttributes fun a => { a with permissions := permissions }

/-- A directory with more children, each under the name on its label. A file stays as it is. -/
def withNodes (i : Inode) (more : List Inode) : Inode :=
  match i with
  | file l content => file l content
  | directory l children =>
    directory l (more.foldl (fun m child => Keyed.insert m child.name child) children)

/-- The same node with a new text. -/
def withText (now : Timestamp) (text : String) : Inode → Inode
  | file l _ | directory l _ =>
    file { l with size := text.utf8ByteSize, attributes := { l.attributes with modified := now } }
      text

/-! ## Writing -/

/-- The node at the end of a walk. -/
def find? : List String → Inode → Option Inode
  | [], i => some i
  | _ :: _, file _ _ => none
  | segment :: rest, directory _ children => (Keyed.find? children segment).bind (find? rest)

/-- The tree with another node at the end of a walk. -/
def put : List String → Inode → Inode → Inode
  | [], _, new => new
  | _ :: _, file l content, _ => file l content
  | segment :: rest, directory l children, new =>
    match rest, Keyed.find? children segment with
    | [], _ => directory l (Keyed.insert children segment new)
    | _ :: _, some child => directory l (Keyed.insert children segment (put rest child new))
    | _ :: _, none => directory l children

/-- The children of the directory in which the path's last segment stands, with that segment and
the ones before it. -/
def parentOf (i : Inode) (path : String) :
    Except TreeError (List String × String × Keyed Inode) :=
  let segments := Path.segments "/" path
  match segments.getLast? with
  | none => .error (.invalidPath path)
  | some name =>
    let above := segments.dropLast
    match i.find? above with
    | none => .error (.notFound (Path.render above))
    | some (file _ _) => .error (.notADirectory (Path.render above))
    | some (directory _ children) => .ok (above, name, children)

/-- Writes a file: a new one with a label of its own, an old one keeps its name. -/
def createFile (i : Inode) (now : Timestamp) (path content : String) :
    Except TreeError Inode := do
  let (above, name, children) ← i.parentOf path
  match Keyed.find? children name with
  | some (directory _ _) => .error (.isADirectory path)
  | some (file l text) => return i.put (above ++ [name]) ((file l text).withText now content)
  | none => return i.put (above ++ [name]) ((newFile name now content).owned "user" "user")

/-- Makes a directory; one that is there already stays as it is. -/
def createDirectory (i : Inode) (now : Timestamp) (path : String) : Except TreeError Inode := do
  let (above, name, children) ← i.parentOf path
  match Keyed.find? children name with
  | some (directory _ _) => return i
  | some (file _ _) => .error (.notADirectory path)
  | none => return i.put (above ++ [name]) ((newDirectory name now).owned "user" "user")

end Inode

/-! ## Erasure -/

mutual

/-- A stored node without its labels. -/
def Inode.erase : Inode → Node
  | .file l content => .file l.attributes content
  | .directory l children => .directory l.attributes (Inode.eraseAll children)

/-- Children without their labels. -/
def Inode.eraseAll : List (String × Inode) → List (String × Node)
  | [] => []
  | (name, child) :: rest => (name, child.erase) :: Inode.eraseAll rest

end

mutual

/-- A node as it is stored under a name. -/
def Node.stored (name : String) : Node → Inode
  | .file a content =>
    ((Inode.newFile name a.modified content).owned a.owner a.group).permitted a.permissions
  | .directory a children =>
    (((Inode.newDirectory name a.modified).owned a.owner a.group).permitted
      a.permissions).withNodes (Node.storedAll children)

/-- Children as they are stored. -/
def Node.storedAll : List (String × Node) → List Inode
  | [] => []
  | (name, child) :: rest => child.stored name :: Node.storedAll rest

end

namespace Inode

variable {i i' : Inode} {now : Timestamp} {path content : String}

theorem eraseAll_eq (children : Keyed Inode) : eraseAll children = children.mapValues erase := by
  induction children with
  | nil => rfl
  | cons e rest ih =>
      obtain ⟨k, child⟩ := e
      rw [eraseAll, ih]
      rfl

theorem erase_directory (l : Label) (children : Keyed Inode) :
    (directory l children).erase = .directory l.attributes (children.mapValues erase) := by
  rw [erase, eraseAll_eq]

theorem find?_erase (i : Inode) (segments : List String) :
    i.erase.find? segments = (i.find? segments).map erase := by
  induction segments generalizing i with
  | nil => rfl
  | cons x rest ih =>
      cases i with
      | file l content => rfl
      | directory l children =>
          rw [erase_directory, Node.find?_directory_cons, Keyed.find?_mapValues, find?]
          cases Keyed.find? children x with
          | none => rfl
          | some child => exact ih child

theorem erase_put (segments : List String) (i new : Inode) :
    (put segments i new).erase = Node.put segments i.erase new.erase := by
  induction segments generalizing i with
  | nil => rfl
  | cons x rest ih =>
      cases i with
      | file l content => rfl
      | directory l children =>
          have hfind := Keyed.find?_mapValues erase children x
          rw [erase_directory]
          cases rest with
          | nil => rw [put, Node.put, erase_directory, Keyed.mapValues_insert]
          | cons y rest =>
              cases hx : Keyed.find? children x with
              | none =>
                  rw [hx] at hfind
                  simp only [put, hx, Node.put, hfind, Option.map_none, erase_directory]
              | some child =>
                  rw [hx] at hfind
                  simp only [put, hx, Node.put, hfind, Option.map_some, erase_directory,
                    Keyed.mapValues_insert, ih]

theorem parentOf_erase (i : Inode) (path : String) : Tree.parentOf i.erase path =
    (i.parentOf path).map fun r => (r.1, r.2.1, r.2.2.mapValues erase) := by
  unfold Tree.parentOf parentOf
  dsimp only
  cases (Path.segments "/" path).getLast? with
  | none => rfl
  | some name =>
      dsimp only
      rw [find?_erase]
      cases i.find? (Path.segments "/" path).dropLast with
      | none => rfl
      | some found =>
          cases found with
          | file l content => rfl
          | directory l children =>
              dsimp only [Option.map_some]
              rw [erase_directory]
              rfl

/-- **To write a file to a stored tree is to write it to its erasure.** -/
theorem erase_createFile (i : Inode) (now : Timestamp) (path content : String) :
    (i.createFile now path content).map erase = Tree.createFile i.erase now path content := by
  unfold createFile Tree.createFile
  rw [parentOf_erase]
  cases i.parentOf path with
  | error e => rfl
  | ok found =>
      obtain ⟨above, name, children⟩ := found
      simp only [bind, Except.bind, Except.map, Keyed.find?_mapValues]
      cases Keyed.find? children name with
      | none => exact congrArg Except.ok (erase_put _ _ _)
      | some old =>
          cases old with
          | file l text => exact congrArg Except.ok (erase_put _ _ _)
          | directory l grandchildren => rfl

/-- To make a directory in a stored tree is to make it in its erasure. -/
theorem erase_createDirectory (i : Inode) (now : Timestamp) (path : String) :
    (i.createDirectory now path).map erase = Tree.createDirectory i.erase now path := by
  unfold createDirectory Tree.createDirectory
  rw [parentOf_erase]
  cases i.parentOf path with
  | error e => rfl
  | ok found =>
      obtain ⟨above, name, children⟩ := found
      simp only [bind, Except.bind, Except.map, Keyed.find?_mapValues]
      cases Keyed.find? children name with
      | none => exact congrArg Except.ok (erase_put _ _ _)
      | some old =>
          cases old with
          | file l text => rfl
          | directory l grandchildren => rfl

/-! ## Sound labels -/

/-- Every label in the stored tree is right: a file has the size of its text and a directory the
fixed one, and the children of a directory stand under their own names, which are names that a path
can end with. -/
inductive Sound : Inode → Prop where
  | file {l : Label} {content : String} : l.size = content.utf8ByteSize → Sound (.file l content)
  | directory {l : Label} {children : Keyed Inode} : l.size = Node.directorySize →
      (∀ e ∈ children, e.2.name = e.1) → (∀ e ∈ children, Path.IsSegment e.1) →
      (∀ e ∈ children, Sound e.2) → Sound (.directory l children)

namespace Sound

theorem name_eq {l : Label} {children : Keyed Inode} {name : String}
    (h : Sound (.directory l children)) (hfind : Keyed.find? children name = some i) :
    i.name = name := by
  cases h with
  | directory _ hnames _ _ => exact hnames _ (Keyed.mem_of_find? hfind)

theorem child {l : Label} {children : Keyed Inode} {name : String}
    (h : Sound (.directory l children)) (hfind : Keyed.find? children name = some i) :
    i.Sound := by
  cases h with
  | directory _ _ _ hnodes => exact hnodes _ (Keyed.mem_of_find? hfind)

/-- What a walk finds is sound. -/
theorem find? {segments : List String} (h : i.Sound) (hfind : i.find? segments = some i') :
    i'.Sound := by
  induction segments generalizing i with
  | nil =>
      obtain rfl : i = i' := Option.some.inj hfind
      exact h
  | cons x rest ih =>
      cases i with
      | file l content => cases hfind
      | directory l children =>
          obtain ⟨next, hnext, hrest⟩ := Option.bind_eq_some_iff.mp hfind
          exact ih (h.child hnext) hrest

theorem insert {l : Label} {children : Keyed Inode} (h : Sound (.directory l children))
    (hname : Path.IsSegment i.name) (hi : i.Sound) :
    Sound (.directory l (Keyed.insert children i.name i)) := by
  cases h with
  | directory hsize hnames hsegments hnodes =>
      have hmem : ∀ {p : String × Inode → Prop}, p (i.name, i) → (∀ e ∈ children, p e) →
          ∀ e ∈ Keyed.insert children i.name i, p e := by
        intro p hnew hold e he
        rcases Keyed.mem_insert he with rfl | he
        · exact hnew
        · exact hold e he
      exact .directory hsize (hmem rfl hnames) (hmem hname hsegments) (hmem hi hnodes)

theorem withText (now : Timestamp) (text : String) (i : Inode) : (i.withText now text).Sound := by
  cases i with
  | file l content => exact .file rfl
  | directory l children => exact .file rfl

theorem owned (h : i.Sound) (owner group : String) : (i.owned owner group).Sound := by
  cases h with
  | file hsize => exact .file hsize
  | directory hsize hnames hsegments hnodes => exact .directory hsize hnames hsegments hnodes

end Sound

theorem sound_newFile (name : String) (now : Timestamp) (content : String) :
    (newFile name now content).Sound := .file rfl

theorem sound_newDirectory (name : String) (now : Timestamp) : (newDirectory name now).Sound :=
  .directory rfl (by simp) (by simp) (by simp)

/-! ### Sound trees stay sound -/

/-- Below its top, a node that is put leaves the label of the top. -/
theorem label_put {rest : List String} (h : rest ≠ []) (i new : Inode) :
    (put rest i new).label = i.label := by
  obtain ⟨x, rest, rfl⟩ := List.exists_cons_of_ne_nil h
  cases i with
  | file l content => rfl
  | directory l children =>
      cases rest with
      | nil => rfl
      | cons y rest => cases hx : Keyed.find? children x <;> simp only [put, hx, label]

/-- A sound node that is put under its own name leaves a sound tree. -/
theorem Sound.put {above : List String} {new : Inode} (h : i.Sound)
    (habove : ∀ s ∈ above, Path.IsSegment s) (hname : Path.IsSegment new.name)
    (hnew : new.Sound) : (i.put (above ++ [new.name]) new).Sound := by
  induction above generalizing i with
  | nil =>
      cases i with
      | file l content => exact h
      | directory l children => exact h.insert hname hnew
  | cons x above ih =>
      obtain ⟨hx, hrest⟩ := List.forall_mem_cons.mp habove
      cases i with
      | file l content => exact h
      | directory l children =>
          have hne : above ++ [new.name] ≠ [] := by simp
          obtain ⟨y, rest, hcons⟩ := List.exists_cons_of_ne_nil hne
          rw [List.cons_append]
          cases hchild : Keyed.find? children x with
          | none => simpa only [hcons, Inode.put, hchild] using h
          | some child =>
              -- The child that leads on is made anew, under the name that it has.
              have hput := ih (h.child hchild) hrest
              have hlabel : (child.put (above ++ [new.name]) new).name = x := by
                rw [name, label_put hne]
                exact h.name_eq hchild
              have hinsert := h.insert (hlabel ▸ hx) hput
              rw [hlabel] at hinsert
              rw [hcons] at hinsert ⊢
              simpa only [Inode.put, hchild] using hinsert

theorem parentOf_eq_ok {above : List String} {name : String} {children : Keyed Inode}
    (h : i.parentOf path = .ok (above, name, children)) :
    Path.segments "/" path = above ++ [name] ∧
      ∃ l, i.find? above = some (.directory l children) := by
  unfold parentOf at h
  dsimp only at h
  rcases List.eq_nil_or_concat (Path.segments "/" path) with hnil | ⟨init, last, hsegs⟩
  · rw [hnil] at h
    cases h
  · rw [hsegs, List.concat_eq_append, List.getLast?_concat, List.dropLast_concat] at h
    dsimp only at h
    cases hfind : i.find? init with
    | none => rw [hfind] at h; cases h
    | some found =>
        rw [hfind] at h
        cases found with
        | file l content => cases h
        | directory l grandchildren =>
            cases h
            exact ⟨by rw [hsegs, List.concat_eq_append], l, hfind⟩

/-- What a write puts is a sound node under its own name, if it puts something. -/
theorem Sound.put_segments {above : List String} {name : String} {new : Inode} (h : i.Sound)
    (hsegs : Path.segments "/" path = above ++ [name]) (hname : new.name = name)
    (hnew : new.Sound) : (i.put (above ++ [name]) new).Sound := by
  subst hname
  have hall : ∀ s ∈ above ++ [new.name], Path.IsSegment s := fun s hs =>
    Path.isSegment_of_mem_segments (hsegs ▸ hs)
  exact h.put (fun s hs => hall s (List.mem_append_left _ hs))
    (hall _ (List.mem_append_right _ List.mem_cons_self)) hnew

/-- A write that succeeds has found the directory in which its path ends. -/
theorem exists_of_parentOf_bind_eq_ok
    {f : List String × String × Keyed Inode → Except TreeError Inode}
    (h : (i.parentOf path >>= f) = .ok i') :
    ∃ above name children, Path.segments "/" path = above ++ [name] ∧
      (∃ l, i.find? above = some (.directory l children)) ∧ f (above, name, children) = .ok i' := by
  cases hparent : i.parentOf path with
  | error e => rw [hparent] at h; cases h
  | ok found =>
      obtain ⟨above, name, children⟩ := found
      obtain ⟨hsegs, habove⟩ := parentOf_eq_ok hparent
      rw [hparent] at h
      exact ⟨above, name, children, hsegs, habove, h⟩

theorem Sound.createFile (h : i.Sound) (hwrite : i.createFile now path content = .ok i') :
    i'.Sound := by
  obtain ⟨above, name, children, hsegs, ⟨l, habove⟩, hput⟩ := exists_of_parentOf_bind_eq_ok hwrite
  cases hold : Keyed.find? children name with
  | none =>
      simp only [hold] at hput
      cases hput
      exact h.put_segments hsegs rfl ((sound_newFile _ _ _).owned _ _)
  | some old =>
      cases old with
      | directory k grandchildren => simp only [hold] at hput; cases hput
      | file k text =>
          simp only [hold] at hput
          cases hput
          -- The old file gets a new text, and its name was right.
          have hname : k.name = name := (h.find? habove).name_eq hold
          exact h.put_segments hsegs hname (.withText _ _ _)

theorem Sound.createDirectory (h : i.Sound) (hwrite : i.createDirectory now path = .ok i') :
    i'.Sound := by
  obtain ⟨above, name, children, hsegs, -, hput⟩ := exists_of_parentOf_bind_eq_ok hwrite
  cases hold : Keyed.find? children name with
  | none =>
      simp only [hold] at hput
      cases hput
      exact h.put_segments hsegs rfl ((sound_newDirectory _ _).owned _ _)
  | some old =>
      cases old with
      | file k text => simp only [hold] at hput; cases hput
      | directory k grandchildren =>
          simp only [hold] at hput
          cases hput
          exact h

/-! ### What a listing reads -/

/-- The line of a node in a long listing, read off its label. -/
def line (i : Inode) : String :=
  Listing.line i.label.attributes.permissions i.label.attributes.owner i.label.attributes.group
    i.label.size i.label.attributes.modified i.label.name

/-- The long listing of a directory, which goes by the names on the labels. -/
def lines (i : Inode) (path : String) (showHidden : Bool) : Except TreeError (List String) :=
  match i.find? (Path.segments "/" path) with
  | none => .error (.notFound path)
  | some (file _ _) => .error (.notADirectory path)
  | some (directory _ children) =>
    .ok (((children.map Prod.snd).filter fun child =>
      showHidden || !Tree.isHidden child.name).map line)

theorem Sound.line_eq (h : i.Sound) : i.line = Listing.ofNode i.name i.erase := by
  cases h with
  | file hsize =>
      unfold line
      rw [label, hsize]
      rfl
  | directory hsize _ _ _ =>
      unfold line
      rw [label, hsize]
      rfl

/-- The listings of a sound tree are those of its erasure. -/
theorem Sound.lines_eq (h : i.Sound) (path : String) (showHidden : Bool) :
    i.lines path showHidden = Listing.ofDirectory i.erase path showHidden := by
  unfold lines Listing.ofDirectory Tree.entries Tree.resolve
  rw [find?_erase]
  cases hfind : i.find? (Path.segments "/" path) with
  | none => rfl
  | some found =>
      cases found with
      | file l content => rfl
      | directory l children =>
          rw [Option.map_some, erase_directory]
          simp only [Except.map, Keyed.mapValues, List.filter_map, List.map_map]
          cases h.find? hfind with
          | directory _ hnames _ hnodes =>
              have hshown : ∀ e ∈ children, ((fun child : Inode =>
                  showHidden || !Tree.isHidden child.name) ∘ Prod.snd) e =
                ((fun e : String × Node => showHidden || !Tree.isHidden e.1) ∘
                  fun e => (e.1, erase e.2)) e :=
                fun e he => by simp only [Function.comp, hnames e he]
              rw [List.filter_congr hshown]
              refine congrArg Except.ok (List.map_congr_left fun e he => ?_)
              have hmem := (List.mem_filter.mp he).1
              simp only [Function.comp, (hnodes e hmem).line_eq, hnames e hmem]

end Inode

/-! ## Storing a tree -/

namespace Node

theorem storedAll_eq (children : List (String × Node)) :
    storedAll children = children.map fun e => e.2.stored e.1 := by
  induction children with
  | nil => rfl
  | cons e rest ih =>
      obtain ⟨k, child⟩ := e
      rw [storedAll, ih]
      rfl

theorem stored_file (name : String) (a : Attributes) (content : String) :
    (file a content).stored name = .file ⟨name, content.utf8ByteSize, a⟩ content := by
  rw [stored]
  rfl

theorem name_stored (node : Node) (name : String) : (node.stored name).name = name := by
  cases node with
  | file a content => rw [stored_file]; rfl
  | directory a children => rw [stored]; rfl

/-- Children that are in order are stored in this order. -/
theorem stored_directory {children : Keyed Node} (h : Keyed.Ordered children) (name : String)
    (a : Attributes) : (directory a children).stored name =
      .directory ⟨name, directorySize, a⟩ (children.map fun e => (e.1, e.2.stored e.1)) := by
  have hordered : Keyed.Ordered ([] ++ children.map fun e => (e.1, e.2.stored e.1)) :=
    List.pairwise_map.mpr h
  have hfold := Keyed.foldl_insert_of_ordered hordered
  rw [List.foldl_map] at hfold
  rw [stored, storedAll_eq]
  simp only [Inode.newDirectory, Inode.owned, Inode.permitted, Inode.mapAttributes,
    Inode.withNodes, List.foldl_map, name_stored, hfold, List.nil_append]
  rfl

/-- What is stored is sound. -/
theorem WellFormed.sound_stored {node : Node} (h : node.WellFormed) (name : String) :
    (node.stored name).Sound := by
  induction h generalizing name with
  | file a content =>
      rw [stored_file]
      exact .file rfl
  | directory hordered hnames _ ih =>
      rw [stored_directory hordered]
      refine .directory rfl ?_ ?_ ?_
      · simp only [List.forall_mem_map, name_stored, implies_true]
      · simp only [List.forall_mem_map]
        exact hnames
      · simp only [List.forall_mem_map]
        exact fun e he => ih e he e.1

/-- To store a tree and forget the labels changes nothing. -/
theorem WellFormed.erase_stored {node : Node} (h : node.WellFormed) (name : String) :
    (node.stored name).erase = node := by
  induction h generalizing name with
  | file a content => rw [stored_file]; rfl
  | @directory a children hordered _ _ ih =>
      rw [stored_directory hordered, Inode.erase_directory, Keyed.mapValues, List.map_map]
      have hid : children.map ((fun e => (e.1, e.2.erase)) ∘ fun e => (e.1, e.2.stored e.1))
          = children := by
        conv_rhs => rw [← List.map_id children]
        exact List.map_congr_left fun e he => by simp only [Function.comp, ih e he, id]
      rw [hid]

end Node

end PlainTerminal
