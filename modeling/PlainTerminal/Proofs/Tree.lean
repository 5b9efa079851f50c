import PlainTerminal.Tree

/-!
# A write changes one place

The tree is a map from lists of segments to what a listing shows there, the *face* of the node: its
kind, owner, permissions and size, and the text of a file. A write that succeeds changes the face
at its own place and no other, wherever that place is; directories stay directories and files stay
where they are. The times of the nodes are no part of their faces.
-/

namespace PlainTerminal

/-- What is to be seen of a node, the time aside. -/
structure Face where
  isDirectory : Bool
  permissions : String
  owner : String
  group : String
  size : Nat
  content? : Option String
deriving DecidableEq

namespace Node

/-- The face of a node. -/
def face (node : Node) : Face :=
  ⟨node.isDirectory, node.attributes.permissions, node.attributes.owner, node.attributes.group,
    node.size, node.content?⟩

/-- The face of what is at the end of a walk. -/
def faceAt (node : Node) (segments : List String) : Option Face := (node.find? segments).map face

theorem find?_directory_cons (a : Attributes) (children : Keyed Node) (x : String)
    (rest : List String) :
    (directory a children).find? (x :: rest) = (Keyed.find? children x).bind (find? rest) := rfl

theorem find?_append (node : Node) (p q : List String) :
    node.find? (p ++ q) = (node.find? p).bind (find? q) := by
  induction p generalizing node with
  | nil => rfl
  | cons x p ih =>
      cases node with
      | file a content => rfl
      | directory a children =>
          rw [List.cons_append, find?_directory_cons, find?_directory_cons, Option.bind_assoc]
          exact Option.bind_congr fun child _ => ih child

/-! ## Putting a node at the end of a walk -/

/-- Putting a node below a directory changes the one child on the way there. -/
theorem put_directory_cons (a : Attributes) (children : Keyed Node) (x : String)
    (rest : List String) (new : Node) :
    ∃ children' : Keyed Node, put (x :: rest) (directory a children) new = directory a children' ∧
      ∀ y, Keyed.find? children' y =
        if x = y then
          if rest = [] then some new else (Keyed.find? children x).map fun c => put rest c new
        else Keyed.find? children y := by
  cases rest with
  | nil => exact ⟨_, by rw [put], fun y => by rw [Keyed.find?_insert, if_pos rfl]⟩
  | cons z rest =>
      cases hx : Keyed.find? children x with
      | some child =>
          refine ⟨Keyed.insert children x (put (z :: rest) child new), by simp only [put, hx],
            fun y => ?_⟩
          rw [Keyed.find?_insert, if_neg (List.cons_ne_nil z rest)]
          rfl
      | none =>
          -- A walk that leads nowhere changes nothing.
          refine ⟨children, by simp only [put, hx], fun y => ?_⟩
          by_cases hxy : x = y
          · rw [if_pos hxy, if_neg (by simp), ← hxy, hx]
            rfl
          · rw [if_neg hxy]

/-- Below something other than the place itself, a face is that of its top. -/
theorem face_put {rest : List String} (h : rest ≠ []) (node new : Node) :
    (put rest node new).face = node.face := by
  obtain ⟨x, rest, rfl⟩ := List.exists_cons_of_ne_nil h
  cases node with
  | file a content => rfl
  | directory a children =>
      obtain ⟨children', hput, -⟩ := put_directory_cons a children x rest new
      rw [hput]
      rfl

/-- Every face that is not at or below the place is kept. -/
theorem faceAt_put_of_not_prefix {p q : List String} (h : ¬ p <+: q) (node new : Node) :
    (put p node new).faceAt q = node.faceAt q := by
  induction p generalizing q node with
  | nil => exact absurd (List.nil_prefix) h
  | cons x p ih =>
      cases q with
      | nil => exact congrArg some (face_put (List.cons_ne_nil x p) node new)
      | cons y q =>
          cases node with
          | file a content => rfl
          | directory a children =>
              obtain ⟨children', hput, hfind⟩ := put_directory_cons a children x p new
              unfold faceAt
              rw [hput, find?_directory_cons, find?_directory_cons, hfind]
              by_cases hxy : x = y
              · -- Both ways lead into the same child, and part below it.
                subst hxy
                have hp : p ≠ [] := by
                  rintro rfl
                  exact h ⟨q, rfl⟩
                have hpq : ¬ p <+: q := fun hpq => h ((List.prefix_cons_inj x).mpr hpq)
                rw [if_pos rfl, if_neg hp]
                cases Keyed.find? children x with
                | none => rfl
                | some child => exact ih hpq child
              · rw [if_neg hxy]

/-- At and below the place there is the new node, if the way there leads through directories. -/
theorem find?_put_append {above : List String} {name : String} {node : Node} {a : Attributes}
    {children : Keyed Node} (h : node.find? above = some (directory a children)) (new : Node)
    (below : List String) :
    (put (above ++ [name]) node new).find? (above ++ [name] ++ below) = new.find? below := by
  induction above generalizing node with
  | nil =>
      obtain rfl : node = directory a children := Option.some.inj h
      obtain ⟨children', hput, hfind⟩ := put_directory_cons a children name [] new
      rw [List.nil_append, hput, List.cons_append, List.nil_append, find?_directory_cons, hfind,
        if_pos rfl, if_pos rfl]
      rfl
  | cons x above ih =>
      cases node with
      | file b content => cases h
      | directory b grandchildren =>
          rw [find?_directory_cons] at h
          obtain ⟨child, hchild, hbelow⟩ := Option.bind_eq_some_iff.mp h
          obtain ⟨children', hput, hfind⟩ :=
            put_directory_cons b grandchildren x (above ++ [name]) new
          rw [List.cons_append, hput, List.cons_append, find?_directory_cons, hfind, if_pos rfl,
            if_neg (by simp), hchild]
          exact ih hbelow

/-- The file that a write leaves in place of what was there. -/
def written (old : Option Node) (now : Timestamp) (content : String) : Node :=
  match old with
  | some (file a _) => file { a with modified := now } content
  | _ => (newFile now content).owned "user" "user"

end Node

/-- The face of a file after a text has been written to it. -/
def Face.written (old : Option Face) (content : String) : Face :=
  match old with
  | some f => { f with size := content.utf8ByteSize, content? := some content }
  | none => ⟨false, "-rw-r--r--", "user", "user", content.utf8ByteSize, some content⟩

/-- The face of a new directory of the user. -/
def Face.newDirectory : Face := ⟨true, "drwxr-xr-x", "user", "user", Node.directorySize, none⟩

namespace Tree

open Node

variable {tree tree' : Tree} {now : Timestamp} {path content : String}

theorem isDirectory_eq (tree : Tree) (path : String) :
    tree.isDirectory path = (tree.faceAt (Path.segments "/" path)).any Face.isDirectory := by
  unfold Tree.isDirectory Tree.resolve faceAt
  cases tree.find? (Path.segments "/" path) <;> rfl

/-- What reading a file comes to is told from the face of what is there. -/
theorem contentOf_eq (tree : Tree) (path : String) :
    tree.contentOf path = match tree.faceAt (Path.segments "/" path) with
      | none => .error (.notFound path)
      | some face => match face.content? with
        | none => .error (.isADirectory path)
        | some content => .ok content := by
  unfold Tree.contentOf Tree.resolve faceAt
  cases tree.find? (Path.segments "/" path) with
  | none => rfl
  | some node => cases node <;> rfl

theorem toOption_contentOf (tree : Tree) (path : String) :
    (tree.contentOf path).toOption
      = (tree.faceAt (Path.segments "/" path)).bind Face.content? := by
  rw [contentOf_eq]
  cases tree.faceAt (Path.segments "/" path) with
  | none => rfl
  | some face =>
      dsimp only
      rw [Option.bind_some]
      cases face.content? <;> rfl

/-- Where a path's last segment stands. -/
theorem parentOf_eq_ok_iff {above : List String} {name : String} {children : Keyed Node} :
    tree.parentOf path = .ok (above, name, children) ↔
      Path.segments "/" path = above ++ [name] ∧
        ∃ a, tree.find? above = some (.directory a children) := by
  unfold Tree.parentOf
  dsimp only
  rcases List.eq_nil_or_concat (Path.segments "/" path) with hnil | ⟨init, last, hsegs⟩
  · rw [hnil]
    simp
  · rw [hsegs, List.concat_eq_append, List.getLast?_concat, List.dropLast_concat]
    dsimp only
    constructor
    · intro h
      cases hfind : tree.find? init with
      | none => rw [hfind] at h; cases h
      | some node =>
          rw [hfind] at h
          cases node with
          | file a c => cases h
          | directory a c =>
              cases h
              exact ⟨rfl, a, hfind⟩
    · rintro ⟨heq, a, hfind⟩
      obtain ⟨rfl, hname⟩ := List.append_inj' heq rfl
      obtain rfl : last = name := List.singleton_inj.mp hname
      rw [hfind]

theorem find?_child {above : List String} {name : String} {a : Attributes}
    {children : Keyed Node} (h : tree.find? above = some (.directory a children)) :
    tree.find? (above ++ [name]) = Keyed.find? children name := by
  rw [find?_append, h, Option.bind_some, find?_directory_cons]
  cases Keyed.find? children name <;> rfl

theorem createFile_eq_ok_iff :
    tree.createFile now path content = .ok tree' ↔
      ∃ above name a children, Path.segments "/" path = above ++ [name] ∧
        tree.find? above = some (.directory a children) ∧
        ((tree.find? (above ++ [name])).any Node.isDirectory) = false ∧
        tree' = tree.put (above ++ [name])
          (.written (tree.find? (above ++ [name])) now content) := by
  constructor
  · intro h
    unfold Tree.createFile at h
    cases hparent : tree.parentOf path with
    | error e => rw [hparent] at h; cases h
    | ok found =>
        obtain ⟨above, name, children⟩ := found
        obtain ⟨hsegs, a, habove⟩ := parentOf_eq_ok_iff.mp hparent
        refine ⟨above, name, a, children, hsegs, habove, ?_⟩
        rw [find?_child habove]
        rw [hparent] at h
        -- Under the name there is nothing, a directory or a file.
        cases hold : Keyed.find? children name with
        | none =>
            simp only [bind, Except.bind, hold] at h
            cases h
            exact ⟨rfl, rfl⟩
        | some old =>
            cases old with
            | directory b c => simp only [bind, Except.bind, hold] at h; cases h
            | file b c =>
                simp only [bind, Except.bind, hold] at h
                cases h
                exact ⟨rfl, rfl⟩
  · rintro ⟨above, name, a, children, hsegs, habove, hold, rfl⟩
    unfold Tree.createFile
    rw [parentOf_eq_ok_iff.mpr ⟨hsegs, a, habove⟩]
    rw [find?_child habove] at hold ⊢
    cases hchild : Keyed.find? children name with
    | none => simp only [bind, Except.bind, hchild]; rfl
    | some old =>
        rw [hchild] at hold
        cases old with
        | directory b c => cases hold
        | file b c => simp only [bind, Except.bind, hchild]; rfl

theorem createDirectory_eq_ok_iff :
    tree.createDirectory now path = .ok tree' ↔
      ∃ above name a children, Path.segments "/" path = above ++ [name] ∧
        tree.find? above = some (.directory a children) ∧
        ((∃ b c, tree.find? (above ++ [name]) = some (.directory b c) ∧ tree' = tree) ∨
          (tree.find? (above ++ [name]) = none ∧
            tree' = tree.put (above ++ [name]) ((newDirectory now).owned "user" "user"))) := by
  constructor
  · intro h
    unfold Tree.createDirectory at h
    cases hparent : tree.parentOf path with
    | error e => rw [hparent] at h; cases h
    | ok found =>
        obtain ⟨above, name, children⟩ := found
        obtain ⟨hsegs, a, habove⟩ := parentOf_eq_ok_iff.mp hparent
        refine ⟨above, name, a, children, hsegs, habove, ?_⟩
        rw [find?_child habove]
        rw [hparent] at h
        cases hold : Keyed.find? children name with
        | none =>
            simp only [bind, Except.bind, hold] at h
            cases h
            exact Or.inr ⟨rfl, rfl⟩
        | some old =>
            cases old with
            | file b c => simp only [bind, Except.bind, hold] at h; cases h
            | directory b c =>
                simp only [bind, Except.bind, hold] at h
                cases h
                exact Or.inl ⟨b, c, rfl, rfl⟩
  · rintro ⟨above, name, a, children, hsegs, habove, hcases⟩
    unfold Tree.createDirectory
    rw [parentOf_eq_ok_iff.mpr ⟨hsegs, a, habove⟩]
    rw [find?_child habove] at hcases
    rcases hcases with ⟨b, c, hchild, rfl⟩ | ⟨hchild, rfl⟩
    · simp only [bind, Except.bind, hchild]; rfl
    · simp only [bind, Except.bind, hchild]; rfl

/-! ## The faces after a write -/

/-- Nothing is below a file or below nothing. -/
theorem faceAt_below {p : List String} {x : String} {rest : List String}
    (h : ((tree.find? p).any Node.isDirectory) = false) :
    tree.faceAt (p ++ x :: rest) = none := by
  unfold faceAt
  rw [find?_append]
  cases hp : tree.find? p with
  | none => rfl
  | some node =>
      cases node with
      | file a c => rfl
      | directory a c => rw [hp] at h; cases h

/-- Putting a node with nothing below it where nothing is below changes one face. -/
theorem faceAt_put {above : List String} {name : String} {a : Attributes}
    {children : Keyed Node} {new : Node} (habove : tree.find? above = some (.directory a children))
    (hold : ((tree.find? (above ++ [name])).any Node.isDirectory) = false)
    (hnew : ∀ x rest, new.find? (x :: rest) = none) (q : List String) :
    (Node.put (above ++ [name]) tree new).faceAt q
      = if q = above ++ [name] then some new.face else tree.faceAt q := by
  by_cases hpq : above ++ [name] <+: q
  · -- At or below the place only the new node counts, and it has nothing below it.
    obtain ⟨below, rfl⟩ := hpq
    have hput : (Node.put (above ++ [name]) tree new).find? (above ++ [name] ++ below)
        = new.find? below := find?_put_append habove new below
    cases below with
    | nil =>
        rw [List.append_nil] at hput ⊢
        rw [if_pos rfl, faceAt, hput]
        rfl
    | cons x rest =>
        rw [if_neg (by simp), faceAt_below hold, faceAt, hput, hnew]
        rfl
  · have hne : q ≠ above ++ [name] := by
      rintro rfl
      exact hpq (List.prefix_refl _)
    rw [if_neg hne, faceAt_put_of_not_prefix hpq]

/-- **A written file changes the face at its own place alone.** -/
theorem faceAt_createFile (h : tree.createFile now path content = .ok tree') (q : List String) :
    tree'.faceAt q =
      if q = Path.segments "/" path then some (Face.written (tree.faceAt q) content)
      else tree.faceAt q := by
  obtain ⟨above, name, a, children, hsegs, habove, hold, rfl⟩ := createFile_eq_ok_iff.mp h
  have hnew : ∀ x rest,
      (Node.written (tree.find? (above ++ [name])) now content).find? (x :: rest) = none := by
    intro x rest
    cases hfind : tree.find? (above ++ [name]) with
    | none => rfl
    | some node => cases node <;> rfl
  rw [faceAt_put habove hold hnew, hsegs]
  by_cases hq : q = above ++ [name]
  · subst hq
    rw [if_pos rfl, if_pos rfl, faceAt]
    cases hfind : tree.find? (above ++ [name]) with
    | none => rfl
    | some node =>
        cases node with
        | file b c => rfl
        | directory b c => rw [hfind] at hold; cases hold
  · rw [if_neg hq, if_neg hq]

/-- **A made directory changes the face at its own place alone**, and none if it was there. -/
theorem faceAt_createDirectory (h : tree.createDirectory now path = .ok tree')
    (q : List String) :
    tree'.faceAt q =
      if q = Path.segments "/" path then some ((tree.faceAt q).getD Face.newDirectory)
      else tree.faceAt q := by
  obtain ⟨above, name, a, children, hsegs, habove, hcases⟩ := createDirectory_eq_ok_iff.mp h
  rcases hcases with ⟨b, c, hfind, rfl⟩ | ⟨hfind, rfl⟩
  · rw [hsegs]
    split
    · rename_i hq
      subst hq
      rw [faceAt, hfind]
      rfl
    · rfl
  · rw [faceAt_put habove (by rw [hfind]; rfl) (fun _ _ => rfl), hsegs]
    split
    · rename_i hq
      subst hq
      rw [faceAt, hfind]
      rfl
    · rfl

/-- A file can be written under every name in a directory that is not the name of a directory. -/
theorem exists_createFile_iff (tree : Tree) (now : Timestamp) (path content : String) :
    (∃ tree', tree.createFile now path content = .ok tree') ↔
      Path.segments "/" path ≠ [] ∧
        ((tree.faceAt (Path.segments "/" path).dropLast).any Face.isDirectory) = true ∧
        ((tree.faceAt (Path.segments "/" path)).any Face.isDirectory) = false := by
  have hany : ∀ q, ((tree.faceAt q).any Face.isDirectory)
      = ((tree.find? q).any Node.isDirectory) := by
    intro q
    unfold faceAt
    cases tree.find? q <;> rfl
  rw [hany, hany]
  constructor
  · rintro ⟨tree', h⟩
    obtain ⟨above, name, a, children, hsegs, habove, hold, -⟩ := createFile_eq_ok_iff.mp h
    rw [hsegs, List.dropLast_concat, habove]
    exact ⟨by simp, rfl, hold⟩
  · rintro ⟨hne, hparent, hold⟩
    obtain ⟨above, name, hsegs⟩ := (List.eq_nil_or_concat _).resolve_left hne
    rw [List.concat_eq_append] at hsegs
    rw [hsegs, List.dropLast_concat] at hparent
    cases habove : tree.find? above with
    | none => rw [habove] at hparent; cases hparent
    | some node =>
        cases node with
        | file b c => rw [habove] at hparent; cases hparent
        | directory b c =>
            exact ⟨_, createFile_eq_ok_iff.mpr
              ⟨above, name, b, c, hsegs, habove, hsegs ▸ hold, rfl⟩⟩

/-- A file is written to no directory. -/
theorem not_isDirectory_of_createFile (h : tree.createFile now path content = .ok tree') :
    tree.isDirectory path = false := by
  obtain ⟨above, name, a, children, hsegs, habove, hold, rfl⟩ := createFile_eq_ok_iff.mp h
  unfold Tree.isDirectory Tree.resolve
  rw [hsegs]
  exact hold

/-- What has been written can be read. -/
theorem contentOf_createFile (h : tree.createFile now path content = .ok tree') :
    tree'.contentOf path = .ok content := by
  rw [contentOf_eq, faceAt_createFile h, if_pos rfl]
  cases tree.faceAt (Path.segments "/" path) <;> rfl

/-- At any other path there is what there was. -/
theorem contentOf_createFile_of_ne (h : tree.createFile now path content = .ok tree')
    {other : String} (hne : Path.segments "/" other ≠ Path.segments "/" path) :
    tree'.contentOf other = tree.contentOf other := by
  rw [contentOf_eq, contentOf_eq, faceAt_createFile h, if_neg hne]

/-- To write a file makes and removes no directory. -/
theorem isDirectory_createFile_eq (h : tree.createFile now path content = .ok tree')
    (place : String) : tree'.isDirectory place = tree.isDirectory place := by
  rw [isDirectory_eq, isDirectory_eq, faceAt_createFile h]
  split
  · rename_i hplace
    have hnot := not_isDirectory_of_createFile h
    rw [isDirectory_eq, ← hplace] at hnot
    rw [hnot]
    cases hface : tree.faceAt (Path.segments "/" place) with
    | none => rfl
    | some f => rw [hface] at hnot; exact hnot
  · rfl

/-- Directories stay directories when a file is written. -/
theorem isDirectory_of_createFile (h : tree.createFile now path content = .ok tree')
    {place : String} (hdir : tree.isDirectory place = true) : tree'.isDirectory place = true := by
  rw [isDirectory_createFile_eq h]
  exact hdir

/-- Directories stay directories when another one is made. -/
theorem isDirectory_of_createDirectory (h : tree.createDirectory now path = .ok tree')
    {place : String} (hdir : tree.isDirectory place = true) : tree'.isDirectory place = true := by
  rw [isDirectory_eq] at hdir ⊢
  rw [faceAt_createDirectory h]
  split
  · cases hface : tree.faceAt (Path.segments "/" place) with
    | none => rw [hface] at hdir; cases hdir
    | some f => rw [hface] at hdir; exact hdir
  · exact hdir

/-- To make a directory makes this one alone. -/
theorem isDirectory_createDirectory_iff (h : tree.createDirectory now path = .ok tree')
    (place : String) : tree'.isDirectory place = true ↔
      tree.isDirectory place = true ∨ Path.segments "/" place = Path.segments "/" path := by
  constructor
  · intro hdir
    by_cases hplace : Path.segments "/" place = Path.segments "/" path
    · exact Or.inr hplace
    · rw [isDirectory_eq, faceAt_createDirectory h, if_neg hplace, ← isDirectory_eq] at hdir
      exact Or.inl hdir
  · rintro (hdir | hplace)
    · exact isDirectory_of_createDirectory h hdir
    · -- In its place there is a directory now: a file there would have been in the way.
      obtain ⟨above, name, a, children, hsegs, habove, hcases⟩ :=
        createDirectory_eq_ok_iff.mp h
      unfold Tree.isDirectory Tree.resolve
      rw [hplace, hsegs]
      rcases hcases with ⟨b, c, hfind, rfl⟩ | ⟨-, rfl⟩
      · rw [hfind]
        rfl
      · have hput : (Node.put (above ++ [name]) tree ((newDirectory now).owned "user" "user")).find?
            (above ++ [name] ++ []) = some ((newDirectory now).owned "user" "user") :=
          find?_put_append habove _ []
        rw [List.append_nil] at hput
        rw [hput]
        rfl

end Tree

end PlainTerminal
