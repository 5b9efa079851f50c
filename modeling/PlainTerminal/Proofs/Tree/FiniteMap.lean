import PlainTerminal.Proofs.Tree.Emptied
import PlainTerminal.Proofs.Tree.WellFormed
import PlainTerminal.Store

/-!
# The tree is a finite map from canonical paths to nodes

A write stores one node under one canonical path. Under every other path there is what there was:
the same file with its text and attributes, or the same directory, of which a listing shows the same
children. Only the directory around the place lists something else, the new child in place of any
old one of its name.

What a listing shows of a directory is its *glance*: the children with their attributes and the
texts of files, but not what is in the children. A write far below a directory leaves its glance as
it is, though not the node itself, so the glance is what a statement about other paths can be about.
-/

namespace PlainTerminal

namespace Path

/-- The canonical path of the directory around a path. -/
def parent (path : String) : String := render (segments "/" path).dropLast

theorem segments_parent (base path : String) :
    segments base (parent path) = (segments "/" path).dropLast :=
  segments_render base fun _ h => isSegment_of_mem_segments (List.dropLast_subset _ h)

/-- Two spellings have one canonical form if they have the same segments. -/
theorem normalize_eq_iff {base path path' : String} :
    normalize base path' = normalize base path ↔ segments base path' = segments base path := by
  constructor
  · exact render_injective (fun _ => isSegment_of_mem_segments) fun _ => isSegment_of_mem_segments
  · intro h
    rw [normalize, normalize, h]

theorem normalize_eq_root_iff {base path : String} :
    normalize base path = "/" ↔ segments base path = [] := by
  have hroot : "/" = render [] := rfl
  rw [hroot]
  constructor
  · exact render_injective (fun _ => isSegment_of_mem_segments) (by simp)
  · intro h
    rw [normalize, h]

theorem normalize_eq_parent_iff {path path' : String} :
    normalize "/" path' = parent path ↔ segments "/" path' = (segments "/" path).dropLast := by
  constructor
  · exact render_injective (fun _ => isSegment_of_mem_segments)
      fun _ h => isSegment_of_mem_segments (List.dropLast_subset _ h)
  · intro h
    rw [normalize, parent, h]

end Path

namespace Node

/-- What is to be seen of a node from above: of a directory its children, but not what is in
them. -/
def glance : Node → Node
  | file a content => file a content
  | directory a children => directory a (children.map shape)

/-- Below its top, a node that is put changes nothing of what is to be seen of the top. -/
theorem bare_put {rest : List String} (h : rest ≠ []) (node new : Node) :
    (put rest node new).bare = node.bare := by
  obtain ⟨x, rest, rfl⟩ := List.exists_cons_of_ne_nil h
  cases node with
  | file a content => rfl
  | directory a children =>
      obtain ⟨children', hput, -⟩ := put_directory_cons a children x rest new
      rw [hput]
      rfl

/-- Two steps below a directory nothing is to be seen from above. -/
theorem glance_put {node : Node} (h : node.WellFormed) (x : String) {rest : List String}
    (hrest : rest ≠ []) (new : Node) : (put (x :: rest) node new).glance = node.glance := by
  obtain ⟨y, rest, rfl⟩ := List.exists_cons_of_ne_nil hrest
  cases node with
  | file a content => rfl
  | directory a children =>
      cases hchild : Keyed.find? children x with
      | none => simp only [put, hchild]
      | some child =>
          -- The child is another one, but what a listing shows of it is the same.
          have hshape : shape (x, put (y :: rest) child new) = shape (x, child) := by
            rw [shape, shape, bare_put hrest]
          simp only [put, hchild, glance, h.ordered.map_insert shape hchild hshape]

/-- On the way to the place there is the node that was there, with the new one put further on. -/
theorem find?_put_above (q : List String) {rest : List String} (h : rest ≠ []) (node new : Node) :
    (put (q ++ rest) node new).find? q = (node.find? q).map fun n => put rest n new := by
  induction q generalizing node with
  | nil => rfl
  | cons x q ih =>
      cases node with
      | file a content => rfl
      | directory a children =>
          -- The directory is made anew around the one child that leads on.
          obtain ⟨children', hput, hfind⟩ := put_directory_cons a children x (q ++ rest) new
          have hmore : q ++ rest ≠ [] := List.append_ne_nil_of_right_ne_nil q h
          rw [List.cons_append, hput, find?_directory_cons, hfind, if_pos rfl, if_neg hmore,
            find?_directory_cons]
          cases Keyed.find? children x with
          | none => rfl
          | some child => exact ih child

/-- A walk that leaves the way to the place finds what was there. -/
theorem find?_put_of_apart {p q : List String} (hpq : ¬ p <+: q) (hqp : ¬ q <+: p)
    (node new : Node) : (put p node new).find? q = node.find? q := by
  induction q generalizing p node with
  | nil => exact absurd List.nil_prefix hqp
  | cons y q ih =>
      cases p with
      | nil => exact absurd List.nil_prefix hpq
      | cons x p =>
          cases node with
          | file a content => rfl
          | directory a children =>
              obtain ⟨children', hput, hfind⟩ := put_directory_cons a children x p new
              rw [hput, find?_directory_cons, find?_directory_cons, hfind]
              by_cases hxy : x = y
              · -- both ways lead into the same child, and part below it
                subst hxy
                have hp : p ≠ [] := by
                  rintro rfl
                  exact hpq ⟨q, rfl⟩
                rw [if_pos rfl, if_neg hp]
                cases Keyed.find? children x with
                | none => rfl
                | some child =>
                    refine ih (fun h => hpq ?_) (fun h => hqp ?_) child
                    · exact (List.prefix_cons_inj x).mpr h
                    · exact (List.prefix_cons_inj x).mpr h
              · rw [if_neg hxy]

end Node

namespace Tree

open Node

variable {tree tree' : Tree} {path : String}

/-- `tree'` is `tree` with the node `new` under `path`, and that is all: under every spelling of the
path there is the new node, the directory around it has that child and its old ones, and under any
other path there is what there was, as far as it can be seen from there. -/
structure Gains (tree : Tree) (path : String) (new : Node) (tree' : Tree) : Prop where
  here : ∀ q, Path.normalize "/" q = Path.normalize "/" path → tree'.resolve q = some new
  around : ∀ q, Path.normalize "/" q = Path.parent path → ∃ a children name,
    Path.segments "/" path = Path.segments "/" q ++ [name] ∧
    tree.resolve q = some (.directory a children) ∧
    tree'.resolve q = some (.directory a (Keyed.insert children name new))
  elsewhere : ∀ q, Path.normalize "/" q ≠ Path.normalize "/" path →
    Path.normalize "/" q ≠ Path.parent path →
    (tree'.resolve q).map glance = (tree.resolve q).map glance

/-- A node without children that is put where there is no directory is all that the tree gains. -/
theorem gains_put (h : tree.WellFormed) {above : List String} {name : String} {a : Attributes}
    {children : Keyed Node} {new : Node} (hsegs : Path.segments "/" path = above ++ [name])
    (habove : tree.find? above = some (.directory a children))
    (hold : ((tree.find? (above ++ [name])).any Node.isDirectory) = false)
    (hnew : ∀ x rest, new.find? (x :: rest) = none) :
    tree.Gains path new (tree.put (above ++ [name]) new) := by
  refine ⟨fun q hq => ?_, fun q hq => ?_, fun q hq hparent => ?_⟩
  · rw [Path.normalize_eq_iff, hsegs] at hq
    have hput : (tree.put (above ++ [name]) new).find? (above ++ [name] ++ []) = new.find? [] :=
      find?_put_append habove new []
    rw [List.append_nil] at hput
    rw [Tree.resolve, hq]
    exact hput
  · -- Around the place, one child is put in.
    rw [Path.normalize_eq_parent_iff, hsegs, List.dropLast_concat] at hq
    refine ⟨a, children, name, by rw [hq, hsegs], by rw [Tree.resolve, hq, habove], ?_⟩
    have hput := find?_put_above above (List.cons_ne_nil name []) tree new
    rw [habove] at hput
    rw [Tree.resolve, hq]
    exact hput
  · rw [ne_eq, Path.normalize_eq_iff, hsegs] at hq
    rw [ne_eq, Path.normalize_eq_parent_iff, hsegs, List.dropLast_concat] at hparent
    unfold Tree.resolve
    -- Only the segments of the other path count: they lead below the place, above it, or apart.
    generalize Path.segments "/" q = segs at hq hparent
    by_cases hbelow : above ++ [name] <+: segs
    · -- nothing is below the place, before or after
      obtain ⟨below, rfl⟩ := hbelow
      cases below with
      | nil => exact absurd (List.append_nil _) hq
      | cons x rest =>
          have hafter : (tree.put (above ++ [name]) new).find? (above ++ [name] ++ x :: rest)
              = new.find? (x :: rest) := find?_put_append habove new (x :: rest)
          rw [hnew] at hafter
          have hbefore : tree.find? (above ++ [name] ++ x :: rest) = none :=
            Option.map_eq_none_iff.mp (faceAt_below hold)
          rw [hafter, hbefore]
    · by_cases habovep : segs <+: above ++ [name]
      · -- the place is two steps further on at least
        obtain ⟨rest, hrest⟩ := habovep
        rw [← hrest]
        match rest with
        | [] =>
            rw [List.append_nil] at hrest
            exact absurd hrest hq
        | [x] => exact absurd (List.append_inj' hrest rfl).1 hparent
        | x :: y :: rest =>
            rw [find?_put_above segs (List.cons_ne_nil x _)]
            cases hfind : tree.find? segs with
            | none => rfl
            | some node =>
                have hglance := glance_put (h.find? hfind) x (List.cons_ne_nil y rest) new
                exact congrArg some hglance
      · rw [find?_put_of_apart hbelow habovep]

/-! ## Writes -/

theorem gains_createFile {now : Timestamp} {content : String} (h : tree.WellFormed)
    (hwrite : tree.createFile now path content = .ok tree') :
    tree.Gains path (.written (tree.resolve path) now content) tree' := by
  obtain ⟨above, name, a, children, hsegs, habove, hold, rfl⟩ := createFile_eq_ok_iff.mp hwrite
  rw [Tree.resolve, hsegs]
  refine gains_put h hsegs habove hold fun x rest => ?_
  unfold written
  split
  · rfl
  · rfl

/-- A directory that is there stays as it is, and so does the whole tree. -/
theorem gains_createDirectory {now : Timestamp} (h : tree.WellFormed)
    (hwrite : tree.createDirectory now path = .ok tree') :
    if tree.isDirectory path then tree' = tree
    else tree.Gains path ((newDirectory now).owned "user" "user") tree' := by
  obtain ⟨above, name, a, children, hsegs, habove, hcases⟩ := createDirectory_eq_ok_iff.mp hwrite
  unfold Tree.isDirectory Tree.resolve
  rw [hsegs]
  rcases hcases with ⟨b, c, hfind, rfl⟩ | ⟨hfind, rfl⟩
  · rw [hfind]
    rfl
  · rw [hfind]
    exact gains_put h hsegs habove (by rw [hfind]; rfl) fun _ _ => rfl

theorem isDirectory_parent (tree : Tree) (path : String) : tree.isDirectory (Path.parent path)
    = ((tree.find? (Path.segments "/" path).dropLast).any Node.isDirectory) := by
  rw [Tree.isDirectory, Tree.resolve, Path.segments_parent]

theorem exists_createFile_iff_isDirectory (tree : Tree) (now : Timestamp) (path content : String) :
    (∃ tree', tree.createFile now path content = .ok tree') ↔
      Path.normalize "/" path ≠ "/" ∧ tree.isDirectory (Path.parent path) = true ∧
        tree.isDirectory path = false := by
  rw [exists_createFile_iff, ne_eq, ne_eq, Path.normalize_eq_root_iff,
    isDirectory_eq tree (Path.parent path), Path.segments_parent, isDirectory_eq tree path]

/-- A directory can be made under every name in a directory that is not the name of a file. -/
theorem exists_createDirectory_iff (tree : Tree) (now : Timestamp) (path : String) :
    (∃ tree', tree.createDirectory now path = .ok tree') ↔
      Path.normalize "/" path ≠ "/" ∧ tree.isDirectory (Path.parent path) = true ∧
        ∀ a text, tree.resolve path ≠ some (.file a text) := by
  rw [ne_eq, Path.normalize_eq_root_iff, isDirectory_parent]
  unfold Tree.resolve
  constructor
  · rintro ⟨tree', hwrite⟩
    obtain ⟨above, name, a, children, hsegs, habove, hcases⟩ :=
      createDirectory_eq_ok_iff.mp hwrite
    rw [hsegs, List.dropLast_concat, habove]
    refine ⟨by simp, rfl, fun b text hfile => ?_⟩
    rcases hcases with ⟨c, grandchildren, hfind, -⟩ | ⟨hfind, -⟩
    · rw [hfind] at hfile
      cases hfile
    · rw [hfind] at hfile
      cases hfile
  · rintro ⟨hne, hparent, hfile⟩
    obtain ⟨above, name, hsegs⟩ := (List.eq_nil_or_concat _).resolve_left hne
    rw [List.concat_eq_append] at hsegs
    rw [hsegs, List.dropLast_concat] at hparent
    rw [hsegs] at hfile
    cases habove : tree.find? above with
    | none => rw [habove] at hparent; cases hparent
    | some around =>
        cases around with
        | file a text => rw [habove] at hparent; cases hparent
        | directory a children =>
            -- under the name there is nothing or a directory
            cases hfind : tree.find? (above ++ [name]) with
            | none =>
                exact ⟨_, createDirectory_eq_ok_iff.mpr
                  ⟨above, name, a, children, hsegs, habove, Or.inr ⟨hfind, rfl⟩⟩⟩
            | some node =>
                cases node with
                | file b text => exact absurd hfind (hfile b text)
                | directory b grandchildren =>
                    exact ⟨tree, createDirectory_eq_ok_iff.mpr
                      ⟨above, name, a, children, hsegs, habove,
                        Or.inl ⟨b, grandchildren, hfind, rfl⟩⟩⟩

/-- What has been written is read under every spelling of the path. -/
theorem contentOf_createFile_of_spelling {now : Timestamp} {content : String}
    (hwrite : tree.createFile now path content = .ok tree') {q : String}
    (hq : Path.normalize "/" q = Path.normalize "/" path) : tree'.contentOf q = .ok content := by
  have hread := contentOf_createFile hwrite
  rw [Path.normalize_eq_iff] at hq
  unfold Tree.contentOf Tree.resolve at hread ⊢
  rw [hq]
  cases hfind : tree'.find? (Path.segments "/" path) with
  | none => rw [hfind] at hread; cases hread
  | some node =>
      rw [hfind] at hread
      cases node with
      | file a text => exact hread
      | directory a children => cases hread

/-- **The tree is a finite map from canonical paths to nodes.** Files and directories can be made
exactly where the directory around them is there and nothing of the other kind is in the way. What
is made is under every spelling of its path, every other path leads to what it led to, and what
fails leaves the tree as it was. -/
theorem Reachable.finite_map (h : tree.Reachable) (now : Timestamp) (path content : String) :
    ((∃ tree', tree.createFile now path content = .ok tree') ↔
      Path.normalize "/" path ≠ "/" ∧ tree.isDirectory (Path.parent path) = true ∧
        tree.isDirectory path = false) ∧
    ((∃ tree', tree.createDirectory now path = .ok tree') ↔
      Path.normalize "/" path ≠ "/" ∧ tree.isDirectory (Path.parent path) = true ∧
        ∀ a text, tree.resolve path ≠ some (.file a text)) ∧
    (∀ tree', tree.createFile now path content = .ok tree' →
      tree.Gains path (.written (tree.resolve path) now content) tree' ∧
        ∀ q, Path.normalize "/" q = Path.normalize "/" path → tree'.contentOf q = .ok content) ∧
    (∀ tree', tree.createDirectory now path = .ok tree' →
      if tree.isDirectory path then tree' = tree
      else tree.Gains path ((newDirectory now).owned "user" "user") tree') ∧
    ∀ (s : Store) (asked : String) (e : TreeError), s.tree = tree →
      (tree.createFile now path content = .error e →
        (s.createFile now path content).2 = s) ∧
      (tree.createDirectory now path = .error e →
        (s.createDirectory now asked path).2 = s) := by
  refine ⟨exists_createFile_iff_isDirectory tree now path content,
    exists_createDirectory_iff tree now path, fun tree' hwrite => ⟨?_, fun q hq => ?_⟩,
    fun tree' hwrite => ?_, fun s asked e hs => ⟨fun hwrite => ?_, fun hwrite => ?_⟩⟩
  · exact gains_createFile h.wellFormed hwrite
  · exact contentOf_createFile_of_spelling hwrite hq
  · exact gains_createDirectory h.wellFormed hwrite
  · unfold Store.createFile
    rw [hs, hwrite]
  · unfold Store.createDirectory
    rw [hs, hwrite]

/-- A new file is read under another spelling of its path. -/
theorem finite_map_detour : (Seed.tree ⟨0⟩).Reachable ∧
    ∃ tree', (Seed.tree ⟨0⟩).createFile ⟨1⟩ "/tmp//../opt/./plan" "dig" = .ok tree' ∧
      tree'.contentOf "opt/retro/../plan" = .ok "dig" := by
  obtain ⟨hfile, -, hwritten, -⟩ :=
    Reachable.finite_map (.seeded ⟨0⟩) ⟨1⟩ "/tmp//../opt/./plan" "dig"
  obtain ⟨tree', hwrite⟩ := hfile.mpr (by decide +kernel)
  exact ⟨.seeded ⟨0⟩, tree', hwrite, (hwritten tree' hwrite).2 _ (by decide +kernel)⟩

end Tree

end PlainTerminal
