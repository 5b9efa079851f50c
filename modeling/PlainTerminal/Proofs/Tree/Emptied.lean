import PlainTerminal.Proofs.Tree
import PlainTerminal.Tree.Listing

/-!
# A directory seen from outside

`emptiedAt` takes out of a tree what is in one of its directories. Whoever looks at the tree
anywhere but below that directory cannot tell: the walk there finds a node with the same attributes
and the same text, and directories show the same names with the same listing lines. Neither can a
write tell, as long as it goes elsewhere: to write and then to empty the directory is to empty it
and then to write.
-/

namespace PlainTerminal

namespace Keyed

variable {α : Type}

/-- Changes what is stored under a name. -/
def modify (m : Keyed α) (name : String) (f : α → α) : Keyed α :=
  m.map fun e => if e.1 = name then (e.1, f e.2) else e

theorem modify_cons (k : String) (v : α) (rest : Keyed α) (name : String) (f : α → α) :
    modify ((k, v) :: rest) name f
      = (if k = name then (k, f v) else (k, v)) :: modify rest name f := rfl

theorem find?_modify (m : Keyed α) (name other : String) (f : α → α) :
    (m.modify name f).find? other
      = if other = name then (m.find? other).map f else m.find? other := by
  induction m with
  | nil => cases Decidable.em (other = name) <;> simp [modify, find?, *]
  | cons e rest ih =>
      obtain ⟨k, v⟩ := e
      rw [modify_cons]
      by_cases hk : k = name
      · subst hk
        by_cases ho : k = other
        · subst ho
          simp [find?]
        · have hne : ¬ other = k := fun h => ho h.symm
          simp only [if_true, find?, if_neg ho, ih, if_neg hne]
      · by_cases ho : k = other
        · subst ho
          simp [find?, hk]
        · simp only [if_neg hk, find?, if_neg ho, ih]

theorem modify_modify (m : Keyed α) (name : String) (f g : α → α) :
    (m.modify name f).modify name g = m.modify name fun value => g (f value) := by
  induction m with
  | nil => rfl
  | cons e rest ih =>
      obtain ⟨k, v⟩ := e
      rw [modify_cons, modify_cons, modify_cons, ih]
      by_cases hk : k = name
      · simp [hk]
      · simp [hk]

/-- To change an entry and to insert another one can be done in either order. -/
theorem insert_modify (m : Keyed α) (name key : String) (f : α → α) (value : α) :
    (m.modify name f).insert key (if key = name then f value else value)
      = (m.insert key value).modify name f := by
  induction m with
  | nil =>
      by_cases h : key = name
      · simp [modify, insert, h]
      · simp [modify, insert, h]
  | cons e rest ih =>
      obtain ⟨k, v⟩ := e
      rw [modify_cons]
      by_cases hk : k = key
      · -- the entry that is replaced
        subst hk
        by_cases hkn : k = name
        · simp [insert, modify, hkn]
        · simp [insert, modify, hkn]
      · by_cases hlt : k < key
        · by_cases hkn : k = name
          · subst hkn
            simp only [if_true, insert, if_neg hk, if_pos hlt, ih, modify_cons]
          · simp only [if_neg hkn, insert, if_neg hk, if_pos hlt, ih, modify_cons]
        · by_cases hkn : k = name
          · subst hkn
            have hne : ¬ key = k := fun h => hk h.symm
            simp only [if_true, insert, if_neg hk, if_neg hlt, if_neg hne, modify_cons]
          · by_cases hkey : key = name
            · simp only [if_neg hkn, if_pos hkey, insert, if_neg hk, if_neg hlt, modify_cons]
            · simp only [if_neg hkn, if_neg hkey, insert, if_neg hk, if_neg hlt, modify_cons]

end Keyed

namespace Node

/-- The tree with nothing in the directory at the end of a walk. -/
def emptiedAt : List String → Node → Node
  | _, file a content => file a content
  | [], directory a _ => directory a []
  | name :: rest, directory a children =>
    directory a (Keyed.modify children name (emptiedAt rest))

/-- A node without what is in it. -/
def bare (node : Node) : Node := node.emptiedAt []

@[simp] theorem emptiedAt_file (p : List String) (a : Attributes) (content : String) :
    emptiedAt p (file a content) = file a content := by
  cases p <;> rfl

theorem emptiedAt_directory (name : String) (rest : List String) (a : Attributes)
    (children : Keyed Node) :
    emptiedAt (name :: rest) (directory a children)
      = directory a (Keyed.modify children name (emptiedAt rest)) := rfl

@[simp] theorem bare_emptiedAt (p : List String) (node : Node) :
    (node.emptiedAt p).bare = node.bare := by
  cases node with
  | file a content => rw [emptiedAt_file]
  | directory a children => cases p <;> rfl

/-- What has been emptied is empty. -/
theorem emptiedAt_emptiedAt (p : List String) (node : Node) :
    (node.emptiedAt p).emptiedAt p = node.emptiedAt p := by
  induction p generalizing node with
  | nil => exact bare_emptiedAt [] node
  | cons x p ih =>
      cases node with
      | file a content => rw [emptiedAt_file, emptiedAt_file]
      | directory a children =>
          rw [emptiedAt_directory, emptiedAt_directory, Keyed.modify_modify]
          simp only [ih]

/-! ## Walks that end elsewhere -/

/-- A walk that ends on the way to the directory finds what is to be emptied further on. -/
theorem find?_emptiedAt_append (node : Node) (q rest : List String) :
    (node.emptiedAt (q ++ rest)).find? q = (node.find? q).map (emptiedAt rest) := by
  induction q generalizing node with
  | nil => rfl
  | cons x q ih =>
      cases node with
      | file a content => rfl
      | directory a children =>
          rw [List.cons_append, emptiedAt_directory, find?_directory_cons, find?_directory_cons,
            Keyed.find?_modify, if_pos rfl]
          cases Keyed.find? children x with
          | none => rfl
          | some child => exact ih child

/-- A walk that leaves the way to the directory finds what was there. -/
theorem find?_emptiedAt_of_apart {p q : List String} (hpq : ¬ p <+: q) (hqp : ¬ q <+: p)
    (node : Node) : (node.emptiedAt p).find? q = node.find? q := by
  induction q generalizing p node with
  | nil => exact absurd List.nil_prefix hqp
  | cons y q ih =>
      cases p with
      | nil => exact absurd List.nil_prefix hpq
      | cons x p =>
          cases node with
          | file a content => rfl
          | directory a children =>
              rw [emptiedAt_directory, find?_directory_cons, find?_directory_cons,
                Keyed.find?_modify]
              by_cases hxy : y = x
              · subst hxy
                rw [if_pos rfl]
                cases Keyed.find? children y with
                | none => rfl
                | some child =>
                    refine ih (fun h => hpq ?_) (fun h => hqp ?_) child
                    · exact (List.prefix_cons_inj y).mpr h
                    · exact (List.prefix_cons_inj y).mpr h
              · rw [if_neg hxy]

/-- Outside the directory every walk finds the same node, what is in it aside. -/
theorem bare_find?_emptiedAt {p q : List String} (h : ¬ p <+: q) (node : Node) :
    ((node.emptiedAt p).find? q).map bare = (node.find? q).map bare := by
  by_cases hqp : q <+: p
  · obtain ⟨rest, rfl⟩ := hqp
    rw [find?_emptiedAt_append, Option.map_map]
    congr 1
    funext child
    exact bare_emptiedAt rest child
  · rw [find?_emptiedAt_of_apart h hqp]

/-- A child of a directory as a listing shows it. -/
def shape (e : String × Node) : String × Node := (e.1, e.2.bare)

theorem map_shape_modify (children : Keyed Node) (name : String) (rest : List String) :
    (Keyed.modify children name (emptiedAt rest)).map shape = children.map shape := by
  rw [Keyed.modify, List.map_map]
  refine List.map_congr_left fun e _ => ?_
  rw [Function.comp_apply]
  split
  · rw [shape, shape, bare_emptiedAt]
  · rfl

/-- What a walk that ends outside the directory finds: nothing, the same file, or a directory with
the same children to be seen. -/
theorem find?_emptiedAt_cases {p q : List String} (h : ¬ p <+: q) (node : Node) :
    (node.find? q = none ∧ (node.emptiedAt p).find? q = none) ∨
    (∃ a content, node.find? q = some (file a content) ∧
      (node.emptiedAt p).find? q = some (file a content)) ∨
    (∃ a children children', node.find? q = some (directory a children) ∧
      (node.emptiedAt p).find? q = some (directory a children') ∧
      children'.map shape = children.map shape) := by
  by_cases hqp : q <+: p
  · obtain ⟨rest, rfl⟩ := hqp
    rw [find?_emptiedAt_append]
    cases hfind : node.find? q with
    | none => exact Or.inl ⟨rfl, rfl⟩
    | some found =>
        cases found with
        | file a content => exact Or.inr (Or.inl ⟨a, content, rfl, by simp⟩)
        | directory a children =>
            cases rest with
            | nil => exact absurd (by simp) h
            | cons name rest =>
                exact Or.inr (Or.inr ⟨a, children, _, rfl, rfl, map_shape_modify _ _ _⟩)
  · rw [find?_emptiedAt_of_apart h hqp]
    cases hfind : node.find? q with
    | none => exact Or.inl ⟨rfl, rfl⟩
    | some found =>
        cases found with
        | file a content => exact Or.inr (Or.inl ⟨a, content, rfl, rfl⟩)
        | directory a children => exact Or.inr (Or.inr ⟨a, children, children, rfl, rfl, rfl⟩)

/-! ## Writes that go elsewhere -/

/-- What is put elsewhere is put in the same way, if nothing is in it that could be emptied. -/
theorem put_emptiedAt {p q : List String} (h : ¬ p <+: q) {new : Node}
    (hnew : ∀ rest, rest ≠ [] → new.emptiedAt rest = new) (node : Node) :
    put q (node.emptiedAt p) new = (put q node new).emptiedAt p := by
  induction q generalizing p node with
  | nil =>
      have hp : p ≠ [] := by
        rintro rfl
        exact h List.nil_prefix
      exact (hnew p hp).symm
  | cons y q ih =>
      cases p with
      | nil => exact absurd List.nil_prefix h
      | cons x p =>
          cases node with
          | file a content => rfl
          | directory a children =>
              have hbelow : y = x → ¬ p <+: q := by
                rintro rfl hpq
                exact h ((List.prefix_cons_inj y).mpr hpq)
              rw [emptiedAt_directory]
              cases q with
              | nil =>
                  -- the new node is a child of this directory
                  have hvalue : (if y = x then emptiedAt p new else new) = new := by
                    split
                    · rename_i hyx
                      refine hnew p ?_
                      rintro rfl
                      exact hbelow hyx List.nil_prefix
                    · rfl
                  have hinsert := Keyed.insert_modify children x y (emptiedAt p) new
                  rw [hvalue] at hinsert
                  simp only [put, emptiedAt_directory, hinsert]
              | cons z q =>
                  simp only [put, Keyed.find?_modify]
                  cases hchild : Keyed.find? children y with
                  | none => simp [emptiedAt_directory]
                  | some child =>
                      by_cases hyx : y = x
                      · subst hyx
                        have hput := ih (hbelow rfl) child
                        rw [if_pos rfl, Option.map_some]
                        dsimp only
                        rw [emptiedAt_directory, hput, ← Keyed.insert_modify, if_pos rfl]
                      · rw [if_neg hyx]
                        dsimp only
                        rw [emptiedAt_directory, ← Keyed.insert_modify, if_neg hyx]

end Node

namespace Tree

open Node

variable {tree : Tree} {p : List String} {path : String}

theorem isDirectory_emptiedAt (h : ¬ p <+: Path.segments "/" path) (tree : Tree) :
    Tree.isDirectory (tree.emptiedAt p) path = tree.isDirectory path := by
  unfold Tree.isDirectory Tree.resolve
  rcases find?_emptiedAt_cases h tree with ⟨h₁, h₂⟩ | ⟨a, content, h₁, h₂⟩ | ⟨a, c, c', h₁, h₂, -⟩
  · rw [h₁, h₂]
  · rw [h₁, h₂]
  · rw [h₁, h₂]
    rfl

theorem contentOf_emptiedAt (h : ¬ p <+: Path.segments "/" path) (tree : Tree) :
    Tree.contentOf (tree.emptiedAt p) path = tree.contentOf path := by
  unfold Tree.contentOf Tree.resolve
  rcases find?_emptiedAt_cases h tree with ⟨h₁, h₂⟩ | ⟨a, content, h₁, h₂⟩ | ⟨a, c, c', h₁, h₂, -⟩
  · rw [h₁, h₂]
  · rw [h₁, h₂]
  · rw [h₁, h₂]

theorem filter_shape {entries entries' : List (String × Node)}
    (h : entries'.map shape = entries.map shape) (keep : String → Bool) :
    (entries'.filter fun e => keep e.1).map shape
      = (entries.filter fun e => keep e.1).map shape := by
  have hfilter : ∀ es : List (String × Node),
      (es.filter fun e => keep e.1).map shape = (es.map shape).filter fun e => keep e.1 := by
    intro es
    rw [List.filter_map]
    rfl
  rw [hfilter, hfilter, h]

/-- A directory elsewhere shows the same entries. -/
theorem entries_emptiedAt (h : ¬ p <+: Path.segments "/" path) (tree : Tree)
    (showHidden : Bool) :
    (Tree.entries (tree.emptiedAt p) path showHidden).map (List.map shape)
      = (tree.entries path showHidden).map (List.map shape) := by
  unfold Tree.entries Tree.resolve
  rcases find?_emptiedAt_cases h tree with
    ⟨h₁, h₂⟩ | ⟨a, content, h₁, h₂⟩ | ⟨a, c, c', h₁, h₂, hshape⟩
  · rw [h₁, h₂]
  · rw [h₁, h₂]
  · rw [h₁, h₂]
    exact congrArg Except.ok (filter_shape hshape fun name => showHidden || !isHidden name)

/-! ## The place of a write -/

/-- Where a path leads for a write: its segments, and what is there now. -/
def slotOf (tree : Tree) (path : String) : Except TreeError (List String × Option Node) :=
  (tree.parentOf path).map fun (above, name, children) =>
    (above ++ [name], (Keyed.find? children name).map bare)

theorem slotOf_emptiedAt (h : ¬ p <+: Path.segments "/" path) :
    slotOf (tree.emptiedAt p) path = slotOf tree path := by
  unfold slotOf Tree.parentOf
  dsimp only
  rcases List.eq_nil_or_concat (Path.segments "/" path) with hnil | ⟨above, name, hsegs⟩
  · rw [hnil]
    rfl
  · rw [List.concat_eq_append] at hsegs
    rw [hsegs] at h ⊢
    rw [List.getLast?_concat, List.dropLast_concat]
    dsimp only
    have habove : ¬ p <+: above := fun hp => h (hp.trans (List.prefix_append above [name]))
    have hname := bare_find?_emptiedAt h tree
    rcases find?_emptiedAt_cases habove tree with
      ⟨h₁, h₂⟩ | ⟨a, content, h₁, h₂⟩ | ⟨a, c, c', h₁, h₂, -⟩
    · rw [h₁, h₂]
    · rw [h₁, h₂]
    · have h₁' : tree.find? (above ++ [name]) = Keyed.find? c name := find?_child h₁
      have h₂' : (tree.emptiedAt p).find? (above ++ [name]) = Keyed.find? c' name := find?_child h₂
      rw [h₁', h₂'] at hname
      rw [h₁, h₂]
      simp only [Except.map, hname]

/-- A file is written by what is at its place, and by nothing else of the tree. -/
theorem createFile_eq (tree : Tree) (now : Timestamp) (path content : String) :
    tree.createFile now path content = (do
      match ← tree.slotOf path with
      | (_, some (.directory _ _)) => .error (.isADirectory path)
      | (place, some (.file a _)) =>
        return tree.put place (.file { a with modified := now } content)
      | (place, none) => return tree.put place ((newFile now content).owned "user" "user")) := by
  unfold Tree.createFile slotOf
  cases tree.parentOf path with
  | error e => rfl
  | ok found =>
      obtain ⟨above, name, children⟩ := found
      simp only [bind, Except.bind, Except.map]
      cases Keyed.find? children name with
      | none => rfl
      | some node => cases node <;> rfl

theorem createDirectory_eq (tree : Tree) (now : Timestamp) (path : String) :
    tree.createDirectory now path = (do
      match ← tree.slotOf path with
      | (_, some (.directory _ _)) => return tree
      | (_, some (.file _ _)) => .error (.notADirectory path)
      | (place, none) => return tree.put place ((newDirectory now).owned "user" "user")) := by
  unfold Tree.createDirectory slotOf
  cases tree.parentOf path with
  | error e => rfl
  | ok found =>
      obtain ⟨above, name, children⟩ := found
      simp only [bind, Except.bind, Except.map]
      cases Keyed.find? children name with
      | none => rfl
      | some node => cases node <;> rfl

/-- The place of a write is the path's own. -/
theorem place_of_slotOf {place : List String} {old : Option Node}
    (h : tree.slotOf path = .ok (place, old)) : place = Path.segments "/" path := by
  unfold slotOf at h
  cases hparent : tree.parentOf path with
  | error e => rw [hparent] at h; cases h
  | ok found =>
      obtain ⟨above, name, children⟩ := found
      rw [hparent] at h
      cases h
      exact (parentOf_eq_ok_iff.mp hparent).1.symm

/-- **To write a file and then to empty a directory elsewhere is to do it the other way round.** -/
theorem createFile_emptiedAt (h : ¬ p <+: Path.segments "/" path) (now : Timestamp)
    (content : String) :
    Tree.createFile (tree.emptiedAt p) now path content
      = (tree.createFile now path content).map (emptiedAt p) := by
  rw [createFile_eq, createFile_eq, slotOf_emptiedAt h]
  cases hslot : tree.slotOf path with
  | error e => rfl
  | ok slot =>
      obtain ⟨place, old⟩ := slot
      obtain rfl := place_of_slotOf hslot
      simp only [bind, Except.bind]
      cases old with
      | none =>
          refine congrArg Except.ok (put_emptiedAt h (fun rest _ => ?_) tree)
          exact emptiedAt_file rest _ _
      | some node =>
          cases node with
          | file a text =>
              refine congrArg Except.ok (put_emptiedAt h (fun rest _ => ?_) tree)
              exact emptiedAt_file rest _ _
          | directory a children => rfl

/-- **To make a directory and then to empty another one is to do it the other way round.** -/
theorem createDirectory_emptiedAt (h : ¬ p <+: Path.segments "/" path) (now : Timestamp) :
    Tree.createDirectory (tree.emptiedAt p) now path
      = (tree.createDirectory now path).map (emptiedAt p) := by
  rw [createDirectory_eq, createDirectory_eq, slotOf_emptiedAt h]
  cases hslot : tree.slotOf path with
  | error e => rfl
  | ok slot =>
      obtain ⟨place, old⟩ := slot
      obtain rfl := place_of_slotOf hslot
      simp only [bind, Except.bind]
      cases old with
      | none =>
          have hnew : ∀ rest : List String, rest ≠ [] →
              ((newDirectory now).owned "user" "user").emptiedAt rest
                = (newDirectory now).owned "user" "user" := by
            intro rest _
            cases rest <;> rfl
          exact congrArg Except.ok (put_emptiedAt h hnew tree)
      | some node => cases node <;> rfl

end Tree

end PlainTerminal
