import Mathlib.Data.String.Basic
import PlainTerminal.Proofs.Path
import PlainTerminal.Proofs.Tree
import PlainTerminal.Tree.Seed

/-!
# Trees that writes can build

Every tree of the terminal comes of the one that a session starts with, or of an empty one, by
writing files and making directories. `Reachable` is that set of trees, and `WellFormed` is what all
of them have in common: in every directory the children stand in the order of their names, each name
once, and each name is one that a path can end with.

The order is what makes a write local. `Keyed.insert` looks for a name up to the first larger one
only, so in a list out of order it might store a second child under a name that is there already.
-/

namespace PlainTerminal

namespace Keyed

variable {α : Type} {m : Keyed α} {name : String}

/-- An insertion keeps the order. -/
theorem Ordered.insert (h : Ordered m) (value : α) : Ordered (m.insert name value) := by
  induction m with
  | nil => exact List.pairwise_singleton _ _
  | cons e rest ih =>
      obtain ⟨k, v⟩ := e
      obtain ⟨hhead, hrest⟩ := List.pairwise_cons.mp h
      by_cases hk : k = name
      · -- the value is replaced in its place
        subst hk
        rw [Keyed.insert, if_pos rfl]
        exact List.pairwise_cons.mpr ⟨hhead, hrest⟩
      · by_cases hlt : k < name
        · rw [Keyed.insert, if_neg hk, if_pos hlt]
          refine List.pairwise_cons.mpr ⟨fun e he => ?_, ih hrest⟩
          rcases mem_insert he with rfl | hmem
          · exact hlt
          · exact hhead e hmem
        · rw [Keyed.insert, if_neg hk, if_neg hlt]
          have hfirst : name < k := by
            rcases lt_trichotomy k name with hlt' | heq | hgt
            · exact absurd hlt' hlt
            · exact absurd heq hk
            · exact hgt
          refine List.pairwise_cons.mpr ⟨fun e he => ?_, h⟩
          rcases List.mem_cons.mp he with rfl | hmem
          · exact hfirst
          · exact String.lt_trans hfirst (hhead e hmem)

/-- To store something that looks like what was there changes no look of the whole. -/
theorem Ordered.map_insert {β : Type} (h : Ordered m) {old new : α} (f : String × α → β)
    (hold : m.find? name = some old) (hlook : f (name, new) = f (name, old)) :
    (m.insert name new).map f = m.map f := by
  induction m with
  | nil => cases hold
  | cons e rest ih =>
      obtain ⟨k, v⟩ := e
      obtain ⟨hhead, hrest⟩ := List.pairwise_cons.mp h
      by_cases hk : k = name
      · subst hk
        rw [Keyed.find?, if_pos rfl] at hold
        obtain rfl : v = old := Option.some.inj hold
        rw [Keyed.insert, if_pos rfl, List.map_cons, List.map_cons, hlook]
      · rw [Keyed.find?, if_neg hk] at hold
        -- what is found further on has a larger name, so the search goes on
        have hlt : k < name := hhead _ (mem_of_find? hold)
        rw [Keyed.insert, if_neg hk, if_pos hlt, List.map_cons, List.map_cons, ih hrest hold]

end Keyed

namespace Node

/-- In every directory the children are in order, under names that a path can end with. -/
inductive WellFormed : Node → Prop where
  | file (a : Attributes) (content : String) : WellFormed (.file a content)
  | directory {a : Attributes} {children : Keyed Node} :
      Keyed.Ordered children → (∀ e ∈ children, Path.IsSegment e.1) →
      (∀ e ∈ children, WellFormed e.2) → WellFormed (.directory a children)

variable {node found : Node}

theorem WellFormed.ordered {a : Attributes} {children : Keyed Node}
    (h : WellFormed (.directory a children)) : Keyed.Ordered children := by
  cases h with
  | directory hordered _ _ => exact hordered

theorem WellFormed.child {a : Attributes} {children : Keyed Node} {name : String}
    (h : WellFormed (.directory a children)) (hfind : Keyed.find? children name = some found) :
    found.WellFormed := by
  cases h with
  | directory _ _ hnodes => exact hnodes _ (Keyed.mem_of_find? hfind)

/-- What a walk finds is well formed. -/
theorem WellFormed.find? {segments : List String} (h : node.WellFormed)
    (hfind : node.find? segments = some found) : found.WellFormed := by
  induction segments generalizing node with
  | nil =>
      obtain rfl : node = found := Option.some.inj hfind
      exact h
  | cons x rest ih =>
      cases node with
      | file a content => cases hfind
      | directory a children =>
          rw [find?_directory_cons] at hfind
          obtain ⟨next, hnext, hrest⟩ := Option.bind_eq_some_iff.mp hfind
          exact ih (h.child hnext) hrest

theorem WellFormed.insert {a : Attributes} {children : Keyed Node} {name : String}
    (h : WellFormed (.directory a children)) (hname : Path.IsSegment name)
    (hnode : node.WellFormed) :
    WellFormed (.directory a (Keyed.insert children name node)) := by
  cases h with
  | directory hordered hnames hnodes =>
      refine .directory (hordered.insert node) (fun e he => ?_) fun e he => ?_
      · rcases Keyed.mem_insert he with rfl | hmem
        · exact hname
        · exact hnames e hmem
      · rcases Keyed.mem_insert he with rfl | hmem
        · exact hnode
        · exact hnodes e hmem

@[simp] theorem wellFormed_mapAttributes_iff (f : Attributes → Attributes) :
    (node.mapAttributes f).WellFormed ↔ node.WellFormed := by
  cases node with
  | file a content => exact iff_of_true (.file _ _) (.file _ _)
  | directory a children =>
      constructor
      · intro h
        cases h with
        | directory hordered hnames hnodes => exact .directory hordered hnames hnodes
      · intro h
        cases h with
        | directory hordered hnames hnodes => exact .directory hordered hnames hnodes

@[simp] theorem wellFormed_owned_iff (owner group : String) :
    (node.owned owner group).WellFormed ↔ node.WellFormed := wellFormed_mapAttributes_iff _

@[simp] theorem wellFormed_permitted_iff (permissions : String) :
    (node.permitted permissions).WellFormed ↔ node.WellFormed := wellFormed_mapAttributes_iff _

@[simp] theorem wellFormed_newFile (now : Timestamp) (content : String) :
    (newFile now content).WellFormed := .file _ _

@[simp] theorem wellFormed_newDirectory (now : Timestamp) : (newDirectory now).WellFormed :=
  .directory List.Pairwise.nil (by simp) (by simp)

theorem WellFormed.withChildren {more : List (String × Node)} (h : node.WellFormed)
    (hmore : ∀ e ∈ more, Path.IsSegment e.1 ∧ e.2.WellFormed) :
    (node.withChildren more).WellFormed := by
  cases node with
  | file a content => exact h
  | directory a children =>
      unfold Node.withChildren
      dsimp only
      induction more generalizing children with
      | nil => exact h
      | cons e rest ih =>
          obtain ⟨⟨hname, hnode⟩, hrest⟩ := List.forall_mem_cons.mp hmore
          exact ih hrest (Keyed.insert children e.1 e.2) (h.insert hname hnode)

/-- A well-formed node at the end of a walk leaves the tree well formed. -/
theorem WellFormed.put {segments : List String} {new : Node} (h : node.WellFormed)
    (hsegments : ∀ s ∈ segments, Path.IsSegment s) (hnew : new.WellFormed) :
    (put segments node new).WellFormed := by
  induction segments generalizing node with
  | nil => exact hnew
  | cons x rest ih =>
      obtain ⟨hx, hrest⟩ := List.forall_mem_cons.mp hsegments
      cases node with
      | file a content => exact h
      | directory a children =>
          cases rest with
          | nil => exact h.insert hx hnew
          | cons y rest =>
              cases hchild : Keyed.find? children x with
              | none => simpa only [Node.put, hchild] using h
              | some child =>
                  have hput := ih (h.child hchild) hrest
                  simpa only [Node.put, hchild] using h.insert hx hput

theorem wellFormed_written (old : Option Node) (now : Timestamp) (content : String) :
    (written old now content).WellFormed := by
  unfold written
  split
  · exact .file _ _
  · exact .file _ _

end Node

namespace Tree

open Node

/-- The trees that come of the first ones by writing files and making directories. -/
inductive Reachable : Tree → Prop where
  | seeded (now : Timestamp) : Reachable (Seed.tree now)
  | empty (now : Timestamp) : Reachable (Tree.empty now)
  | createFile {tree tree' : Tree} {now : Timestamp} {path content : String} :
      Reachable tree → tree.createFile now path content = .ok tree' → Reachable tree'
  | createDirectory {tree tree' : Tree} {now : Timestamp} {path : String} :
      Reachable tree → tree.createDirectory now path = .ok tree' → Reachable tree'

instance (s : String) : Decidable (Path.IsSegment s) :=
  inferInstanceAs (Decidable (_ ∧ _ ∧ _ ∧ _))

theorem wellFormed_gamesTree (now : Timestamp) : (Challenge.gamesTree now).WellFormed := by
  have hdirectory : ∀ children : List (String × Node),
      (∀ e ∈ children, Path.IsSegment e.1 ∧ e.2.WellFormed) →
        (Challenge.gameDirectory now children).WellFormed :=
    fun children h => WellFormed.withChildren (by simp) h
  refine hdirectory _ ?_
  -- the files are plain to see, the three directories are left
  simp +decide only [Challenge.gameFile, List.mem_cons, List.not_mem_nil, or_false,
    forall_eq_or_imp, wellFormed_permitted_iff, wellFormed_owned_iff, wellFormed_newFile, and_self,
    true_and, forall_eq, and_true]
  refine ⟨hdirectory _ ?_, hdirectory _ ?_, hdirectory _ ?_⟩
  · simp +decide
  · simp +decide
  · simp +decide

theorem wellFormed_home (now : Timestamp) : (Seed.home now).WellFormed := by
  have hdirectory : ∀ children : List (String × Node),
      (∀ e ∈ children, Path.IsSegment e.1 ∧ e.2.WellFormed) →
        (Seed.userDirectory now children).WellFormed :=
    fun children h => WellFormed.withChildren (by simp) h
  refine hdirectory _ ?_
  simp +decide only [Seed.userFile, List.mem_cons, List.not_mem_nil, or_false, forall_eq_or_imp,
    wellFormed_owned_iff, wellFormed_newFile, and_self, true_and, forall_eq,
    wellFormed_permitted_iff, and_true]
  refine hdirectory _ ?_
  simp +decide

theorem wellFormed_retro (now : Timestamp) : (Seed.retro now).WellFormed := by
  unfold Seed.retro
  refine WellFormed.withChildren (by simp) ?_
  simp +decide

theorem wellFormed_seed (now : Timestamp) : (Seed.tree now).WellFormed := by
  have hdirectory : ∀ children : List (String × Node),
      (∀ e ∈ children, Path.IsSegment e.1 ∧ e.2.WellFormed) →
        (Seed.systemDirectory now children).WellFormed :=
    fun children h => WellFormed.withChildren (by simp) h
  refine hdirectory _ ?_
  simp +decide only [List.mem_cons, List.not_mem_nil, or_false, forall_eq_or_imp, true_and,
    forall_eq]
  refine ⟨hdirectory _ ?_, hdirectory _ ?_, hdirectory _ ?_, hdirectory _ ?_,
    WellFormed.withChildren (by simp) ?_⟩
  · simp +decide [wellFormed_home]
  · simp +decide [wellFormed_gamesTree]
  · simp +decide [wellFormed_retro]
  · simp +decide
  · simp +decide [Seed.userFile]

end Tree

/-! ## Writes -/

namespace Node.WellFormed

variable {tree tree' : Tree} {now : Timestamp} {path content : String}

/-- The segments of a path can be names. -/
theorem put_segments (h : tree.WellFormed) (path : String) {new : Node} (hnew : new.WellFormed) :
    (Node.put (Path.segments "/" path) tree new).WellFormed :=
  h.put (fun _ => Path.isSegment_of_mem_segments) hnew

theorem createFile (h : tree.WellFormed)
    (hwrite : tree.createFile now path content = .ok tree') : tree'.WellFormed := by
  obtain ⟨above, name, a, children, hsegs, -, -, rfl⟩ := Tree.createFile_eq_ok_iff.mp hwrite
  rw [← hsegs]
  exact h.put_segments path (wellFormed_written _ _ _)

theorem createDirectory (h : tree.WellFormed)
    (hwrite : tree.createDirectory now path = .ok tree') : tree'.WellFormed := by
  obtain ⟨above, name, a, children, hsegs, -, hcases⟩ := Tree.createDirectory_eq_ok_iff.mp hwrite
  rcases hcases with ⟨b, c, -, rfl⟩ | ⟨-, rfl⟩
  · -- the directory was there
    exact h
  · rw [← hsegs]
    exact h.put_segments path (by simp)

end Node.WellFormed

/-- **Every tree that writes can build is well formed.** -/
theorem Tree.Reachable.wellFormed {tree : Tree} (h : tree.Reachable) : tree.WellFormed := by
  induction h with
  | seeded now => exact wellFormed_seed now
  | empty now => exact Node.wellFormed_newDirectory now
  | createFile _ hwrite ih => exact ih.createFile hwrite
  | createDirectory _ hwrite ih => exact ih.createDirectory hwrite

end PlainTerminal
