import PlainTerminal.Proofs.Challenge.Progress
import PlainTerminal.Proofs.Challenge.Writes
import PlainTerminal.Proofs.Tree.Emptied

/-!
# The lock seen from outside

One directory of the challenge is locked. Two trees that are the same but for what is in it show
the same at every place outside: the same files, the same listings, and a write to such a place
takes both to trees that are again the same but for the locked directory.
-/

namespace PlainTerminal

namespace Challenge

/-- The segments of the locked directory. -/
def lockedSegments : List String := ["var", "games", "level2"]

theorem lockedDirectory_eq_render : lockedDirectory = Path.render lockedSegments := by
  decide +kernel

theorem lockedSegments_isSegment : ∀ s ∈ lockedSegments, Path.IsSegment s := by
  unfold lockedSegments Path.IsSegment
  decide +kernel

/-- A canonical path lies behind the lock if its segments say so. -/
theorem isLocked_iff {place : String} (h : Path.IsCanonical place) :
    isLocked place = true ↔ lockedSegments <+: Path.segments "/" place := by
  rw [isLocked, lockedDirectory_eq_render]
  exact h.isWithin_iff (by decide) lockedSegments_isSegment

/-- The place is in the locked directory, and not that directory itself. -/
def hides (place : String) : Bool := isLocked place && place != lockedDirectory

theorem segments_lockedDirectory : Path.segments "/" lockedDirectory = lockedSegments := by
  rw [lockedDirectory_eq_render, Path.segments_render "/" lockedSegments_isSegment]

end Challenge

namespace Tree

open Challenge Node

/-- The trees are the same but for what is in the locked directory. -/
def AlikeOutside (tree tree' : Tree) : Prop :=
  tree.emptiedAt lockedSegments = tree'.emptiedAt lockedSegments

variable {tree tree' : Tree} {place : String}

theorem not_prefix_of_not_isLocked (hplace : Path.IsCanonical place)
    (hout : isLocked place = false) : ¬ lockedSegments <+: Path.segments "/" place := by
  rw [← isLocked_iff hplace, hout]
  decide

theorem AlikeOutside.isDirectory (h : tree.AlikeOutside tree') (hplace : Path.IsCanonical place)
    (hout : isLocked place = false) : tree.isDirectory place = tree'.isDirectory place := by
  have hseg := not_prefix_of_not_isLocked hplace hout
  rw [← isDirectory_emptiedAt hseg tree, ← isDirectory_emptiedAt hseg tree', h]

/-- The locked directory itself can be looked at as long as nobody looks into it. -/
theorem contentOf_emptiedAt_self (tree : Tree) :
    Tree.contentOf (tree.emptiedAt lockedSegments) lockedDirectory
      = tree.contentOf lockedDirectory := by
  have hfind := find?_emptiedAt_append tree lockedSegments []
  rw [List.append_nil] at hfind
  unfold Tree.contentOf Tree.resolve
  rw [segments_lockedDirectory, hfind]
  cases tree.find? lockedSegments with
  | none => rfl
  | some node => cases node <;> rfl

theorem AlikeOutside.contentOf (h : tree.AlikeOutside tree') (hplace : Path.IsCanonical place)
    (hout : hides place = false) : tree.contentOf place = tree'.contentOf place := by
  unfold hides at hout
  by_cases hself : place = lockedDirectory
  · subst hself
    rw [← contentOf_emptiedAt_self, h, contentOf_emptiedAt_self]
  · have hlocked : isLocked place = false := by simpa [hself] using hout
    have hseg := not_prefix_of_not_isLocked hplace hlocked
    rw [← contentOf_emptiedAt hseg tree, ← contentOf_emptiedAt hseg tree', h]

/-- A place outside holds nothing in both trees, or the same file, or directories that show the
same. -/
theorem AlikeOutside.resolve_cases (h : tree.AlikeOutside tree')
    (hplace : Path.IsCanonical place) (hout : isLocked place = false) :
    (tree.resolve place = none ∧ tree'.resolve place = none) ∨
    (∃ a content, tree.resolve place = some (file a content) ∧
      tree'.resolve place = some (file a content)) ∨
    (∃ a children children', tree.resolve place = some (directory a children) ∧
      tree'.resolve place = some (directory a children') ∧
      children.map shape = children'.map shape) := by
  have hseg := not_prefix_of_not_isLocked hplace hout
  unfold Tree.resolve
  -- both are compared with the tree in which the directory is empty
  have hsame : (tree.emptiedAt lockedSegments).find? (Path.segments "/" place)
      = (tree'.emptiedAt lockedSegments).find? (Path.segments "/" place) := by rw [h]
  rcases find?_emptiedAt_cases hseg tree with
    ⟨h₁, he₁⟩ | ⟨a₁, content₁, h₁, he₁⟩ | ⟨a₁, c₁, e₁, h₁, he₁, hs₁⟩
  · rcases find?_emptiedAt_cases hseg tree' with
      ⟨h₂, he₂⟩ | ⟨a₂, content₂, h₂, he₂⟩ | ⟨a₂, c₂, e₂, h₂, he₂, hs₂⟩
    · exact Or.inl ⟨h₁, h₂⟩
    · rw [he₁, he₂] at hsame; cases hsame
    · rw [he₁, he₂] at hsame; cases hsame
  · rcases find?_emptiedAt_cases hseg tree' with
      ⟨h₂, he₂⟩ | ⟨a₂, content₂, h₂, he₂⟩ | ⟨a₂, c₂, e₂, h₂, he₂, hs₂⟩
    · rw [he₁, he₂] at hsame; cases hsame
    · rw [he₁, he₂] at hsame
      cases hsame
      exact Or.inr (Or.inl ⟨a₁, content₁, h₁, h₂⟩)
    · rw [he₁, he₂] at hsame; cases hsame
  · rcases find?_emptiedAt_cases hseg tree' with
      ⟨h₂, he₂⟩ | ⟨a₂, content₂, h₂, he₂⟩ | ⟨a₂, c₂, e₂, h₂, he₂, hs₂⟩
    · rw [he₁, he₂] at hsame; cases hsame
    · rw [he₁, he₂] at hsame; cases hsame
    · rw [he₁, he₂] at hsame
      cases hsame
      exact Or.inr (Or.inr ⟨a₁, c₁, c₂, h₁, h₂, hs₁.symm.trans hs₂⟩)

theorem AlikeOutside.entries (h : tree.AlikeOutside tree') (hplace : Path.IsCanonical place)
    (hout : isLocked place = false) (showHidden : Bool) :
    (tree.entries place showHidden).map (List.map shape)
      = (tree'.entries place showHidden).map (List.map shape) := by
  have hseg := not_prefix_of_not_isLocked hplace hout
  rw [← entries_emptiedAt hseg tree, ← entries_emptiedAt hseg tree', h]

/-- What a write outside comes to in two trees: the same failure, or trees that are alike again. -/
theorem AlikeOutside.map_createFile (h : tree.AlikeOutside tree') (hplace : Path.IsCanonical place)
    (hout : isLocked place = false) (now : Timestamp) (content : String) :
    (tree.createFile now place content).map (emptiedAt lockedSegments)
      = (tree'.createFile now place content).map (emptiedAt lockedSegments) := by
  have hseg := not_prefix_of_not_isLocked hplace hout
  rw [← createFile_emptiedAt hseg, ← createFile_emptiedAt hseg, h]

theorem AlikeOutside.map_createDirectory (h : tree.AlikeOutside tree')
    (hplace : Path.IsCanonical place) (hout : isLocked place = false) (now : Timestamp) :
    (tree.createDirectory now place).map (emptiedAt lockedSegments)
      = (tree'.createDirectory now place).map (emptiedAt lockedSegments) := by
  have hseg := not_prefix_of_not_isLocked hplace hout
  rw [← createDirectory_emptiedAt hseg, ← createDirectory_emptiedAt hseg, h]

/-- Two results of a write of which the same remains outside. -/
theorem map_emptiedAt_cases {r r' : Except TreeError Tree}
    (h : r.map (emptiedAt lockedSegments) = r'.map (emptiedAt lockedSegments)) :
    (∃ e, r = .error e ∧ r' = .error e) ∨
    (∃ t t', r = .ok t ∧ r' = .ok t' ∧ AlikeOutside t t') := by
  cases r with
  | error e =>
      cases r' with
      | error e' =>
          obtain rfl : e = e' := Except.error.inj h
          exact Or.inl ⟨e, rfl, rfl⟩
      | ok t' => cases h
  | ok t =>
      cases r' with
      | error e' => cases h
      | ok t' => exact Or.inr ⟨t, t', rfl, rfl, Except.ok.inj h⟩

end Tree

/-! ## Listings -/

/-- A listing shows of a node no more than its shape. -/
theorem Listing.ofNode_shape (e : String × Node) :
    Listing.ofNode (Node.shape e).1 (Node.shape e).2 = Listing.ofNode e.1 e.2 := by
  obtain ⟨name, node⟩ := e
  cases node <;> rfl

theorem Listing.map_ofNode_of_shape {entries entries' : List (String × Node)}
    (h : entries.map Node.shape = entries'.map Node.shape) :
    (entries.map fun e => Listing.ofNode e.1 e.2)
      = entries'.map fun e => Listing.ofNode e.1 e.2 := by
  have hshape : ∀ es : List (String × Node), (es.map fun e => Listing.ofNode e.1 e.2)
      = (es.map Node.shape).map fun e => Listing.ofNode e.1 e.2 := by
    intro es
    rw [List.map_map]
    exact List.map_congr_left fun e _ => (Listing.ofNode_shape e).symm
  rw [hshape, h, ← hshape]

theorem map_fst_of_shape {entries entries' : List (String × Node)}
    (h : entries.map Node.shape = entries'.map Node.shape) :
    entries.map Prod.fst = entries'.map Prod.fst := by
  have hshape : ∀ es : List (String × Node), es.map Prod.fst
      = (es.map Node.shape).map Prod.fst := by
    intro es
    rw [List.map_map]
    rfl
  rw [hshape, h, ← hshape]

/-! ## The store outside the lock -/

namespace Store

open PlainTerminal.Tree

variable {store : Store} {tree : Tree} {place : String}

theorem read_alike (h : store.tree.AlikeOutside tree) (hplace : Path.IsCanonical place)
    (hout : Challenge.hides place = false) (path : String) :
    { store with tree }.read path place = store.read path place := by
  unfold Store.read Store.content?
  rw [h.contentOf hplace hout]

theorem list_alike (h : store.tree.AlikeOutside tree) (hplace : Path.IsCanonical place)
    (hout : Challenge.isLocked place = false) (path : String) (showHidden : Bool) :
    { store with tree }.list path place showHidden = store.list path place showHidden := by
  have hentries := h.entries hplace hout showHidden
  unfold Store.list
  cases he : store.tree.entries place showHidden with
  | error e =>
      rw [he] at hentries
      cases he' : tree.entries place showHidden with
      | error e' => rfl
      | ok es' => rw [he'] at hentries; cases hentries
  | ok es =>
      rw [he] at hentries
      cases he' : tree.entries place showHidden with
      | error e' => rw [he'] at hentries; cases hentries
      | ok es' =>
          rw [he'] at hentries
          have hshape : es.map Node.shape = es'.map Node.shape := Except.ok.inj hentries
          -- an upload is listed unless an entry has its name
          have hany : ∀ name, (es'.any fun e => e.1 == name) = es.any fun e => e.1 == name := by
            intro name
            have hnames := map_fst_of_shape hshape
            have hmap : ∀ l : List (String × Node),
                (l.any fun e => e.1 == name) = (l.map Prod.fst).any fun n => n == name := by
              intro l
              rw [List.any_map]
              rfl
            rw [hmap, hmap, hnames]
          dsimp only
          rw [Listing.map_ofNode_of_shape hshape]
          unfold Store.listedUploads
          simp only [hany]

theorem createFile_alike (h : store.tree.AlikeOutside tree) (hplace : Path.IsCanonical place)
    (hout : Challenge.isLocked place = false) (now : Timestamp) (content : String) :
    ∃ result t t', store.createFile now place content = (result, { store with tree := t }) ∧
      { store with tree }.createFile now place content = (result, { store with tree := t' }) ∧
      t.AlikeOutside t' := by
  unfold Store.createFile
  rcases map_emptiedAt_cases (h.map_createFile hplace hout now content) with
    ⟨e, h₁, h₂⟩ | ⟨t, t', h₁, h₂, ht⟩
  · rw [h₁, h₂]
    exact ⟨_, _, _, rfl, rfl, h⟩
  · rw [h₁, h₂]
    exact ⟨_, t, t', rfl, rfl, ht⟩

theorem createDirectory_alike (h : store.tree.AlikeOutside tree)
    (hplace : Path.IsCanonical place) (hout : Challenge.isLocked place = false) (now : Timestamp)
    (path : String) :
    ∃ result t t', store.createDirectory now path place = (result, { store with tree := t }) ∧
      { store with tree }.createDirectory now path place = (result, { store with tree := t' }) ∧
      t.AlikeOutside t' := by
  unfold Store.createDirectory
  rcases map_emptiedAt_cases (h.map_createDirectory hplace hout now) with
    ⟨e, h₁, h₂⟩ | ⟨t, t', h₁, h₂, ht⟩
  · rw [h₁, h₂]
    exact ⟨_, _, _, rfl, rfl, h⟩
  · rw [h₁, h₂]
    exact ⟨_, t, t', rfl, rfl, ht⟩

end Store

end PlainTerminal
