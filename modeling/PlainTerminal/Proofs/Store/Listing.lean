import PlainTerminal.Proofs.Dialogue.Course
import PlainTerminal.Proofs.Resolution
import PlainTerminal.Proofs.Router.ReadBack
import PlainTerminal.Proofs.Store.Overlap
import PlainTerminal.Proofs.Tree.Listing

/-!
# A listing is a merge

The files of a directory are in two places: its children in the tree, and the uploads that belong to
it. A listing shows the children first, and then those uploads whose names are not among them. So no
name stands for a child and for an upload, but nothing is done about two uploads with one name.

There are no such two. An upload is stored under its full path, and its name is a single piece of
that path: so the directory and the name settle the full path, even where the name is `..` and the
path leads somewhere else. Two uploads with one name in one directory would be stored under one path,
and the second would have taken the place of the first. That uploads are stored under their full
paths is what `Tidy` adds to a tree that writes can build, and every operation keeps it.

What is printed are rows. That each name has a row, and that it can be read there, is the other half
of the statement.
-/

namespace PlainTerminal

namespace Keyed

variable {α : Type} {m : Keyed α} {name : String}

theorem Ordered.nodup_names (h : Ordered m) : (m.map Prod.fst).Nodup :=
  List.pairwise_map.mpr (h.imp fun hlt => ne_of_lt hlt)

/-- What is an entry is found. -/
theorem Ordered.find?_eq_some_iff (h : Ordered m) {value : α} :
    m.find? name = some value ↔ (name, value) ∈ m := by
  refine ⟨mem_of_find?, fun hmem => ?_⟩
  induction m with
  | nil => cases hmem
  | cons e rest ih =>
      obtain ⟨k, v⟩ := e
      obtain ⟨hhead, hrest⟩ := List.pairwise_cons.mp h
      rcases List.mem_cons.mp hmem with heq | hmem
      · cases heq
        rw [find?, if_pos rfl]
      · have hne : k ≠ name := ne_of_lt (hhead _ hmem)
        rw [find?, if_neg hne]
        exact ih hrest hmem

theorem find?_eq_none_iff : m.find? name = none ↔ name ∉ m.map Prod.fst := by
  induction m with
  | nil => exact iff_of_true rfl List.not_mem_nil
  | cons e rest ih =>
      obtain ⟨k, v⟩ := e
      rw [List.map_cons, List.mem_cons, not_or, ← ih, find?]
      by_cases hk : k = name
      · rw [if_pos hk]
        exact iff_of_false (Option.some_ne_none v) fun h => h.1 hk.symm
      · rw [if_neg hk]
        exact ⟨fun h => ⟨fun heq => hk heq.symm, h⟩, And.right⟩

end Keyed

namespace Tree.Reachable

variable {tree : Tree}

theorem write (h : tree.Reachable) (w : Write) : (tree.write w).Reachable := by
  rcases tree.write_cases w with hsame | hwrite
  · rw [hsame]
    exact h
  · cases w with
    | file now path content => exact h.createFile hwrite
    | directory now path => exact h.createDirectory hwrite

theorem writeAll (h : tree.Reachable) (writes : List Write) : (tree.writeAll writes).Reachable := by
  induction writes generalizing tree with
  | nil => exact h
  | cons w rest ih => exact ih (h.write w)

end Tree.Reachable

theorem Tree.exists_children_of_isDirectory {tree : Tree} {path : String}
    (h : tree.isDirectory path = true) :
    ∃ a children, tree.resolve path = some (.directory a children) := by
  unfold isDirectory at h
  cases hresolve : tree.resolve path with
  | none =>
      rw [hresolve] at h
      cases h
  | some node =>
      rw [hresolve] at h
      cases node with
      | file a content => cases h
      | directory a children => exact ⟨a, children, rfl⟩

namespace Path

/-- A name is one more piece, whatever it does to the path. -/
theorem segments_child {name : String} (h : '/' ∉ name.toList) (path : String) :
    segments "/" (path ++ "/" ++ name) = (push (segments "/" path).reverse name).reverse := by
  have hpieces : pieces (path ++ "/" ++ name) = pieces path ++ [name] := by
    have hname := pieces_of_slash_notMem h
    rw [String.ofList_toList] at hname
    rw [pieces_join, hname]
  rw [segments_from_root, segments_from_root, hpieces, List.foldl_append, List.reverse_reverse]
  rfl

end Path

/-- The directory and the name of an upload settle its full path. -/
theorem Upload.fullPath_eq_of {u v : Upload} (hu : u.hasFileName = true)
    (hdirectory : u.directory = v.directory) (hname : u.name = v.name) :
    u.fullPath = v.fullPath := by
  have hslash : '/' ∉ u.name.toList := by
    unfold hasFileName at hu
    simp only [Bool.and_eq_true, Bool.not_eq_true', List.contains_eq_mem,
      decide_eq_false_iff_not] at hu
    exact hu.2
  have hsegments : Path.segments "/" u.path = Path.segments "/" v.path :=
    Path.normalize_eq_iff.mp hdirectory
  refine Path.normalize_eq_iff.mpr ?_
  rw [Path.segments_child hslash, hsegments, ← Path.segments_child (hname ▸ hslash), hname]

namespace Store

variable {s : Store}

/-- The uploads are in order, and each is stored under its full path. -/
structure Filed (uploads : Keyed Upload) : Prop where
  ordered : Keyed.Ordered uploads
  indexed : ∀ e ∈ uploads, e.1 = e.2.fullPath ∧ e.2.hasFileName = true

theorem filed_nil : Filed [] := ⟨List.Pairwise.nil, nofun⟩

theorem Filed.insert {uploads : Keyed Upload} (h : Filed uploads) {u : Upload}
    (hname : u.hasFileName = true) : Filed (Keyed.insert uploads u.fullPath u) := by
  refine ⟨h.ordered.insert u, fun e he => ?_⟩
  rcases Keyed.mem_insert he with rfl | hmem
  · refine ⟨?_, hname⟩
    dsimp only
  · exact h.indexed e hmem

theorem Filed.perform (h : Filed s.uploads) (operation : Operation) :
    Filed (s.perform operation).uploads := by
  cases operation with
  | createFile now full content =>
      rw [Store.perform, uploads_createFile]
      exact h
  | createDirectory now path full =>
      rw [Store.perform, uploads_createDirectory]
      exact h
  | upload u =>
      rw [Store.perform]
      by_cases hname : u.hasFileName = true
      · rw [uploads_upload s hname]
        exact h.insert hname
      · rw [upload_of_not_hasFileName s hname]
        exact h
  | clearUploads => exact filed_nil

/-- The tree is one that writes can build, and the uploads are filed. -/
structure Tidy (s : Store) : Prop where
  tree : s.tree.Reachable
  uploads : Filed s.uploads

theorem tidy_new (mode : Mode) {tree : Tree} (h : tree.Reachable) : (new mode tree).Tidy :=
  ⟨h, filed_nil⟩

/-- Every operation keeps a store tidy. -/
theorem Tidy.perform (h : s.Tidy) (operation : Operation) : (s.perform operation).Tidy := by
  refine ⟨?_, h.uploads.perform operation⟩
  rw [tree_perform]
  exact h.tree.writeAll _

theorem mode_perform (s : Store) (operation : Operation) :
    (s.perform operation).mode = s.mode := by
  cases operation with
  | createFile now full content => rw [perform, mode_createFile]
  | createDirectory now path full => rw [perform, mode_createDirectory]
  | upload u => rw [perform, mode_upload]
  | clearUploads => rfl

theorem mode_performAll (s : Store) (operations : List Operation) :
    (s.performAll operations).mode = s.mode := by
  induction operations generalizing s with
  | nil => rfl
  | cons operation rest ih => exact (ih (s.perform operation)).trans (s.mode_perform operation)

theorem Tidy.performAll (h : s.Tidy) (operations : List Operation) :
    (s.performAll operations).Tidy := by
  induction operations generalizing s with
  | nil => exact h
  | cons operation rest ih => exact ih (h.perform operation)

/-! ## One listing -/

/-- The name is shown, a hidden one only on demand. -/
def Shows (showHidden : Bool) (name : String) : Prop :=
  (showHidden || !Tree.isHidden name) = true

/-- What the tree has under a name in a directory. -/
def child? (s : Store) (directory name : String) : Option Node :=
  s.tree.find? (Path.segments "/" directory ++ [name])

/-- The upload is there, and belongs to a directory. -/
def HasUpload (s : Store) (directory : String) (u : Upload) : Prop :=
  u ∈ s.uploadedFiles ∧ u.directory = Path.normalize "/" directory

/-- The two parts of a listing, its own children and the uploads that are added to them. -/
structure Merges (s : Store) (directory : String) (showHidden : Bool)
    (own : List (String × Node)) (added : List Upload) : Prop where
  /-- The children are shown with their nodes, and nothing else is. -/
  mem_own : ∀ name node, (name, node) ∈ own ↔
    s.child? directory name = some node ∧ Shows showHidden name
  /-- They stand in the order of their names, letter by letter, which is that of their bytes. -/
  own_ordered : (own.map Prod.fst).Pairwise (· < ·)
  /-- Added are the uploads that belong to the directory and have no name of a child. -/
  mem_added : ∀ u, u ∈ added ↔
    s.HasUpload directory u ∧ s.child? directory u.name = none ∧ Shows showHidden u.name
  /-- They stand in the order of their full paths. -/
  added_ordered : added.Pairwise fun u v => u.fullPath < v.fullPath
  /-- Every upload that belongs to the directory is there by its name. -/
  complete : ∀ u, s.HasUpload directory u → Shows showHidden u.name →
    u.name ∈ own.map Prod.fst ++ added.map Upload.name
  /-- No name is there twice. -/
  nodup : (own.map Prod.fst ++ added.map Upload.name).Nodup

/-- The uploads of a tidy store stand in the order of their full paths. -/
theorem Tidy.uploadedFiles_ordered (h : s.Tidy) :
    s.uploadedFiles.Pairwise fun u v => u.fullPath < v.fullPath := by
  refine List.pairwise_map.mpr (h.uploads.ordered.imp_of_mem fun {e e'} he he' hlt => ?_)
  rw [← (h.uploads.indexed e he).1, ← (h.uploads.indexed e' he').1]
  exact hlt

theorem Tidy.hasFileName (h : s.Tidy) {u : Upload} (hu : u ∈ s.uploadedFiles) :
    u.hasFileName = true := by
  obtain ⟨e, he, rfl⟩ := List.mem_map.mp hu
  exact (h.uploads.indexed e he).2

theorem mem_listedUploads_iff {full : String} {showHidden : Bool} {entries : List (String × Node)}
    {u : Upload} : u ∈ s.listedUploads full showHidden entries ↔
      u ∈ s.uploadedFiles ∧ u.directory = full ∧ u.name ∉ entries.map Prod.fst ∧
        Shows showHidden u.name := by
  show u ∈ s.uploadedFiles.filter _ ↔ _
  rw [List.mem_filter]
  simp only [Shows, Bool.and_eq_true, beq_iff_eq, Bool.not_eq_true', List.any_eq_false,
    List.mem_map, not_exists, not_and, and_assoc]

theorem child?_eq {directory : String} {a : Attributes} {children : Keyed Node}
    (hresolve : s.tree.resolve directory = some (.directory a children)) (name : String) :
    s.child? directory name = Keyed.find? children name := by
  unfold Tree.resolve at hresolve
  unfold child?
  rw [Node.find?_append, hresolve, Option.bind_some, Node.find?_directory_cons]
  exact Option.bind_fun_some _

/-- **A listing of a tidy store is a merge.** -/
theorem Tidy.merges (h : s.Tidy) {directory : String} (hcanonical : Path.IsCanonical directory)
    {a : Attributes} {children : Keyed Node}
    (hresolve : s.tree.resolve directory = some (.directory a children)) (showHidden : Bool) :
    let own := children.filter fun e => showHidden || !Tree.isHidden e.1
    s.Merges directory showHidden own (s.listedUploads directory showHidden own) := by
  intro own
  have hordered : Keyed.Ordered children := (h.tree.wellFormed.find? hresolve).ordered
  have hown_ordered : Keyed.Ordered own := hordered.filter _
  have hmem_own : ∀ name node, (name, node) ∈ own ↔
      s.child? directory name = some node ∧ Shows showHidden name := by
    intro name node
    rw [child?_eq hresolve, hordered.find?_eq_some_iff]
    exact List.mem_filter
  have hname_own : ∀ name, Shows showHidden name →
      (name ∉ own.map Prod.fst ↔ s.child? directory name = none) := by
    intro name hshows
    rw [← Keyed.find?_eq_none_iff, Option.eq_none_iff_forall_ne_some,
      Option.eq_none_iff_forall_ne_some]
    refine forall_congr' fun node => not_congr ?_
    rw [hown_ordered.find?_eq_some_iff, hmem_own]
    exact and_iff_left hshows
  have hmem_added : ∀ u, u ∈ s.listedUploads directory showHidden own ↔
      s.HasUpload directory u ∧ s.child? directory u.name = none ∧ Shows showHidden u.name := by
    intro u
    rw [mem_listedUploads_iff, HasUpload, Path.isCanonical_iff.mp hcanonical, and_assoc]
    refine and_congr_right fun _ => and_congr_right fun _ => and_congr_left fun hshows => ?_
    exact hname_own u.name hshows
  have hadded_ordered : (s.listedUploads directory showHidden own).Pairwise
      fun u v => u.fullPath < v.fullPath := h.uploadedFiles_ordered.filter _
  refine ⟨hmem_own, List.pairwise_map.mpr hown_ordered, hmem_added, hadded_ordered, ?_, ?_⟩
  · -- a name that no child has is that of an upload that is added
    intro u hu hshows
    rw [List.mem_append]
    by_cases hname : u.name ∈ own.map Prod.fst
    · exact Or.inl hname
    · exact Or.inr (List.mem_map_of_mem
        ((hmem_added u).mpr ⟨hu, (hname_own u.name hshows).mp hname, hshows⟩))
  · rw [List.nodup_append]
    refine ⟨hown_ordered.nodup_names, List.pairwise_map.mpr ?_, ?_⟩
    · -- two uploads with one name would be stored under one path
      refine hadded_ordered.imp_of_mem fun {u v} hu hv hlt hname => ?_
      obtain ⟨⟨huploaded, hudirectory⟩, -⟩ := (hmem_added u).mp hu
      obtain ⟨⟨-, hvdirectory⟩, -⟩ := (hmem_added v).mp hv
      have hpath := Upload.fullPath_eq_of (h.hasFileName huploaded)
        (hudirectory.trans hvdirectory.symm) hname
      exact absurd hpath (ne_of_lt hlt)
    · intro name hname name' hname'
      rintro rfl
      obtain ⟨u, hu, rfl⟩ := List.mem_map.mp hname'
      obtain ⟨-, hnone, hshows⟩ := (hmem_added u).mp hu
      exact (hname_own u.name hshows).mpr hnone hname

/-! ## Its rows -/

/-- The rows of a listing, those of the children first. -/
def rows (own : List (String × Node)) (added : List Upload) : List String :=
  own.map (fun e => Listing.ofNode e.1 e.2) ++ added.map Upload.line

theorem shownName_line (u : Upload) : Listing.shownName u.line = u.name :=
  Listing.shownName_line (by decide) (by decide) (by decide) _ _ _

/-- **The rows show the names**, one name each. -/
theorem Merges.shownName_rows {directory : String} {showHidden : Bool}
    {own : List (String × Node)} {added : List Upload} (h : s.Merges directory showHidden own added)
    (htree : s.tree.Reachable) :
    (rows own added).map Listing.shownName = own.map Prod.fst ++ added.map Upload.name := by
  rw [rows, List.map_append, List.map_map, List.map_map]
  refine congrArg₂ _ (List.map_congr_left fun e he => ?_) (List.map_congr_left fun u _ => ?_)
  · have hchild := ((h.mem_own e.1 e.2).mp he).1
    exact htree.shownName_ofNode hchild e.1
  · exact shownName_line u

end Store

open Dialogue Store

variable {s : Session}

/-- **A listing in the demo is a merge.** After whatever operations on the store, the listing of a
directory has a row for every child of it that is to be shown, in the order of their names, and then
one for every upload that belongs to it and has no name of a child, in the order of their full paths.
Each row shows the name of what it is for, so none is missing and no name is shown twice, and the
number in front is that of the rows. -/
theorem Session.listDirectory_merges {start : Tree} (hstart : start.Reachable)
    (operations : List Operation)
    (hstore : s.store = (Store.new .remoteDemo start).performAll operations)
    (hhome : Path.IsCanonical s.home) (path : String) (showHidden : Bool)
    (hdirectory : s.store.tree.isDirectory (s.placeOf path) = true) :
    ∃ own added, s.store.Merges (s.placeOf path) showHidden own added ∧
      (rows own added).map Listing.shownName = own.map Prod.fst ++ added.map Upload.name ∧
      (Session.listDirectory path showHidden).run s =
        done (.simulated ("total " ++ toString (own.length + added.length) ++ "\n" ++
          String.join ((rows own added).map fun row => row ++ "\n")), s) := by
  have htidy : s.store.Tidy := by
    rw [hstore]
    exact (tidy_new .remoteDemo hstart).performAll operations
  have hsim : s.store.isSimulated = true := by
    unfold Store.isSimulated
    rw [hstore, mode_performAll]
    rfl
  obtain ⟨a, children, hresolve⟩ := Tree.exists_children_of_isDirectory hdirectory
  have hcanonical := isCanonical_resolvePath hhome path s.cwd
  have hmerges := htidy.merges hcanonical hresolve showHidden
  refine ⟨_, _, hmerges, hmerges.shownName_rows htidy.tree, ?_⟩
  unfold Session.listDirectory
  rw [run_get_bind, if_pos hsim]
  unfold Store.list
  rw [Tree.entries_of_resolve hresolve]
  dsimp only
  unfold Listing.withTotal
  rw [List.length_append, List.length_map, List.length_map]
  rfl

namespace Router

/-- Two uploads to a directory that is made only afterwards, one of them under a name that leads out
of it. -/
def earlyUploads : List Operation :=
  [.upload ⟨"data.csv", "1,2", "/home/user/new", "text/csv", ⟨0⟩⟩,
    .upload ⟨"..", "up", "/home//user/./new", "", ⟨1⟩⟩,
    .createDirectory ⟨2⟩ "new" "/home/user/new"]

/-- The session in which that was done. -/
def demoWithEarlyUploads : Session := { demo with store := demo.store.performAll earlyUploads }

/-- Both are listed, in the order of their full paths. -/
theorem listDirectory_merges_early : (Seed.tree ⟨0⟩).Reachable ∧
    Path.IsCanonical demoWithEarlyUploads.home ∧
    demoWithEarlyUploads.store.tree.isDirectory (demoWithEarlyUploads.placeOf "new") = true ∧
    ∃ own added,
      demoWithEarlyUploads.store.Merges (demoWithEarlyUploads.placeOf "new") true own added ∧
      (rows own added).map Listing.shownName = own.map Prod.fst ++ added.map Upload.name ∧
      (Session.listDirectory "new" true).run demoWithEarlyUploads =
        done (.simulated ("total " ++ toString (own.length + added.length) ++ "\n" ++
          String.join ((rows own added).map fun row => row ++ "\n")), demoWithEarlyUploads) ∧
      (Session.listDirectory "new" true).run demoWithEarlyUploads =
        done (.simulated ("total 2\n" ++ "-rw-r--r-- 1 user user 2 01/01/1970 00:00 ..\n" ++
          "-rw-r--r-- 1 user user 3 01/01/1970 00:00 data.csv\n"), demoWithEarlyUploads) := by
  have hhome : Path.IsCanonical demoWithEarlyUploads.home :=
    Path.isCanonical_iff.mpr (by decide +kernel)
  have hdirectory : demoWithEarlyUploads.store.tree.isDirectory
      (demoWithEarlyUploads.placeOf "new") = true := by
    decide +kernel
  obtain ⟨own, added, hmerges, hshown, hrun⟩ :=
    Session.listDirectory_merges (.seeded ⟨0⟩) earlyUploads rfl hhome "new" true hdirectory
  exact ⟨.seeded ⟨0⟩, hhome, hdirectory, own, added, hmerges, hshown, hrun, rfl⟩

end Router

end PlainTerminal
