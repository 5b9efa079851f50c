import PlainTerminal.Proofs.Store.Permanence

/-!
# A directory and a file at one path

The tree alone keeps files and directories apart. A store does not: an upload is read at its full
path, whatever the tree has there. So a path can be both, a directory to `cd` and `ls` and a file to
`cat`, and it comes to that in two ways. A file is uploaded under the path of a directory, or a
directory is made where there is an upload that the tree did not take.

These are the only ways. What makes it exact is that uploads are known by canonical paths: a
directory at some spelling of the path is then one at the path of the upload.
-/

namespace PlainTerminal

namespace Store

variable {s : Store} {path : String}

/-- The path is a directory, and it is also a file that can be read. -/
def Ambiguous (s : Store) (path : String) : Prop :=
  s.tree.isDirectory path = true ∧ (s.read path path).success = true

/-- The operation puts a directory and a file at one path. -/
def Collides (s : Store) : Operation → Prop
  | .upload u => u.hasFileName = true ∧ s.tree.isDirectory u.fullPath = true
  | .createDirectory now path full => (s.createDirectory now path full).1.success = true ∧
      (Keyed.find? s.uploads (Path.normalize "/" full)).isSome = true
  | _ => False

theorem success_read_iff (s : Store) (path full : String) :
    (s.read path full).success = true ↔ (s.content? full).isSome = true := by
  unfold read
  cases s.content? full with
  | none => exact iff_of_false nofun nofun
  | some content => exact iff_of_true rfl rfl

/-- A file that can be read at the path of a directory is an upload. -/
theorem ambiguous_iff : s.Ambiguous path ↔
    s.tree.isDirectory path = true ∧ (Keyed.find? s.uploads path).isSome = true := by
  refine and_congr_right fun hdir => ?_
  rw [success_read_iff, content?]
  cases Keyed.find? s.uploads path with
  | some u => exact iff_of_true rfl rfl
  | none =>
      refine iff_of_false ?_ nofun
      unfold Tree.isDirectory at hdir
      unfold Tree.contentOf
      cases hfind : s.tree.resolve path with
      | none => exact nofun
      | some node =>
          rw [hfind] at hdir
          cases node with
          | file a content => cases hdir
          | directory a children => exact nofun

/-! ## Uploads have canonical paths -/

/-- The uploads are known by canonical paths. -/
def Indexed (s : Store) : Prop := ∀ e ∈ s.uploads, Path.normalize "/" e.1 = e.1

theorem Indexed.normalize_eq (h : s.Indexed)
    (hfind : (Keyed.find? s.uploads path).isSome = true) : Path.normalize "/" path = path := by
  obtain ⟨u, hu⟩ := Option.isSome_iff_exists.mp hfind
  exact h (path, u) (Keyed.mem_of_find? hu)

theorem normalize_fullPath (u : Upload) : Path.normalize "/" u.fullPath = u.fullPath :=
  Path.normalize_eq_iff.mpr (Path.segments_normalize "/" "/" _)

theorem uploads_createFile (s : Store) (now : Timestamp) (full content : String) :
    (s.createFile now full content).2.uploads = s.uploads := by
  unfold Store.createFile
  cases s.tree.createFile now full content <;> rfl

theorem uploads_createDirectory (s : Store) (now : Timestamp) (path full : String) :
    (s.createDirectory now path full).2.uploads = s.uploads := by
  unfold Store.createDirectory
  cases s.tree.createDirectory now full <;> rfl

theorem uploads_upload (s : Store) {u : Upload} (h : u.hasFileName = true) :
    (s.upload u).2.uploads = Keyed.insert s.uploads u.fullPath u := by
  unfold Store.upload
  rw [if_pos h]

theorem Indexed.perform (h : s.Indexed) (operation : Operation) :
    (s.perform operation).Indexed := by
  unfold Indexed
  cases operation with
  | createFile now full content =>
      rw [Store.perform, uploads_createFile]
      exact h
  | createDirectory now path full =>
      rw [Store.perform, uploads_createDirectory]
      exact h
  | upload u =>
      rw [Store.perform]
      by_cases hname : u.hasFileName = true
      · rw [uploads_upload s hname]
        intro e he
        rcases Keyed.mem_insert he with rfl | he
        · dsimp only
          exact normalize_fullPath u
        · exact h e he
      · rw [upload_of_not_hasFileName s hname]
        exact h
  | clearUploads =>
      intro e he
      cases he

/-! ## One operation -/

theorem isDirectory_write_file (tree : Tree) (now : Timestamp) (target content place : String) :
    (tree.write (.file now target content)).isDirectory place = tree.isDirectory place := by
  rcases tree.write_cases (.file now target content) with hsame | hwrite
  · rw [hsame]
  · exact Tree.isDirectory_createFile_eq hwrite place

/-- To make a directory makes one path a directory, if it succeeds. -/
theorem isDirectory_createDirectory_iff (s : Store) (now : Timestamp) (path full place : String) :
    (s.createDirectory now path full).2.tree.isDirectory place = true ↔
      s.tree.isDirectory place = true ∨ ((s.createDirectory now path full).1.success = true ∧
        Path.normalize "/" place = Path.normalize "/" full) := by
  unfold Store.createDirectory
  cases hwrite : s.tree.createDirectory now full with
  | error e => exact ⟨Or.inl, fun h => h.resolve_right fun h => by cases h.1⟩
  | ok tree =>
      rw [Path.normalize_eq_iff]
      exact (Tree.isDirectory_createDirectory_iff hwrite place).trans
        (or_congr_right ⟨fun h => ⟨rfl, h⟩, And.right⟩)

/-- **An operation makes a path ambiguous exactly if it collides.** -/
theorem exists_ambiguous_perform_iff (hindexed : s.Indexed)
    (hclear : ∀ path, ¬ s.Ambiguous path) (operation : Operation) :
    (∃ path, (s.perform operation).Ambiguous path) ↔ s.Collides operation := by
  simp only [ambiguous_iff, not_and] at hclear ⊢
  cases operation with
  | createFile now full content =>
      rw [perform, tree_createFile_eq_write, uploads_createFile]
      refine iff_of_false ?_ id
      rintro ⟨path, hdir, hupload⟩
      rw [isDirectory_write_file] at hdir
      exact hclear path hdir hupload
  | createDirectory now asked full =>
      simp only [perform, uploads_createDirectory, isDirectory_createDirectory_iff, Collides]
      constructor
      · rintro ⟨path, hdir | ⟨hsuccess, hpath⟩, hupload⟩
        · exact absurd hupload (hclear path hdir)
        · rw [hindexed.normalize_eq hupload] at hpath
          exact ⟨hsuccess, hpath ▸ hupload⟩
      · rintro ⟨hsuccess, hupload⟩
        have hpath := hindexed.normalize_eq hupload
        exact ⟨_, Or.inr ⟨hsuccess, hpath⟩, hupload⟩
  | upload u =>
      rw [perform, Collides]
      by_cases hname : u.hasFileName = true
      · rw [tree_upload_eq_write s hname, uploads_upload s hname]
        simp only [isDirectory_write_file, Keyed.find?_insert]
        constructor
        · rintro ⟨path, hdir, hupload⟩
          by_cases hpath : u.fullPath = path
          · exact ⟨hname, hpath ▸ hdir⟩
          · rw [if_neg hpath] at hupload
            exact absurd hupload (hclear path hdir)
        · rintro ⟨-, hdir⟩
          exact ⟨u.fullPath, hdir, by rw [if_pos rfl]; rfl⟩
      · rw [upload_of_not_hasFileName s hname]
        refine iff_of_false ?_ fun h => hname h.1
        rintro ⟨path, hdir, hupload⟩
        exact hclear path hdir hupload
  | clearUploads =>
      refine iff_of_false ?_ id
      rintro ⟨path, -, hupload⟩
      cases hupload

/-! ## All operations -/

section Prefixes

variable {α : Type} {first : α} {rest : List α}

theorem forall_prefix_cons_iff {p : List α → Prop} :
    (∀ done, done <+: first :: rest → p done) ↔
      p [] ∧ ∀ done, done <+: rest → p (first :: done) := by
  constructor
  · intro h
    exact ⟨h [] List.nil_prefix, fun done hdone => h _ (List.cons_prefix_cons.mpr ⟨rfl, hdone⟩)⟩
  · rintro ⟨hnil, hcons⟩ done hdone
    rcases List.prefix_cons_iff.mp hdone with rfl | ⟨done', rfl, hdone'⟩
    · exact hnil
    · exact hcons done' hdone'

theorem forall_next_cons_iff {p : List α → α → Prop} :
    (∀ done next, done ++ [next] <+: first :: rest → p done next) ↔
      p [] first ∧ ∀ done next, done ++ [next] <+: rest → p (first :: done) next := by
  constructor
  · intro h
    refine ⟨h [] first (List.cons_prefix_cons.mpr ⟨rfl, List.nil_prefix⟩), ?_⟩
    exact fun done next hdone => h (first :: done) next (List.cons_prefix_cons.mpr ⟨rfl, hdone⟩)
  · rintro ⟨hnil, hcons⟩ done next hdone
    cases done with
    | nil =>
        obtain ⟨rfl, -⟩ := List.cons_prefix_cons.mp hdone
        exact hnil
    | cons head done =>
        obtain ⟨rfl, hdone'⟩ := List.cons_prefix_cons.mp hdone
        exact hcons done next hdone'

end Prefixes

/-- A store that is clear at the start stays clear exactly as long as no operation collides. -/
theorem clear_along_iff (hindexed : s.Indexed) (hclear : ∀ path, ¬ s.Ambiguous path)
    (operations : List Operation) :
    (∀ done, done <+: operations → ∀ path, ¬ (s.performAll done).Ambiguous path) ↔
      ∀ done next, done ++ [next] <+: operations → ¬ (s.performAll done).Collides next := by
  induction operations generalizing s with
  | nil =>
      refine iff_of_true (fun done hdone => ?_) fun done next hdone => ?_
      · rw [List.prefix_nil.mp hdone]
        exact hclear
      · exact absurd (List.prefix_nil.mp hdone) (by simp)
  | cons first rest ih =>
      have hstep := exists_ambiguous_perform_iff hindexed hclear first
      have hindexed' := hindexed.perform first
      rw [forall_prefix_cons_iff, forall_next_cons_iff]
      constructor
      · rintro ⟨-, hrest⟩
        have hclear' : ∀ path, ¬ (s.perform first).Ambiguous path := hrest [] List.nil_prefix
        exact ⟨fun hcollides => (hstep.mpr hcollides).elim hclear',
          (ih hindexed' hclear').mp hrest⟩
      · rintro ⟨hnot, hrest⟩
        have hclear' : ∀ path, ¬ (s.perform first).Ambiguous path :=
          fun path hpath => hnot (hstep.mp ⟨path, hpath⟩)
        exact ⟨hclear, (ih hindexed' hclear').mpr hrest⟩

/-- **No path is both a directory and a file, exactly as long as no operation collides**: no file is
uploaded under the path of a directory, and no directory is made where there is an upload. -/
theorem unambiguous_iff (mode : Mode) (tree : Tree) (operations : List Operation) :
    (∀ done, done <+: operations →
      ∀ path, ¬ ((Store.new mode tree).performAll done).Ambiguous path) ↔
      ∀ done next, done ++ [next] <+: operations →
        ¬ ((Store.new mode tree).performAll done).Collides next := by
  refine clear_along_iff (s := Store.new mode tree) nofun (fun path => ?_) operations
  rw [ambiguous_iff]
  rintro ⟨-, hupload⟩
  cases hupload

/-- A file is uploaded under the path of a new directory. -/
theorem ambiguous_upload :
    ((Store.new .remoteDemo (Seed.tree ⟨0⟩)).performAll [
      .createDirectory ⟨1⟩ "d" "/home/user/d",
      .upload ⟨"d", "x", "/home/user", "", ⟨2⟩⟩]).Ambiguous "/home/user/d" := by
  unfold Ambiguous
  decide +kernel

end Store

end PlainTerminal
