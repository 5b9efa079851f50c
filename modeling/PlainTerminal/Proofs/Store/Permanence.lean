import PlainTerminal.Proofs.Tree.FiniteMap
import PlainTerminal.Proofs.Tree.Inode

/-!
# What is in the tree stays there

Nothing ever leaves the tree: a directory stays a directory, a file stays a file, and the text of a
file is the one that was last written to it. All that can happen to the store is said by a list of
operations, and all that an operation can do to the tree by a list of writes, of which some may
fail. A write either changes nothing or puts something at one place, so what one write keeps, all of
them do.

The same writes go to the tree as it is stored. It is sound at the start and every write keeps it
so, whether it replaces something, adds something or fails.
-/

namespace PlainTerminal

/-! ## Writes -/

/-- Something to be written into a tree. -/
inductive Write where
  | file (now : Timestamp) (path content : String)
  | directory (now : Timestamp) (path : String)

/-- The text that is written to the file at a path, however either path is spelled. -/
def Write.textAt? (path : String) : Write → Option String
  | file _ target content =>
    if Path.normalize "/" target = Path.normalize "/" path then some content else none
  | directory _ _ => none

namespace Tree

/-- Writes something. -/
def attempt (tree : Tree) : Write → Except TreeError Tree
  | .file now path content => tree.createFile now path content
  | .directory now path => tree.createDirectory now path

/-- The tree after a write. One that fails leaves it as it is. -/
def write (tree : Tree) (w : Write) : Tree := (tree.attempt w).toOption.getD tree

/-- The tree after one write after the other. -/
def writeAll (tree : Tree) (writes : List Write) : Tree := writes.foldl write tree

theorem writeAll_singleton (tree : Tree) (w : Write) : tree.writeAll [w] = tree.write w := rfl

theorem write_of_ok {tree tree' : Tree} {w : Write} (h : tree.attempt w = .ok tree') :
    tree.write w = tree' := by
  rw [write, h]
  rfl

/-- A write leaves the tree as it is or succeeds. -/
theorem write_cases (tree : Tree) (w : Write) :
    tree.write w = tree ∨ tree.attempt w = .ok (tree.write w) := by
  cases h : tree.attempt w with
  | error e => exact Or.inl (by rw [write, h]; rfl)
  | ok tree' => exact Or.inr (by rw [write_of_ok h])

end Tree

namespace Inode

variable {i : Inode}

/-- Writes something into a stored tree. -/
def attempt (i : Inode) : Write → Except TreeError Inode
  | .file now path content => i.createFile now path content
  | .directory now path => i.createDirectory now path

/-- The stored tree after a write. -/
def write (i : Inode) (w : Write) : Inode := (i.attempt w).toOption.getD i

/-- The stored tree after one write after the other. -/
def writeAll (i : Inode) (writes : List Write) : Inode := writes.foldl write i

/-- A write to a stored tree is one to its erasure. -/
theorem erase_attempt (i : Inode) (w : Write) :
    (i.attempt w).map erase = Tree.attempt i.erase w := by
  cases w with
  | file now path content => exact erase_createFile i now path content
  | directory now path => exact erase_createDirectory i now path

theorem erase_write (i : Inode) (w : Write) : (i.write w).erase = Tree.write i.erase w := by
  rw [write, Tree.write, ← erase_attempt]
  cases i.attempt w <;> rfl

theorem erase_writeAll (i : Inode) (writes : List Write) :
    (i.writeAll writes).erase = Tree.writeAll i.erase writes := by
  induction writes generalizing i with
  | nil => rfl
  | cons w rest ih =>
      have hrest := ih (i.write w)
      rw [erase_write] at hrest
      exact hrest

/-- A write keeps a stored tree sound, whether it replaces something, adds something or fails. -/
theorem Sound.write (h : i.Sound) (w : Write) : (i.write w).Sound := by
  unfold Inode.write
  cases hwrite : i.attempt w with
  | error e => exact h
  | ok i' =>
      cases w with
      | file now path content => exact h.createFile hwrite
      | directory now path => exact h.createDirectory hwrite

theorem Sound.writeAll (h : i.Sound) (writes : List Write) : (i.writeAll writes).Sound := by
  induction writes generalizing i with
  | nil => exact h
  | cons w rest ih => exact ih (h.write w)

end Inode

namespace Tree

variable {tree tree' : Tree} {path content : String} {now : Timestamp}

/-! ## What a write keeps -/

theorem exists_resolve_of_contentOf (h : tree.contentOf path = .ok content) :
    ∃ a, tree.resolve path = some (.file a content) := by
  unfold Tree.contentOf at h
  cases hfind : tree.resolve path with
  | none => rw [hfind] at h; cases h
  | some node =>
      rw [hfind] at h
      cases node with
      | file a text => cases h; exact ⟨a, rfl⟩
      | directory a children => cases h

/-- Where there is a file there is room for one: a directory around it, and none in its place. -/
theorem room_of_contentOf (hroot : tree.isDirectory "/" = true)
    (h : tree.contentOf path = .ok content) :
    Path.normalize "/" path ≠ "/" ∧ tree.isDirectory (Path.parent path) = true ∧
      tree.isDirectory path = false := by
  obtain ⟨a, hfile⟩ := exists_resolve_of_contentOf h
  have hnot : tree.isDirectory path = false := by
    rw [Tree.isDirectory, hfile]
    rfl
  have hne : Path.segments "/" path ≠ [] := by
    intro hnil
    have hsame : Path.segments "/" path = Path.segments "/" "/" := hnil
    rw [isDirectory_eq, ← hsame, ← isDirectory_eq, hnot] at hroot
    cases hroot
  refine ⟨fun heq => hne (Path.normalize_eq_root_iff.mp heq), ?_, hnot⟩
  -- The walk to the file goes through the directory.
  obtain ⟨above, name, hsegs⟩ := (List.eq_nil_or_concat _).resolve_left hne
  rw [List.concat_eq_append] at hsegs
  rw [isDirectory_parent, hsegs, List.dropLast_concat]
  rw [Tree.resolve, hsegs, Node.find?_append] at hfile
  obtain ⟨around, haround, hlast⟩ := Option.bind_eq_some_iff.mp hfile
  rw [haround]
  cases around with
  | file b text => cases hlast
  | directory b children => rfl

/-- A directory stays a directory. -/
theorem isDirectory_write (h : tree.isDirectory path = true) (w : Write) :
    (tree.write w).isDirectory path = true := by
  rcases tree.write_cases w with hsame | hwrite
  · rw [hsame]
    exact h
  · cases w with
    | file now target content => exact isDirectory_of_createFile hwrite h
    | directory now target => exact isDirectory_of_createDirectory hwrite h

theorem contentOf_eq_ok_iff :
    tree.contentOf path = .ok content ↔
      (tree.faceAt (Path.segments "/" path)).bind Face.content? = some content := by
  rw [← toOption_contentOf]
  cases tree.contentOf path with
  | error e => exact iff_of_false nofun nofun
  | ok text => exact ⟨fun h => by cases h; rfl, fun h => by cases h; rfl⟩

/-- A text that is written to a file comes to it. -/
theorem contentOf_write_of_textAt? (hroot : tree.isDirectory "/" = true)
    (h : tree.contentOf path = .ok content) {w : Write} {text : String}
    (hw : w.textAt? path = some text) : (tree.write w).contentOf path = .ok text := by
  cases w with
  | directory now target => cases hw
  | file now target written =>
      by_cases hsame : Path.normalize "/" target = Path.normalize "/" path
      · rw [Write.textAt?, if_pos hsame] at hw
        obtain rfl : written = text := Option.some.inj hw
        obtain ⟨hne, hparent, hnot⟩ := room_of_contentOf hroot h
        have hsegs := Path.normalize_eq_iff.mp hsame
        rw [← hsame] at hne
        rw [Path.parent, ← hsegs] at hparent
        rw [isDirectory_eq, ← hsegs, ← isDirectory_eq] at hnot
        obtain ⟨tree', hwrite⟩ :=
          (exists_createFile_iff_isDirectory tree now target written).mpr ⟨hne, hparent, hnot⟩
        rw [write_of_ok (w := .file now target written) hwrite]
        exact contentOf_createFile_of_spelling hwrite hsame.symm
      · rw [Write.textAt?, if_neg hsame] at hw
        cases hw

/-- What is not written to a file leaves it alone. -/
theorem contentOf_write_of_textAt?_eq_none (h : tree.contentOf path = .ok content) {w : Write}
    (hw : w.textAt? path = none) : (tree.write w).contentOf path = .ok content := by
  rcases tree.write_cases w with hsame | hwrite
  · rw [hsame]
    exact h
  · rw [contentOf_eq_ok_iff] at h ⊢
    cases w with
    | file now target written =>
        have hsegs : Path.segments "/" path ≠ Path.segments "/" target := by
          intro heq
          rw [Write.textAt?, if_pos (Path.normalize_eq_iff.mpr heq.symm)] at hw
          cases hw
        rw [faceAt_createFile hwrite, if_neg hsegs]
        exact h
    | directory now target =>
        -- The face of the file stays even if a directory was to be made in its place.
        obtain ⟨f, hface, htext⟩ := Option.bind_eq_some_iff.mp h
        rw [faceAt_createDirectory hwrite, hface]
        split
        · exact htext
        · exact htext

/-- A file stays a file, with the text that is written to it or else the text that it had. -/
theorem contentOf_write (hroot : tree.isDirectory "/" = true)
    (h : tree.contentOf path = .ok content) (w : Write) :
    (tree.write w).contentOf path = .ok ((w.textAt? path).getD content) := by
  cases hw : w.textAt? path with
  | none => exact contentOf_write_of_textAt?_eq_none h hw
  | some text => exact contentOf_write_of_textAt? hroot h hw

/-! ## What all writes keep -/

theorem isDirectory_writeAll (h : tree.isDirectory path = true) (writes : List Write) :
    (tree.writeAll writes).isDirectory path = true := by
  induction writes generalizing tree with
  | nil => exact h
  | cons w rest ih => exact ih (isDirectory_write h w)

/-- The text of a file is the last one that was written to it. -/
theorem contentOf_writeAll (hroot : tree.isDirectory "/" = true)
    (h : tree.contentOf path = .ok content) (writes : List Write) :
    (tree.writeAll writes).contentOf path =
      .ok (((writes.filterMap (Write.textAt? path)).getLast?).getD content) := by
  induction writes generalizing tree content with
  | nil => exact h
  | cons w rest ih =>
      have hrest := ih (isDirectory_write hroot w) (contentOf_write hroot h w)
      rw [List.filterMap_cons]
      cases htext : w.textAt? path with
      | none => rw [htext] at hrest; exact hrest
      | some text =>
          rw [htext] at hrest
          dsimp only
          rw [List.getLast?_cons, Option.getD_some]
          exact hrest

end Tree

/-! ## Operations on the store -/

namespace Store

/-- What can be done to the virtual store. -/
inductive Operation where
  | createFile (now : Timestamp) (full content : String)
  | createDirectory (now : Timestamp) (path full : String)
  | upload (u : Upload)
  | clearUploads

/-- Does it. -/
def perform (s : Store) : Operation → Store
  | .createFile now full content => (s.createFile now full content).2
  | .createDirectory now path full => (s.createDirectory now path full).2
  | .upload u => (s.upload u).2
  | .clearUploads => s.clearUploads

/-- Does one after the other. -/
def performAll (s : Store) (operations : List Operation) : Store := operations.foldl perform s

/-- What an operation writes into the tree. -/
def Operation.writes : Operation → List Write
  | .createFile now full content => [.file now full content]
  | .createDirectory now _ full => [.directory now full]
  | .upload u => if u.hasFileName then [.file u.uploaded u.fullPath u.content] else []
  | .clearUploads => []

/-- The texts that operations write to the file at a path, in order. -/
def textsAt (path : String) (operations : List Operation) : List String :=
  (operations.flatMap Operation.writes).filterMap (Write.textAt? path)

theorem tree_createFile_eq_write (s : Store) (now : Timestamp) (full content : String) :
    (s.createFile now full content).2.tree = s.tree.write (.file now full content) := by
  unfold Store.createFile Tree.write Tree.attempt
  dsimp only
  cases s.tree.createFile now full content <;> rfl

theorem tree_createDirectory_eq_write (s : Store) (now : Timestamp) (path full : String) :
    (s.createDirectory now path full).2.tree = s.tree.write (.directory now full) := by
  unfold Store.createDirectory Tree.write Tree.attempt
  dsimp only
  cases s.tree.createDirectory now full <;> rfl

theorem tree_upload_eq_write (s : Store) {u : Upload} (h : u.hasFileName = true) :
    (s.upload u).2.tree = s.tree.write (.file u.uploaded u.fullPath u.content) := by
  unfold Store.upload Tree.write Tree.attempt
  rw [if_pos h]
  dsimp only
  cases s.tree.createFile u.uploaded u.fullPath u.content <;> rfl

theorem upload_of_not_hasFileName (s : Store) {u : Upload} (h : ¬ u.hasFileName = true) :
    s.upload u = (false, s) := by
  unfold Store.upload
  rw [if_neg h]

theorem tree_perform (s : Store) (operation : Operation) :
    (s.perform operation).tree = s.tree.writeAll operation.writes := by
  cases operation with
  | createFile now full content =>
      rw [perform, tree_createFile_eq_write, Operation.writes, Tree.writeAll_singleton]
  | createDirectory now path full =>
      rw [perform, tree_createDirectory_eq_write, Operation.writes, Tree.writeAll_singleton]
  | upload u =>
      rw [perform, Operation.writes]
      by_cases h : u.hasFileName = true
      · rw [if_pos h, tree_upload_eq_write s h, Tree.writeAll_singleton]
      · rw [if_neg h, upload_of_not_hasFileName s h]
        rfl
  | clearUploads => rfl

theorem tree_performAll (s : Store) (operations : List Operation) :
    (s.performAll operations).tree = s.tree.writeAll (operations.flatMap Operation.writes) := by
  induction operations generalizing s with
  | nil => rfl
  | cons operation rest ih =>
      have hrest := ih (s.perform operation)
      rw [tree_perform, Tree.writeAll, Tree.writeAll, ← List.foldl_append] at hrest
      exact hrest

/-- **The stored tree is sound and what is in it stays**: after whatever operations, from the seeded
tree or the empty one, all labels of the stored tree are right and it is the tree of the store; and
after whatever further operations, a directory is a directory still, and a file is a file whose text
is the last one written to it, or else the one it had. -/
theorem sound_and_permanent (mode : Mode) {start : Tree} {now : Timestamp}
    (hstart : start = Seed.tree now ∨ start = Tree.empty now) (before after : List Operation) :
    let s := (Store.new mode start).performAll before
    let stored := (start.stored "/").writeAll (before.flatMap Operation.writes)
    stored.Sound ∧ stored.erase = s.tree ∧
      ∀ path, (s.tree.isDirectory path = true →
          (s.performAll after).tree.isDirectory path = true) ∧
        ∀ text, s.tree.contentOf path = .ok text →
          (s.performAll after).tree.contentOf path =
            .ok ((textsAt path after).getLast?.getD text) := by
  intro s stored
  have hwell : start.WellFormed := by
    rcases hstart with rfl | rfl
    · exact Tree.wellFormed_seed now
    · exact Node.wellFormed_newDirectory now
  have hroot : start.isDirectory "/" = true := by
    rcases hstart with rfl | rfl
    · rfl
    · rfl
  have htree : s.tree = start.writeAll (before.flatMap Operation.writes) :=
    tree_performAll _ before
  have hstays : s.tree.isDirectory "/" = true := htree ▸ Tree.isDirectory_writeAll hroot _
  refine ⟨(hwell.sound_stored "/").writeAll _, ?_,
    fun path => ⟨fun hdir => ?_, fun text hfile => ?_⟩⟩
  · rw [Inode.erase_writeAll, hwell.erase_stored, htree]
  · rw [tree_performAll]
    exact Tree.isDirectory_writeAll hdir _
  · rw [tree_performAll]
    exact Tree.contentOf_writeAll hstays hfile _

/-- The message of the day is written anew, and no directory takes its place. -/
theorem sound_and_permanent_motd :
    let before : List Operation := [.createDirectory ⟨1⟩ "box" "/tmp/box"]
    let after : List Operation := [.createFile ⟨2⟩ "/tmp/../etc/motd" "hello",
      .createDirectory ⟨3⟩ "motd" "/etc/motd", .upload ⟨"box", "x", "/tmp", "", ⟨4⟩⟩]
    let s := (Store.new .remoteDemo (Seed.tree ⟨0⟩)).performAll before
    s.tree.isDirectory "/tmp/box" = true ∧ s.tree.contentOf "/etc/motd" = .ok Seed.motd ∧
      (s.performAll after).tree.isDirectory "/tmp/box" = true ∧
      (s.performAll after).tree.contentOf "/etc/motd" = .ok "hello" := by
  intro before after s
  obtain ⟨-, -, hstays⟩ := sound_and_permanent .remoteDemo (Or.inl rfl) before after
  have hbox : s.tree.isDirectory "/tmp/box" = true := by decide +kernel
  have hmotd : s.tree.contentOf "/etc/motd" = .ok Seed.motd := by decide +kernel
  have htexts : textsAt "/etc/motd" after = ["hello"] := by decide +kernel
  have hafter := (hstays "/etc/motd").2 _ hmotd
  rw [htexts] at hafter
  exact ⟨hbox, hmotd, (hstays "/tmp/box").1 hbox, hafter⟩

end Store

end PlainTerminal
