import PlainTerminal.Proofs.Challenge.Seeded
import PlainTerminal.Proofs.Resolution
import PlainTerminal.Proofs.Router.Confinement

/-!
# What writes do to the challenge

A write outside the challenge leaves it as it is, however the place is spelt, as long as the home
directory is canonical. A series of uploads asks no such question. It changes the challenge exactly
if the last text stored at some place of it, which has to be a name in one of its directories and no
directory itself, is not the text that belongs there.
-/

namespace PlainTerminal.Challenge

variable {tree tree' : Tree} {home : String}

/-! ## Writes outside -/

/-- Outside the challenge is away from all its segments. -/
theorem append_ne_segments {place : String} (hplace : Path.IsCanonical place)
    (hout : contains place = false) (below : List String) :
    rootSegments ++ below ≠ Path.segments "/" place := by
  intro heq
  rw [Bool.eq_false_iff, ne_eq, contains_iff hplace] at hout
  exact hout ⟨below, heq⟩

theorem Intact.outsideWrite (h : Intact tree) (hhome : Path.IsCanonical home)
    (hw : Tree.OutsideWrite home tree tree') : Intact tree' := by
  intro below
  cases hw with
  | file now path cwd content hout hwrite =>
      have hne := append_ne_segments (Store.isCanonical_resolvePath hhome path cwd) hout below
      rw [Tree.faceAt_createFile hwrite, if_neg hne, h]
  | directory now path cwd hout hwrite =>
      have hne := append_ne_segments (Store.isCanonical_resolvePath hhome path cwd) hout below
      rw [Tree.faceAt_createDirectory hwrite, if_neg hne, h]

theorem Intact.outsideWrites (h : Intact tree) (hhome : Path.IsCanonical home)
    (hw : Relation.ReflTransGen (Tree.OutsideWrite home) tree tree') : Intact tree' := by
  induction hw with
  | refl => exact h
  | tail _ hw ih => exact ih.outsideWrite hhome hw

/-! ## Stored texts -/

/-- A file can be written below the challenge: under a name in one of its directories that is not
the name of a directory. -/
def Writable (below : List String) : Prop :=
  below ≠ [] ∧ ((face? below.dropLast).any Face.isDirectory) = true ∧
    ((face? below).any Face.isDirectory) = false

instance (below : List String) : Decidable (Writable below) :=
  inferInstanceAs (Decidable (_ ∧ _ ∧ _))

/-- The text that is stored last at a place. -/
def lastText (place : List String) : List (String × String) → Option String
  | [] => none
  | (path, text) :: rest =>
    (lastText place rest).or (if Path.segments "/" path = place then some text else none)

/-- Some of the texts, each with its path, do not belong where they are stored last. -/
def Spoils (texts : List (String × String)) : Prop :=
  ∃ below text, Writable below ∧ lastText (rootSegments ++ below) texts = some text ∧
    (face? below).bind Face.content? ≠ some text

/-- The tree with a text stored in it, if it allows that. -/
def attempt (tree : Tree) (now : Timestamp) (path text : String) : Tree :=
  match tree.createFile now path text with
  | .ok tree' => tree'
  | .error _ => tree

/-- The tree with texts stored in it one after the other, each at its time. -/
def storeAll : Tree → List (Timestamp × String × String) → Tree
  | tree, [] => tree
  | tree, (now, path, text) :: rest => storeAll (attempt tree now path text) rest

theorem storeAll_cons (now : Timestamp) (path text : String)
    (rest : List (Timestamp × String × String)) :
    storeAll tree ((now, path, text) :: rest) = storeAll (attempt tree now path text) rest := rfl

/-- The directories of the challenge are where they are to be. Files are not spoken of: this is what
remains true while they are overwritten. -/
def Shaped (tree : Tree) : Prop := ∀ below,
  ((tree.faceAt (rootSegments ++ below)).any Face.isDirectory)
    = ((face? below).any Face.isDirectory)

theorem Intact.shaped (h : Intact tree) : Shaped tree := fun below => by rw [h]

theorem isDirectory_written {old : Option Face} {text : String}
    (h : (old.any Face.isDirectory) = false) :
    (some (Face.written old text)).any Face.isDirectory = false := by
  cases old with
  | none => rfl
  | some f => exact h

theorem written_written (old : Option Face) (text text' : String) :
    Face.written (some (Face.written old text)) text' = Face.written old text' := by
  cases old <;> rfl

theorem content?_written (old : Option Face) (text : String) :
    (some (Face.written old text)).bind Face.content? = some text := by
  cases old <;> rfl

/-- To write a file's own text changes no face. -/
theorem written_eq_self {below : List String} {text : String}
    (h : (face? below).bind Face.content? = some text) :
    some (Face.written (face? below) text) = face? below := by
  cases hface : face? below with
  | none => rw [hface] at h; cases h
  | some f =>
      rw [hface, Option.bind_some] at h
      obtain ⟨node, -, hnode⟩ := Option.map_eq_some_iff.mp hface
      have hsize : f.size = text.utf8ByteSize := by
        rw [← hnode] at h ⊢
        exact Node.size_of_face h
      rw [Face.written, ← hsize, ← h]

theorem writable_iff_exists_createFile (h : Shaped tree) {path : String} {below : List String}
    (hpath : Path.segments "/" path = rootSegments ++ below) (now : Timestamp) (text : String) :
    Writable below ↔ ∃ tree', tree.createFile now path text = .ok tree' := by
  rw [Tree.exists_createFile_iff, hpath, h below]
  by_cases hbelow : below = []
  · -- The challenge itself is a directory, so no file can be written in its place.
    subst hbelow
    have hroot : ((face? []).any Face.isDirectory) = true := by decide +kernel
    refine iff_of_false (fun hw => hw.1 rfl) fun hw => ?_
    rw [hroot] at hw
    exact absurd hw.2.2 (by decide)
  · rw [List.dropLast_append_of_ne_nil hbelow, h below.dropLast]
    unfold Writable
    simp [hbelow]

/-- What an attempt to store a text does to a face of the challenge. -/
theorem faceAt_attempt (h : Shaped tree) (now : Timestamp) (path text : String)
    (below : List String) :
    (attempt tree now path text).faceAt (rootSegments ++ below)
      = if Path.segments "/" path = rootSegments ++ below ∧ Writable below then
          some (Face.written (tree.faceAt (rootSegments ++ below)) text)
        else tree.faceAt (rootSegments ++ below) := by
  unfold attempt
  by_cases hpath : Path.segments "/" path = rootSegments ++ below
  · have hwritable := writable_iff_exists_createFile h hpath now text
    cases hw : tree.createFile now path text with
    | ok tree' =>
        dsimp only
        rw [if_pos ⟨hpath, hwritable.mpr ⟨tree', hw⟩⟩, Tree.faceAt_createFile hw,
          if_pos hpath.symm]
    | error e =>
        refine (if_neg fun hboth => ?_).symm
        obtain ⟨tree', hok⟩ := hwritable.mp hboth.2
        rw [hw] at hok
        cases hok
  · rw [if_neg fun hboth => hpath hboth.1]
    cases hw : tree.createFile now path text with
    | ok tree' =>
        dsimp only
        rw [Tree.faceAt_createFile hw, if_neg fun heq => hpath heq.symm]
    | error e => rfl

theorem Shaped.attempt (h : Shaped tree) (now : Timestamp) (path text : String) :
    Shaped (attempt tree now path text) := by
  intro below
  rw [faceAt_attempt h]
  split
  · rename_i hboth
    rw [isDirectory_written (by rw [h below]; exact hboth.2.2.2), hboth.2.2.2]
  · exact h below

/-- **The last text stored at a place is the one that is there**, if one can be there. -/
theorem faceAt_storeAll (h : Shaped tree) (writes : List (Timestamp × String × String))
    (below : List String) :
    (storeAll tree writes).faceAt (rootSegments ++ below)
      = match lastText (rootSegments ++ below) (writes.map Prod.snd) with
        | some text =>
          if Writable below then
            some (Face.written (tree.faceAt (rootSegments ++ below)) text)
          else tree.faceAt (rootSegments ++ below)
        | none => tree.faceAt (rootSegments ++ below) := by
  induction writes generalizing tree with
  | nil => rfl
  | cons w rest ih =>
      obtain ⟨now, path, text⟩ := w
      rw [storeAll_cons, ih (h.attempt now path text), faceAt_attempt h, List.map_cons, lastText]
      by_cases hw : Writable below
      · by_cases hpath : Path.segments "/" path = rootSegments ++ below
        · rw [if_pos ⟨hpath, hw⟩, if_pos hpath]
          -- A later text for the same place hides this one.
          cases lastText (rootSegments ++ below) (rest.map Prod.snd) with
          | none => exact (if_pos hw).symm
          | some last =>
              rw [Option.some_or]
              dsimp only
              rw [if_pos hw, if_pos hw, written_written]
        · rw [if_neg fun hboth => hpath hboth.1, if_neg hpath, Option.or_none]
      · rw [if_neg fun hboth => hw hboth.2]
        simp only [if_neg hw]
        split <;> split <;> rfl

/-- **Stored texts change the challenge exactly if they spoil it.** -/
theorem Intact.storeAll_iff (h : Intact tree) (writes : List (Timestamp × String × String)) :
    Intact (storeAll tree writes) ↔ ¬ Spoils (writes.map Prod.snd) := by
  constructor
  · rintro hintact ⟨below, text, hw, hlast, hne⟩
    have hface := hintact below
    rw [faceAt_storeAll h.shaped, hlast] at hface
    dsimp only at hface
    rw [if_pos hw, h below] at hface
    apply hne
    rw [← hface]
    exact content?_written _ _
  · intro hspoils below
    rw [faceAt_storeAll h.shaped]
    split
    · rename_i text hlast
      split
      · rename_i hw
        rw [h below]
        refine written_eq_self ?_
        by_contra hne
        exact hspoils ⟨below, text, hw, hlast, hne⟩
      · exact h below
    · exact h below

end PlainTerminal.Challenge
