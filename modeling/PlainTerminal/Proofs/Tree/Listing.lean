import PlainTerminal.Proofs.Tree.WellFormed

/-!
# The name in a row of a listing

A row of a long listing ends with a name. To say so is not enough to know the name from the row, for
names may have blanks in them: the row of `a b` ends like a row of `b`. What settles it is how many
words stand in front, and that they are words. `shownName` reads a row that way.

Most of these words are of the row's own making. But permissions, owner and group are whatever the
tree has, so the rest is an invariant of trees: nothing that is ever written puts anything but a word
there.
-/

namespace PlainTerminal

/-! ## Reading a row -/

namespace Listing

/-- What is left of a text behind its first blanks. -/
def behindBlanks : Nat → List Char → List Char
  | 0, s => s
  | n + 1, s => behindBlanks n ((s.dropWhile fun c => c ≠ ' ').drop 1)

/-- The name that a row shows: permissions, links, owner, group, size, date and time of day stand in
front of it, and the rest of the row is the name. -/
def shownName (row : String) : String := String.ofList (behindBlanks 7 row.toList)

/-- The text has no blank in it, so it fills one column. -/
def IsWord (text : String) : Prop := ' ' ∉ text.toList

instance (text : String) : Decidable (IsWord text) := inferInstanceAs (Decidable (' ' ∉ text.toList))

theorem behindBlanks_word {word : String} (h : IsWord word) (n : Nat) (rest : List Char) :
    behindBlanks (n + 1) (word.toList ++ ' ' :: rest) = behindBlanks n rest := by
  have hword : ∀ c ∈ word.toList, decide (c ≠ ' ') = true := by
    intro c hc
    refine decide_eq_true fun heq => h ?_
    rwa [heq] at hc
  rw [behindBlanks, List.dropWhile_append_of_pos hword, List.dropWhile_cons_of_neg (by decide),
    List.drop_one, List.tail_cons]

theorem isWord_append {first second : String} (hfirst : IsWord first) (hsecond : IsWord second) :
    IsWord (first ++ second) := by
  unfold IsWord
  rw [String.toList_append, List.mem_append]
  exact not_or.mpr ⟨hfirst, hsecond⟩

/-- A number is written without blanks. -/
theorem isWord_toString (n : Nat) : IsWord (toString n) := by
  intro hblank
  rw [Nat.toString_eq_ofList_toDigits, String.toList_ofList] at hblank
  have hdigit := Nat.isDigit_of_mem_toDigits (by decide) (by decide) hblank
  exact absurd hdigit (by decide)

theorem isWord_padded (width : Nat) {fill : Char} (hfill : fill ≠ ' ') (n : Nat) :
    IsWord (Calendar.padded width fill n) := by
  unfold IsWord Calendar.padded
  dsimp only
  rw [String.toList_ofList, List.mem_append, List.mem_replicate]
  rintro (⟨-, hblank⟩ | hblank)
  · exact hfill hblank.symm
  · exact isWord_toString n hblank

theorem isWord_yearText (year : Int) : IsWord (Calendar.yearText year) := by
  have hzero : '0' ≠ ' ' := by decide
  unfold Calendar.yearText
  split
  · exact isWord_padded 4 hzero _
  · refine isWord_append ?_ (isWord_padded 4 hzero _)
    split
    · decide
    · decide

/-- The date and the time of day fill a column each. -/
theorem exists_listingText_eq (t : Timestamp) :
    ∃ date clock, t.listingText = date ++ " " ++ clock ∧ IsWord date ∧ IsWord clock := by
  have hzero : '0' ≠ ' ' := by decide
  have hslash : IsWord "/" := by decide
  have hcolon : IsWord ":" := by decide
  refine ⟨_, _, rfl, ?_, ?_⟩
  · exact isWord_append (isWord_append (isWord_append (isWord_append (isWord_padded 2 hzero _)
      hslash) (isWord_padded 2 hzero _)) hslash) (isWord_yearText _)
  · exact isWord_append (isWord_append (isWord_padded 2 hzero _) hcolon) (isWord_padded 2 hzero _)

/-- **A row shows its name**, blanks in the name or not. -/
theorem shownName_line {permissions owner group : String} (hpermissions : IsWord permissions)
    (howner : IsWord owner) (hgroup : IsWord group) (size : Nat) (modified : Timestamp)
    (name : String) : shownName (line permissions owner group size modified name) = name := by
  obtain ⟨date, clock, htime, hdate, hclock⟩ := exists_listingText_eq modified
  have hone : IsWord "1" := by decide
  have hrow : (line permissions owner group size modified name).toList =
      permissions.toList ++ ' ' :: ("1".toList ++ ' ' :: (owner.toList ++ ' ' ::
        (group.toList ++ ' ' :: ((toString size).toList ++ ' ' :: (date.toList ++ ' ' ::
          (clock.toList ++ ' ' :: name.toList)))))) := by
    have hblank : " ".toList = [' '] := rfl
    have hlinks : " 1 ".toList = ' ' :: ("1".toList ++ [' ']) := rfl
    unfold line
    simp only [htime, String.toList_append, hblank, hlinks, List.append_assoc, List.cons_append,
      List.nil_append]
  rw [shownName, hrow, behindBlanks_word hpermissions, behindBlanks_word hone,
    behindBlanks_word howner, behindBlanks_word hgroup, behindBlanks_word (isWord_toString size),
    behindBlanks_word hdate, behindBlanks_word hclock, behindBlanks, String.ofList_toList]

example : shownName "drwxr-xr-x 1 user user 4096 01/01/1970 00:00 my notes" = "my notes" := by
  decide +kernel

end Listing

/-! ## Trees that are described in words -/

open Listing (IsWord)

/-- What a listing tells of a node in columns of their own is words. -/
structure Face.InWords (face : Face) : Prop where
  permissions : IsWord face.permissions
  owner : IsWord face.owner
  group : IsWord face.group

namespace Node

/-- All that a walk can find is described in words. -/
def InWords (node : Node) : Prop := ∀ segments face, node.faceAt segments = some face → face.InWords

variable {node node' : Node} {a : Attributes} {children : Keyed Node}

theorem InWords.face (h : node.InWords) : node.face.InWords := h [] node.face rfl

theorem inWords_of_below (hface : node.face.InWords)
    (hbelow : ∀ x rest face, node.faceAt (x :: rest) = some face → face.InWords) :
    node.InWords := by
  intro segments face hfind
  cases segments with
  | nil =>
      obtain rfl : node.face = face := Option.some.inj hfind
      exact hface
  | cons x rest => exact hbelow x rest face hfind

theorem inWords_newFile (now : Timestamp) (content : String) : (newFile now content).InWords :=
  inWords_of_below ⟨(by decide : IsWord "-rw-r--r--"), (by decide : IsWord "root"),
    (by decide : IsWord "root")⟩ nofun

theorem inWords_newDirectory (now : Timestamp) : (newDirectory now).InWords :=
  inWords_of_below ⟨(by decide : IsWord "drwxr-xr-x"), (by decide : IsWord "root"),
    (by decide : IsWord "root")⟩ nofun

theorem InWords.owned (h : node.InWords) {owner group : String} (howner : IsWord owner)
    (hgroup : IsWord group) : (node.owned owner group).InWords := by
  cases node with
  | file a content => exact inWords_of_below ⟨h.face.permissions, howner, hgroup⟩ nofun
  | directory a children =>
      exact inWords_of_below ⟨h.face.permissions, howner, hgroup⟩ fun x rest => h (x :: rest)

theorem InWords.permitted (h : node.InWords) {permissions : String}
    (hpermissions : IsWord permissions) : (node.permitted permissions).InWords := by
  cases node with
  | file a content => exact inWords_of_below ⟨hpermissions, h.face.owner, h.face.group⟩ nofun
  | directory a children =>
      exact inWords_of_below ⟨hpermissions, h.face.owner, h.face.group⟩ fun x rest => h (x :: rest)

theorem InWords.insert (h : (directory a children).InWords) (hnode : node.InWords)
    (name : String) : (directory a (Keyed.insert children name node)).InWords := by
  refine inWords_of_below h.face fun x rest face hfind => ?_
  rw [faceAt, find?_directory_cons, Keyed.find?_insert] at hfind
  split at hfind
  · exact hnode rest face hfind
  · refine h (x :: rest) face ?_
    rwa [faceAt, find?_directory_cons]

theorem InWords.withChildren (h : node.InWords) {more : List (String × Node)}
    (hmore : ∀ e ∈ more, e.2.InWords) : (node.withChildren more).InWords := by
  cases node with
  | file a content => exact h
  | directory a children =>
      unfold Node.withChildren
      dsimp only
      induction more generalizing children with
      | nil => exact h
      | cons e rest ih =>
          obtain ⟨hfirst, hrest⟩ := List.forall_mem_cons.mp hmore
          exact ih hrest _ (h.insert hfirst e.1)

/-- A file of somebody whose name is a word. -/
theorem inWords_ownedFile {owner : String} (howner : IsWord owner) (now : Timestamp)
    (content : String) : ((newFile now content).owned owner owner).InWords :=
  (inWords_newFile now content).owned howner howner

/-- A directory of somebody whose name is a word. -/
theorem inWords_ownedDirectory {owner : String} (howner : IsWord owner) (now : Timestamp)
    {children : List (String × Node)} (h : ∀ e ∈ children, e.2.InWords) :
    (((newDirectory now).owned owner owner).withChildren children).InWords :=
  ((inWords_newDirectory now).owned howner howner).withChildren h

end Node

namespace Tree

open Node

variable {tree tree' : Tree} {now : Timestamp} {path content : String}

/-! ### The tree at the start -/

theorem inWords_gamesTree (now : Timestamp) : (Challenge.gamesTree now).InWords := by
  have hgames : IsWord "games" := by decide
  have hfile : ∀ content, (Challenge.gameFile now content).InWords := inWords_ownedFile hgames now
  refine inWords_ownedDirectory hgames now ?_
  simp only [List.mem_cons, List.not_mem_nil, or_false, forall_eq_or_imp, forall_eq, hfile,
    true_and, and_true]
  refine ⟨(hfile _).permitted (by decide), inWords_ownedDirectory hgames now ?_,
    (inWords_ownedDirectory hgames now ?_).permitted (by decide),
    (inWords_ownedDirectory hgames now ?_).permitted (by decide)⟩
  · simp only [List.mem_cons, List.not_mem_nil, or_false, forall_eq_or_imp, forall_eq, hfile,
      true_and]
    exact (hfile _).permitted (by decide)
  · simp only [List.mem_cons, List.not_mem_nil, or_false, forall_eq_or_imp, forall_eq, hfile,
      and_true]
    exact (hfile _).permitted (by decide)
  · simp only [List.mem_cons, List.not_mem_nil, or_false, forall_eq, hfile]

theorem inWords_home (now : Timestamp) : (Seed.home now).InWords := by
  have huser : IsWord "user" := by decide
  have hfile : ∀ content, (Seed.userFile now content).InWords := inWords_ownedFile huser now
  refine inWords_ownedDirectory huser now ?_
  simp only [List.mem_cons, List.not_mem_nil, or_false, forall_eq_or_imp, forall_eq, hfile,
    true_and]
  refine ⟨inWords_ownedDirectory huser now ?_, (hfile _).permitted (by decide)⟩
  simp only [List.mem_cons, List.not_mem_nil, or_false, forall_eq_or_imp, forall_eq, hfile,
    true_and]
  exact (hfile _).permitted (by decide)

theorem inWords_retro (now : Timestamp) : (Seed.retro now).InWords := by
  have hgames : IsWord "games" := by decide
  refine inWords_ownedDirectory hgames now ?_
  simp only [List.mem_cons, List.not_mem_nil, or_false, forall_eq_or_imp, forall_eq,
    inWords_ownedFile hgames, and_self]

theorem inWords_seed (now : Timestamp) : (Seed.tree now).InWords := by
  have hdirectory : ∀ {children : List (String × Node)}, (∀ e ∈ children, e.2.InWords) →
      (Seed.systemDirectory now children).InWords :=
    fun h => (inWords_newDirectory now).withChildren h
  have hsingle : ∀ {name : String} {node : Node}, node.InWords →
      (Seed.systemDirectory now [(name, node)]).InWords :=
    fun h => hdirectory (List.forall_mem_singleton.mpr h)
  refine hdirectory ?_
  simp only [List.mem_cons, List.not_mem_nil, or_false, forall_eq_or_imp, forall_eq]
  refine ⟨hsingle (inWords_home now), hsingle (inWords_gamesTree now),
    hsingle (inWords_retro now), hdirectory ?_, ?_⟩
  · simp only [List.mem_cons, List.not_mem_nil, or_false, forall_eq_or_imp, forall_eq,
      inWords_newFile, and_self]
  · refine ((inWords_newDirectory now).permitted (by decide)).withChildren ?_
    simp only [List.mem_cons, List.not_mem_nil, or_false, forall_eq]
    exact (inWords_ownedFile (by decide) now _).permitted (by decide)

/-! ### Writes -/

/-- What is written is told in the words of the file that was there, or in those of a new one. -/
theorem inWords_createFile (h : tree.InWords)
    (hwrite : tree.createFile now path content = .ok tree') : tree'.InWords := by
  intro q face hface
  rw [faceAt_createFile hwrite] at hface
  split at hface
  · obtain rfl := Option.some.inj hface
    cases hold : tree.faceAt q with
    | none => exact (inWords_ownedFile (by decide) now content).face
    | some old =>
        have hwords := h q old hold
        exact ⟨hwords.permissions, hwords.owner, hwords.group⟩
  · exact h q face hface

theorem inWords_createDirectory (h : tree.InWords)
    (hwrite : tree.createDirectory now path = .ok tree') : tree'.InWords := by
  intro q face hface
  rw [faceAt_createDirectory hwrite] at hface
  split at hface
  · obtain rfl := Option.some.inj hface
    cases hold : tree.faceAt q with
    | none => exact ((inWords_newDirectory now).owned (by decide) (by decide)).face
    | some old => exact h q old hold
  · exact h q face hface

/-- **Every tree that writes can build is described in words.** -/
theorem Reachable.inWords (h : tree.Reachable) : tree.InWords := by
  induction h with
  | seeded now => exact inWords_seed now
  | empty now => exact inWords_newDirectory now
  | createFile _ hwrite ih => exact inWords_createFile ih hwrite
  | createDirectory _ hwrite ih => exact inWords_createDirectory ih hwrite

/-- In a listing of such a tree, the row of a node shows the name that it is listed under. -/
theorem Reachable.shownName_ofNode (h : tree.Reachable) {segments : List String} {node : Node}
    (hfind : tree.find? segments = some node) (name : String) :
    Listing.shownName (Listing.ofNode name node) = name := by
  have hface : tree.faceAt segments = some node.face := by
    rw [faceAt, hfind]
    rfl
  have hwords := h.inWords segments node.face hface
  exact Listing.shownName_line hwords.permissions hwords.owner hwords.group _ _ name

end Tree

end PlainTerminal
