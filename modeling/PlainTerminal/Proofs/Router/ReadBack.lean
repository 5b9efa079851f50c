import Mathlib.Data.List.Forall2
import PlainTerminal.Proofs.Router.Commands
import PlainTerminal.Proofs.Router.Dispatch
import PlainTerminal.Proofs.Tree.FiniteMap

/-!
# Reading back what was written

In the demo a file that has been written reads as it was written, and appended lines are seen at the
end of a file, unless an upload has been stored under the path: reads look at the uploads first and
writes go to the tree alone, so an upload hides every write to its path that comes after it. The
statements say so exactly, as equivalences.
-/

namespace PlainTerminal

open Dialogue Session

theorem FileResult.success_toCommand (r : FileResult) : r.toCommand.success = r.success := by
  unfold FileResult.toCommand
  split
  · rename_i hsuccess
    exact hsuccess.symm
  · rename_i hsuccess
    exact (Bool.eq_false_iff.mpr hsuccess).symm

namespace Store

variable {store : Store} {full content : String} {now : Timestamp}

theorem createFile_keeps (store : Store) (now : Timestamp) (full content : String) :
    (store.createFile now full content).2.mode = store.mode ∧
      (store.createFile now full content).2.uploads = store.uploads := by
  unfold Store.createFile
  split
  · exact ⟨rfl, rfl⟩
  · exact ⟨rfl, rfl⟩

theorem tree_createFile (h : (store.createFile now full content).1.success = true) :
    store.tree.createFile now full content = .ok (store.createFile now full content).2.tree := by
  unfold Store.createFile at h ⊢
  cases htree : store.tree.createFile now full content with
  | ok tree => rfl
  | error e =>
      rw [htree] at h
      cases h

/-- A write succeeds at a name in a directory, unless there is a directory of that name. -/
theorem success_createFile_iff : (store.createFile now full content).1.success = true ↔
    Path.normalize "/" full ≠ "/" ∧ store.tree.isDirectory (Path.parent full) = true ∧
      store.tree.isDirectory full = false := by
  rw [← Tree.exists_createFile_iff_isDirectory store.tree now full content]
  unfold Store.createFile
  cases store.tree.createFile now full content with
  | ok tree => exact iff_of_true rfl ⟨tree, rfl⟩
  | error e => exact iff_of_false Bool.false_ne_true nofun

/-- A write prints nothing. -/
theorem stdout_createFile : (store.createFile now full content).1.toCommand.stdout = "" := by
  unfold Store.createFile
  cases store.tree.createFile now full content <;> rfl

/-- After a write, reads show what was written or the upload that hides it. -/
theorem content?_createFile (h : (store.createFile now full content).1.success = true) :
    (store.createFile now full content).2.content? full
      = some (((Keyed.find? store.uploads full).map Upload.content).getD content) := by
  unfold Store.content?
  rw [(createFile_keeps store now full content).2]
  cases Keyed.find? store.uploads full with
  | some u => rfl
  | none =>
      dsimp only
      rw [Tree.contentOf_createFile (tree_createFile h)]
      rfl

theorem content_read (path : String) : (store.read path full).content = store.content? full := by
  unfold Store.read
  split
  · rename_i hcontent
    exact hcontent.symm
  · rename_i hcontent
    exact hcontent.symm

theorem stdout_read (path : String) :
    (store.read path full).toCommand.stdout = (store.content? full).getD "" := by
  rw [← content_read path]
  unfold FileResult.toCommand
  split
  · rfl
  · rfl

theorem read_eq_iff {path content' : String} (h : store.content? full = some content) :
    store.read path full = .simulated content' ↔ content = content' := by
  unfold Store.read
  rw [h]
  constructor
  · intro heq
    exact Option.some.inj (congrArg FileResult.content heq)
  · rintro rfl
    rfl

theorem read_createFile_iff (path : String)
    (h : (store.createFile now full content).1.success = true) :
    (store.createFile now full content).2.read path full = .simulated content ↔
      ∀ u, Keyed.find? store.uploads full = some u → u.content = content := by
  rw [read_eq_iff (content?_createFile h)]
  cases Keyed.find? store.uploads full with
  | none => simp
  | some u => simp

end Store

namespace Router

variable {s : Session} {path : String} {asks : Question → Prop}

theorem ensuresFrom_createFile {post : FileResult → Session → Prop} {content : String}
    (hsim : s.store.isSimulated = true) :
    EnsuresFrom asks post s (createFile path content) ↔ now.Ensures asks fun now =>
      post (s.store.createFile now (s.placeOf path) content).1
        { s with store := (s.store.createFile now (s.placeOf path) content).2 } := by
  unfold createFile
  rw [ensuresFrom_bind, ensuresFrom_get, if_pos hsim, ensuresFrom_bind, ensuresFrom_lift]
  simp only [ensuresFrom_bind, ensuresFrom_set, ensuresFrom_pure]

/-! ## What `cat` shows -/

/-- The text that `cat` prints for a file; nothing if it cannot be read. -/
def shown (path : String) : Action String := do
  return (← route ("cat " ++ path) none).result.stdout

theorem splitAtBlank_cat (h : Text.IsWord path.toList) :
    Text.splitAtBlank (Text.trim ("cat " ++ path)) = ("cat", path) := by
  have htrim := Text.trim_word h
  rw [String.ofList_toList] at htrim
  exact Text.splitAtBlank_command (by decide) (by decide) htrim

theorem run_catOne (hsim : s.store.isSimulated = true)
    (hout : Challenge.contains (s.placeOf path) = false) :
    (catOne path).run s
      = done (.simulated (s.store.read path (s.placeOf path)).toCommand, s) := by
  unfold catOne
  rw [StateT.run_bind, StateT.run_get]
  show StateT.run (if Challenge.contains (s.placeOf path) = true then _ else _) s = _
  rw [if_neg (by rw [hout]; decide), StateT.run_bind, run_contentOf hsim]
  unfold Store.read
  split
  · rfl
  · rfl

/-- In the demo, `cat` with one file outside the challenge reads it from the store. -/
theorem run_route_cat (hsim : s.store.isSimulated = true) (hword : Text.IsWord path.toList)
    (hout : Challenge.contains (s.placeOf path) = false) :
    (route ("cat " ++ path) none).run s
      = done (⟨(s.store.read path (s.placeOf path)).toCommand, s.cwd, true⟩, s) := by
  have hwords := Text.words_word hword
  rw [String.ofList_toList] at hwords
  have hread : (cat path).run s
      = done (.simulated (s.store.read path (s.placeOf path)).toCommand, s) := by
    unfold cat
    rw [StateT.run_bind, StateT.run_get, hwords]
    exact run_catOne hsim hout
  rw [route_eq, dispatch_cat (splitAtBlank_cat hword), StateT.run_bind, StateT.run_bind, hread]
  rfl

/-- What is shown of a file is what reading that one file prints. -/
theorem ensuresFrom_shown_iff {post : String → Session → Prop}
    (hword : Text.IsWord path.toList) :
    EnsuresFrom asks post s (shown path) ↔
      EnsuresFrom asks (fun o s' => post o.result.stdout s') s (catOne path) := by
  have hwords := Text.words_word hword
  rw [String.ofList_toList] at hwords
  unfold shown
  rw [ensuresFrom_bind, ensuresFrom_route, dispatch_cat (splitAtBlank_cat hword)]
  unfold cat
  rw [ensuresFrom_bind, ensuresFrom_bind, ensuresFrom_get, hwords]
  dsimp only
  simp only [ensuresFrom_pure]
  exact Iff.rfl

theorem ensuresFrom_shown {post : String → Session → Prop}
    (hsim : s.store.isSimulated = true) (hword : Text.IsWord path.toList)
    (hout : Challenge.contains (s.placeOf path) = false) :
    EnsuresFrom asks post s (shown path) ↔
      post ((s.store.content? (s.placeOf path)).getD "") s := by
  rw [ensuresFrom_shown_iff hword, ensuresFrom_of_run (run_catOne hsim hout)]
  show post (s.store.read path (s.placeOf path)).toCommand.stdout s ↔ _
  rw [Store.stdout_read]

/-- Looking at a file, wherever it is, leaves the terminal where it is and the files as they are. -/
theorem ensuresFrom_shown_still (hsim : s.store.isSimulated = true)
    (hword : Text.IsWord path.toList) :
    EnsuresFrom (fun _ => True) (fun _ s' => s.Still s') s (shown path) := by
  by_cases hin : Challenge.contains (s.placeOf path) = true
  · rw [ensuresFrom_shown_iff hword]
    unfold catOne
    rw [ensuresFrom_bind, ensuresFrom_get]
    dsimp only
    rw [if_pos hin]
    exact EnsuresFrom.mono (quiet_catChallenge path _) (fun _ _ => trivial) fun _ _ ho => ho.1
  · rw [ensuresFrom_shown hsim hword (Bool.eq_false_iff.mpr hin)]
    exact Still.refl s

/-! ## Appending a line -/

/-- A file of the challenge is not written, and nothing else happens. -/
theorem run_refused {command : String} {write : Redirect.Write}
    (hparse : Redirect.parse? (Text.trim command) = some write)
    (hin : Challenge.contains (s.placeOf write.path) = true) :
    (route command none).run s = done (⟨.failure
      ("echo: cannot write '" ++ write.path ++ "': Permission denied") 1, s.cwd, true⟩, s) := by
  have hrefused : challengeRefusal s "echo" write.path
      = some ("echo: cannot write '" ++ write.path ++ "': Permission denied") := by
    rw [challengeRefusal, if_pos hin]
    rfl
  rw [route_eq, dispatch_redirect hparse, StateT.run_bind, StateT.run_bind]
  unfold redirect
  rw [StateT.run_bind, StateT.run_get, pure_bind]
  dsimp only
  rw [hrefused]
  rfl

/-- What a write keeps of the text that its file has: an appended line goes behind all of it. -/
def kept : Redirect.Operator → String → String
  | .overwrite, _ => ""
  | .append, content => content

/-- The text that a write gives its file. -/
def written (s : Session) (write : Redirect.Write) : String :=
  kept write.operator ((s.store.content? (s.placeOf write.path)).getD "") ++
    Redirect.unquote write.text ++ "\n"

/-- In the demo, to write to a file outside the challenge is to write to the store. -/
theorem ensuresFrom_write {post : ExecutionResult → Session → Prop} {command : String}
    {write : Redirect.Write} (hparse : Redirect.parse? (Text.trim command) = some write)
    (hsim : s.store.isSimulated = true)
    (hout : Challenge.contains (s.placeOf write.path) = false) :
    EnsuresFrom asks post s (route command none) ↔ now.Ensures asks fun now =>
      post ⟨(s.store.createFile now (s.placeOf write.path) (written s write)).1.toCommand, s.cwd,
          true⟩
        { s with
          store := (s.store.createFile now (s.placeOf write.path) (written s write)).2 } := by
  rw [ensuresFrom_route, dispatch_redirect hparse, ensuresFrom_bind]
  unfold redirect written kept
  rw [ensuresFrom_bind, ensuresFrom_get, challengeRefusal, if_neg (by rw [hout]; decide)]
  dsimp only
  rw [if_pos hsim]
  cases write.operator with
  | overwrite =>
      dsimp only
      rw [pure_bind, ensuresFrom_bind, ensuresFrom_createFile hsim]
      simp only [ensuresFrom_pure]
      refine ensures_congr fun now => ?_
      generalize s.store.createFile now (s.placeOf write.path) _ = created
      exact Iff.rfl
  | append =>
      dsimp only
      rw [ensuresFrom_bind, ensuresFrom_of_run (run_contentOf hsim), pure_bind, ensuresFrom_bind,
        ensuresFrom_createFile hsim, Store.content_read]
      simp only [ensuresFrom_pure]
      refine ensures_congr fun now => ?_
      generalize s.store.createFile now (s.placeOf write.path) _ = created
      exact Iff.rfl

/-- Texts as lines of a file. -/
def lines : List String → String
  | [] => ""
  | text :: rest => Redirect.unquote text ++ "\n" ++ lines rest

/-- What appending a line comes to: nothing but the file changes, and if it succeeds the file reads
with the new line, or as the upload that hides it. -/
theorem ensuresFrom_append {command text : String}
    (hparse : Redirect.parse? (Text.trim command) = some ⟨text, .append, path⟩)
    (hsim : s.store.isSimulated = true) (hout : Challenge.contains (s.placeOf path) = false) :
    EnsuresFrom (fun _ => True) (fun r s' =>
      s'.placeOf path = s.placeOf path ∧ s'.store.isSimulated = true ∧
      s'.store.uploads = s.store.uploads ∧
      (r.success = true → s'.store.content? (s.placeOf path)
        = some (((Keyed.find? s.store.uploads (s.placeOf path)).map Upload.content).getD
            ((s.store.content? (s.placeOf path)).getD "" ++ Redirect.unquote text ++ "\n"))))
      s (route command none) := by
  rw [ensuresFrom_write hparse hsim hout]
  refine ensures_ask.mpr ⟨trivial, fun now => ensures_done.mpr ?_⟩
  unfold written kept
  dsimp only
  generalize (s.store.content? (s.placeOf path)).getD "" ++ Redirect.unquote text ++ "\n" = new
  obtain ⟨hmode, huploads⟩ := Store.createFile_keeps s.store now (s.placeOf path) new
  have hcontent := @Store.content?_createFile s.store (s.placeOf path) new now
  -- Of the store after the write no more is used than this.
  generalize s.store.createFile now (s.placeOf path) new = created at hmode huploads hcontent ⊢
  refine ⟨rfl, ?_, huploads, fun hsuccess => hcontent ?_⟩
  · rw [Store.isSimulated, hmode]
    exact hsim
  · rw [← FileResult.success_toCommand]
    exact hsuccess

/-- What appending lines one after the other comes to. -/
theorem ensuresFrom_appends {commands texts : List String}
    (hparse : List.Forall₂ (fun command text =>
      Redirect.parse? (Text.trim command) = some ⟨text, .append, path⟩) commands texts)
    (hsim : s.store.isSimulated = true) (hout : Challenge.contains (s.placeOf path) = false) :
    EnsuresFrom (fun _ => True) (fun results s' =>
      s'.placeOf path = s.placeOf path ∧ s'.store.isSimulated = true ∧
      ((∀ r ∈ results, r.success = true) → (s'.store.content? (s.placeOf path)).getD ""
        = ((Keyed.find? s.store.uploads (s.placeOf path)).map Upload.content).getD
            ((s.store.content? (s.placeOf path)).getD "" ++ lines texts)))
      s (commands.mapM fun command => route command none) := by
  induction hparse generalizing s with
  | nil =>
      rw [List.mapM_nil, ensuresFrom_pure]
      refine ⟨rfl, hsim, fun _ => ?_⟩
      -- Without lines the file reads as before, be it from the tree or from an upload.
      unfold Store.content? lines
      cases Keyed.find? s.store.uploads (s.placeOf path) with
      | none => exact String.append_empty.symm
      | some u => rfl
  | cons hcommand _ ih =>
      rw [List.mapM_cons, ensuresFrom_bind]
      refine (ensuresFrom_append hcommand hsim hout).mono (fun _ hq => hq) fun r s' hr => ?_
      obtain ⟨hplace, hsim', huploads, hcontent⟩ := hr
      rw [ensuresFrom_bind]
      refine (ih hsim' (by rw [hplace]; exact hout)).mono (fun _ hq => hq) fun rs s'' hrs => ?_
      obtain ⟨hplace', hsim'', hcontent'⟩ := hrs
      rw [ensuresFrom_pure]
      refine ⟨hplace'.trans hplace, hsim'', fun hall => ?_⟩
      have hhead := hcontent (hall r List.mem_cons_self)
      have htail := hcontent' fun q hq => hall q (List.mem_cons_of_mem _ hq)
      rw [hplace, huploads, hhead, Option.getD_some] at htail
      rw [htail]
      -- An upload hides the first line and all further ones.
      cases Keyed.find? s.store.uploads (s.placeOf path) with
      | none => simp only [Option.map_none, Option.getD_none, lines, String.append_assoc]
      | some u => rfl

/-- The text that a file shows before some commands, what they come to, and the text that it shows
afterwards. -/
def shownAround (path : String) (commands : List String) :
    Action (String × List ExecutionResult × String) := do
  let before ← shown path
  let results ← commands.mapM fun command => route command none
  let after ← shown path
  return (before, results, after)

/-- A line at the end of a text is seen. -/
theorem ne_append_lines (content text : String) (rest : List String) :
    content ≠ content ++ lines (text :: rest) := by
  intro heq
  have hlength := congrArg String.length heq
  have hline : "\n".length = 1 := rfl
  rw [lines, String.length_append, String.length_append, String.length_append] at hlength
  omega

theorem ensuresFrom_shownAround {commands texts : List String}
    (hsim : s.store.isSimulated = true) (hne : commands ≠ [])
    (hparse : List.Forall₂ (fun command text =>
      Redirect.parse? (Text.trim command) = some ⟨text, .append, path⟩) commands texts) :
    EnsuresFrom (fun _ => True) (fun (before, results, after) _ =>
      (∀ r ∈ results, r.success = true) →
        (after = before ++ lines texts ↔ Keyed.find? s.store.uploads (s.placeOf path) = none))
      s (shownAround path commands) := by
  obtain ⟨command, rest, rfl⟩ := List.exists_cons_of_ne_nil hne
  obtain ⟨text, texts, hfirst, hrest, rfl⟩ := List.forall₂_cons_left_iff.mp hparse
  have hword : Text.IsWord path.toList := Redirect.isWord_of_parse? hfirst
  unfold shownAround
  rw [ensuresFrom_bind]
  by_cases hin : Challenge.contains (s.placeOf path) = true
  · -- The first command is refused, so not all succeed.
    refine (ensuresFrom_shown_still hsim hword).mono (fun _ hq => hq) fun before s' hs' => ?_
    have hplace : s'.placeOf path = s.placeOf path := hs'.placeOf path
    rw [List.mapM_cons, LawfulMonad.bind_assoc, ensuresFrom_bind,
      ensuresFrom_of_run (run_refused hfirst (by rw [hplace]; exact hin)),
      LawfulMonad.bind_assoc, ensuresFrom_bind]
    refine (ensuresFrom_true _ s').mono (fun _ hq => hq) fun rs s'' _ => ?_
    rw [pure_bind, ensuresFrom_bind]
    refine (ensuresFrom_true _ s'').mono (fun _ hq => hq) fun after s₃ _ => ?_
    refine ensuresFrom_pure.mpr fun hall => ?_
    cases hall _ List.mem_cons_self
  · have hout : Challenge.contains (s.placeOf path) = false := Bool.eq_false_iff.mpr hin
    rw [ensuresFrom_shown hsim hword hout, ensuresFrom_bind]
    refine (ensuresFrom_appends hparse hsim hout).mono (fun _ hq => hq) fun results s' hs' => ?_
    obtain ⟨hplace, hsim', hcontent⟩ := hs'
    rw [ensuresFrom_bind, ensuresFrom_shown hsim' hword (by rw [hplace]; exact hout),
      ensuresFrom_pure]
    intro hall
    rw [hplace, hcontent hall]
    unfold Store.content?
    cases Keyed.find? s.store.uploads (s.placeOf path) with
    | none => exact iff_of_true rfl rfl
    | some u => exact iff_of_false (ne_append_lines u.content text texts) nofun

/-- **What has been written is read back, and appended lines are seen, exactly if no upload is in
the way.** -/
theorem readBack_iff (s : Session) (hsim : s.store.isSimulated = true) (path : String) :
    (∀ now content,
      (s.store.createFile now (s.placeOf path) content).1.success = true →
        ((s.store.createFile now (s.placeOf path) content).2.read path (s.placeOf path)
            = .simulated content ↔
          ∀ u, Keyed.find? s.store.uploads (s.placeOf path) = some u → u.content = content)) ∧
    ∀ commands texts, commands ≠ [] →
      List.Forall₂ (fun command text =>
        Redirect.parse? (Text.trim command) = some ⟨text, .append, path⟩) commands texts →
      EnsuresFrom (fun _ => True) (fun (before, results, after) _ =>
        (∀ r ∈ results, r.success = true) →
          (after = before ++ lines texts ↔
            Keyed.find? s.store.uploads (s.placeOf path) = none))
        s (shownAround path commands) :=
  ⟨fun _ _ h => Store.read_createFile_iff path h,
    fun _ _ hne hparse => ensuresFrom_shownAround hsim hne hparse⟩

/-- A new session of the demo. -/
def demo : Session :=
  .new (.new "/home/user" "/home/user" ⟨30000, 1048576⟩) .remoteDemo ⟨0⟩

/-- In a new session a note is written and read back, and two more lines are seen below it. -/
theorem readBack_iff_notes :
    demo.store.isSimulated = true ∧
    (demo.store.createFile ⟨0⟩ (demo.placeOf "notes.txt") "one\n").1.success = true ∧
    (demo.store.createFile ⟨0⟩ (demo.placeOf "notes.txt") "one\n").2.read "notes.txt"
      (demo.placeOf "notes.txt") = .simulated "one\n" ∧
    EnsuresFrom (fun _ => True) (fun (before, results, after) _ =>
      (∀ r ∈ results, r.success = true) → after = before ++ lines ["two", "\"three\""]) demo
      (shownAround "notes.txt" ["echo two >> notes.txt", "echo \"three\" >> notes.txt"]) := by
  have hsim : demo.store.isSimulated = true := by decide +kernel
  have hnone : Keyed.find? demo.store.uploads (demo.placeOf "notes.txt") = none := by
    decide +kernel
  have hwrite :
      (demo.store.createFile ⟨0⟩ (demo.placeOf "notes.txt") "one\n").1.success = true := by
    decide +kernel
  have hparse : List.Forall₂ (fun command text =>
      Redirect.parse? (Text.trim command) = some ⟨text, .append, "notes.txt"⟩)
      ["echo two >> notes.txt", "echo \"three\" >> notes.txt"] ["two", "\"three\""] :=
    .cons (by decide +kernel) (.cons (by decide +kernel) .nil)
  obtain ⟨hread, happend⟩ := readBack_iff demo hsim "notes.txt"
  have hshows : (demo.store.createFile ⟨0⟩ (demo.placeOf "notes.txt") "one\n").2.read "notes.txt"
      (demo.placeOf "notes.txt") = .simulated "one\n" := by
    rw [hread ⟨0⟩ "one\n" hwrite, hnone]
    exact nofun
  exact ⟨hsim, hwrite, hshows, (happend _ _ (by decide) hparse).mono (fun _ hq => hq)
    fun _ _ h hall => (h hall).mpr hnone⟩

/-- The same session after an upload. -/
def demoWithUpload : Session :=
  (demo.upload ⟨"data.csv", "old\n", "/home/user", "text/csv", ⟨0⟩⟩).2

/-- A write to the path of an upload succeeds, and the upload is still what is read. -/
theorem upload_hides_write :
    (demoWithUpload.store.createFile ⟨0⟩ (demoWithUpload.placeOf "data.csv") "new").1.success
      = true ∧
    (demoWithUpload.store.createFile ⟨0⟩ (demoWithUpload.placeOf "data.csv") "new").2.read
      "data.csv" (demoWithUpload.placeOf "data.csv") = .simulated "old\n" ∧
    FileResult.simulated "old\n" ≠ .simulated "new" := by
  decide +kernel

end Router

end PlainTerminal
