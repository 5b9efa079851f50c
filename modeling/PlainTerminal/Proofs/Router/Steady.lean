import PlainTerminal.Proofs.Challenge.Progress
import PlainTerminal.Proofs.Resolution
import PlainTerminal.Proofs.Router.Dispatch
import PlainTerminal.Proofs.Router.RealShell

/-!
# What changes a session

Three commands have to do with where the player stands: `cat` finds codes, `cd` goes elsewhere, and
`hack` begins the challenge and goes there. Every other command is *steady*, it leaves all of the
session as it was but for the tree. Of `cat` and `hack` it is said here exactly what they leave
behind, so that whoever asks about the progress or the working directory never has to look into a
command again.
-/

namespace PlainTerminal

open Dialogue

namespace Session

/-- The session with another tree. -/
def withTree (s : Session) (tree : Tree) : Session := { s with store := { s.store with tree } }

@[simp] theorem withTree_progress (s : Session) (tree : Tree) :
    (s.withTree tree).progress = s.progress := rfl

@[simp] theorem withTree_cwd (s : Session) (tree : Tree) : (s.withTree tree).cwd = s.cwd := rfl

@[simp] theorem withTree_placeOf (s : Session) (tree : Tree) (path : String) :
    (s.withTree tree).placeOf path = s.placeOf path := rfl

@[simp] theorem withTree_tree (s : Session) (tree : Tree) :
    (s.withTree tree).store.tree = tree := rfl

@[simp] theorem withTree_inVirtualTree (s : Session) (tree : Tree) :
    (s.withTree tree).inVirtualTree = s.inVirtualTree := rfl

@[simp] theorem setCwd_progress (s : Session) (path : String) :
    (s.setCwd path).progress = s.progress := by
  simp only [setCwd]

@[simp] theorem setCwd_store (s : Session) (path : String) : (s.setCwd path).store = s.store := by
  simp only [setCwd]

@[simp] theorem setCwd_home (s : Session) (path : String) : (s.setCwd path).home = s.home := by
  simp only [home, setCwd, Executor.setCwd, Executor.homeDirectory]

theorem cwd_setCwd (s : Session) (path : String) :
    (s.setCwd path).cwd = Executor.resolveFrom s.cwd s.home path := by
  simp only [setCwd, cwd, home, Executor.setCwd, Executor.resolve]

/-- All but the tree is as it was. -/
def Steady (s s' : Session) : Prop := ∃ tree, s' = s.withTree tree

theorem Steady.refl (s : Session) : s.Steady s := ⟨s.store.tree, rfl⟩

theorem Steady.trans {s s' s'' : Session} (h : s.Steady s') (h' : s'.Steady s'') :
    s.Steady s'' := by
  obtain ⟨tree, rfl⟩ := h
  obtain ⟨tree', rfl⟩ := h'
  exact ⟨tree', rfl⟩

theorem Steady.progress {s s' : Session} (h : s.Steady s') : s'.progress = s.progress := by
  obtain ⟨tree, rfl⟩ := h
  rfl

end Session

open Session

variable {α β : Type} {s : Session}

/-- Whoever answers, the action leaves the session as it was. -/
def Idle (s : Session) (action : Action α) : Prop :=
  EnsuresFrom (fun _ => True) (fun _ s' => s' = s) s action

/-- Whoever answers, the action leaves all of the session but the tree as it was. -/
def SteadyFrom (s : Session) (action : Action α) : Prop :=
  EnsuresFrom (fun _ => True) (fun _ s' => s.Steady s') s action

namespace Idle

theorem pure {value : α} : Idle s (pure value) := ensuresFrom_pure.mpr rfl

theorem get_bind {f : Session → Action α} (h : Idle s (f s)) : Idle s (get >>= f) := by
  unfold Idle
  rw [ensuresFrom_bind, ensuresFrom_get]
  exact h

theorem bind {action : Action α} {f : α → Action β} (h : Idle s action)
    (hf : ∀ value, Idle s (f value)) : Idle s (action >>= f) := by
  unfold Idle
  rw [ensuresFrom_bind]
  refine EnsuresFrom.mono h (fun _ hq => hq) ?_
  rintro value _ rfl
  exact hf value

theorem lift (d : Dialogue α) : Idle s (liftM d : Action α) := by
  unfold Idle
  rw [ensuresFrom_lift]
  exact (ensures_true d).mono (fun _ hq => hq) fun _ _ => rfl

theorem steady {action : Action α} (h : Idle s action) : SteadyFrom s action := by
  refine EnsuresFrom.mono h (fun _ hq => hq) ?_
  rintro _ _ rfl
  exact Steady.refl _

end Idle

namespace SteadyFrom

theorem pure {value : α} : SteadyFrom s (pure value) := Idle.pure.steady

theorem get_bind {f : Session → Action α} (h : SteadyFrom s (f s)) :
    SteadyFrom s (get >>= f) := by
  unfold SteadyFrom
  rw [ensuresFrom_bind, ensuresFrom_get]
  exact h

theorem bind {action : Action α} {f : α → Action β} (h : SteadyFrom s action)
    (hf : ∀ value s', s.Steady s' → SteadyFrom s' (f value)) : SteadyFrom s (action >>= f) := by
  unfold SteadyFrom
  rw [ensuresFrom_bind]
  refine EnsuresFrom.mono h (fun _ hq => hq) fun value s' hs' => ?_
  exact EnsuresFrom.mono (hf value s' hs') (fun _ hq => hq) fun _ _ h' => hs'.trans h'

theorem bind_pure {action : Action α} {f : α → β} (h : SteadyFrom s action) :
    SteadyFrom s (do return f (← action)) :=
  h.bind fun _ _ _ => pure

theorem set (tree : Tree) : SteadyFrom s (set (s.withTree tree)) :=
  ensuresFrom_set.mpr ⟨tree, rfl⟩

theorem mapM {f : β → Action α} (h : ∀ x s', SteadyFrom s' (f x)) (xs : List β) :
    SteadyFrom s (xs.mapM f) := by
  induction xs generalizing s with
  | nil => exact pure
  | cons x xs ih =>
      rw [List.mapM_cons]
      exact (h x s).bind fun _ _ _ => ih.bind fun _ _ _ => pure

end SteadyFrom

namespace Session

/-! ## The real shell -/

/-- A command that is no `cd` leaves the session as it was. -/
theorem idle_safeExecute {text : String} (h : Executor.cdTarget? (Text.trim text) = none) :
    Idle s (safeExecute text) := by
  refine ensuresFrom_safeExecute.mpr ?_
  refine (s.executor.ensures_makes text).mono (fun _ _ => trivial) fun r hr => ?_
  rw [hr h]

/-! ## Files -/

theorem idle_contentOf (path : String) : Idle s (contentOf path) := by
  unfold contentOf
  refine Idle.get_bind ?_
  split
  · exact Idle.pure
  · exact (idle_safeExecute (cdTarget?_catQuoted path)).bind fun _ => Idle.pure

theorem idle_listDirectory (path : String) (showHidden : Bool) :
    Idle s (listDirectory path showHidden) := by
  unfold listDirectory
  refine Idle.get_bind ?_
  split
  · exact Idle.pure
  · exact (idle_safeExecute (cdTarget?_lsQuoted _ _)).bind fun _ => Idle.pure

theorem steady_createFile (path content : String) : SteadyFrom s (createFile path content) := by
  unfold createFile
  refine SteadyFrom.get_bind ?_
  split
  · refine (Idle.lift _).steady.bind fun now s' hs' => ?_
    obtain ⟨tree, rfl⟩ := hs'
    unfold Store.createFile
    cases s.store.tree.createFile now (s.placeOf path) content with
    | ok tree' => exact SteadyFrom.bind (SteadyFrom.set tree') fun _ _ _ => SteadyFrom.pure
    | error e =>
        exact SteadyFrom.bind (SteadyFrom.set s.store.tree) fun _ _ _ => SteadyFrom.pure
  · exact (idle_safeExecute (cdTarget?_echoQuoted content path)).steady.bind_pure

theorem steady_createDirectory (path : String) : SteadyFrom s (createDirectory path) := by
  unfold createDirectory
  refine SteadyFrom.get_bind ?_
  split
  · refine (Idle.lift _).steady.bind fun now s' hs' => ?_
    obtain ⟨tree, rfl⟩ := hs'
    unfold Store.createDirectory
    cases s.store.tree.createDirectory now (s.placeOf path) with
    | ok tree' => exact SteadyFrom.bind (SteadyFrom.set tree') fun _ _ _ => SteadyFrom.pure
    | error e =>
        exact SteadyFrom.bind (SteadyFrom.set s.store.tree) fun _ _ _ => SteadyFrom.pure
  · exact (idle_safeExecute (cdTarget?_mkdirQuoted path)).steady.bind_pure

/-- What a player has found after reading a file. -/
def afterReading (s : Session) (path : String) : Session :=
  { s with progress := s.progress.afterReading s.store.tree (s.placeOf path) }

/-- What a player has found after reading files one after the other. -/
def readAll (s : Session) (paths : List String) : Session := paths.foldl afterReading s

end Session

namespace Router

/-! ## Reading files -/

/-- Reading a file of the challenge changes the progress, and nothing else. -/
theorem ensuresFrom_catChallenge (path place : String) :
    EnsuresFrom (fun _ => True)
      (fun _ s' => s' = { s with progress := s.progress.afterReading s.store.tree place }) s
      (catChallenge path place) := by
  unfold catChallenge
  rw [ensuresFrom_bind, ensuresFrom_get]
  split
  · -- the lock is in the way
    rename_i lock hlock
    rw [Challenge.Progress.afterReading_of_isLocked (Challenge.isLocked_of_lockAt hlock)]
    exact ensuresFrom_pure.mpr rfl
  · split
    · rename_i hreadme
      rw [hreadme, Challenge.Progress.afterReading_readme]
      exact (Idle.lift _).bind fun _ => Idle.pure
    · split
      · rename_i hvictory
        rw [hvictory, Challenge.Progress.afterReading_victory]
        dsimp only
        rw [ensuresFrom_bind, ensuresFrom_set, Challenge.Progress.snd_readVictory]
        split
        · exact ensuresFrom_pure.mpr rfl
        · exact ensuresFrom_pure.mpr rfl
      · rename_i hvictory
        unfold Challenge.Progress.afterReading
        rw [if_neg hvictory]
        cases s.store.tree.contentOf place with
        | error e =>
            -- what cannot be read reveals nothing
            cases Challenge.codeAt place with
            | none => cases e <;> exact ensuresFrom_pure.mpr rfl
            | some code => cases e <;> exact ensuresFrom_pure.mpr rfl
        | ok text =>
            cases Challenge.codeAt place with
            | none => exact ensuresFrom_pure.mpr rfl
            | some code =>
                dsimp only
                rw [ensuresFrom_bind, ensuresFrom_set]
                exact ensuresFrom_pure.mpr rfl

theorem ensuresFrom_catOne (path : String) :
    EnsuresFrom (fun _ => True) (fun _ s' => s' = s.afterReading path) s (catOne path) := by
  unfold catOne
  rw [ensuresFrom_bind, ensuresFrom_get]
  dsimp only
  split
  · exact ensuresFrom_catChallenge path (s.placeOf path)
  · rename_i hout
    have hsame : s.afterReading path = s := by
      unfold Session.afterReading
      rw [Challenge.Progress.afterReading_of_not_contains (Bool.eq_false_iff.mpr hout)]
    rw [hsame]
    exact (idle_contentOf path).bind fun _ => Idle.pure

/-- Reading several files is reading one after the other. -/
theorem ensuresFrom_catAll (paths : List String) :
    EnsuresFrom (fun _ => True) (fun _ s' => s' = s.readAll paths) s (catAll paths) := by
  induction paths generalizing s with
  | nil => exact ensuresFrom_pure.mpr rfl
  | cons path rest ih =>
      unfold catAll
      rw [ensuresFrom_bind]
      refine (ensuresFrom_catOne path).mono (fun _ hq => hq) ?_
      rintro part _ rfl
      rw [ensuresFrom_bind]
      refine ih.mono (fun _ hq => hq) ?_
      rintro _ _ rfl
      exact ensuresFrom_pure.mpr rfl

/-- The files that `cat` reads by itself. Several files at once are left to the real shell outside
the virtual tree, where no code can be found. -/
def catOperands (s : Session) (rest : String) : List String :=
  match Text.words rest with
  | [] => []
  | [path] => [path]
  | paths => if s.inVirtualTree then paths else []

theorem catOperands_cases (s : Session) (rest : String) :
    catOperands s rest = Text.words rest ∨ catOperands s rest = [] := by
  unfold catOperands
  match Text.words rest with
  | [] => exact Or.inl rfl
  | [path] => exact Or.inl rfl
  | first :: second :: others =>
      dsimp only
      split
      · exact Or.inl rfl
      · exact Or.inr rfl

theorem ensuresFrom_cat (rest : String) :
    EnsuresFrom (fun _ => True) (fun _ s' => s' = s.readAll (catOperands s rest)) s
      (cat rest) := by
  unfold cat catOperands
  rw [ensuresFrom_bind, ensuresFrom_get]
  match Text.words rest with
  | [] => exact ensuresFrom_pure.mpr rfl
  | [path] => exact ensuresFrom_catOne path
  | first :: second :: others =>
      dsimp only
      split
      · rw [ensuresFrom_bind]
        refine (ensuresFrom_catAll _).mono (fun _ hq => hq) ?_
        rintro ⟨texts, errors⟩ _ rfl
        dsimp only
        split
        · exact ensuresFrom_pure.mpr rfl
        · exact ensuresFrom_pure.mpr rfl
      · exact (idle_safeExecute (Executor.cdTarget?_cat rest)).bind fun _ => Idle.pure

/-! ## Listing directories -/

theorem idle_challengeListing (path place : String) (showHidden long : Bool) :
    Idle s (challengeListing path place showHidden long) := by
  unfold challengeListing
  refine Idle.get_bind ?_
  split
  · exact Idle.pure
  · split
    · exact Idle.pure
    · exact Idle.pure
    · dsimp only
      split
      · exact Idle.pure
      · exact Idle.pure

theorem idle_listing (rest : String) : Idle s (listing rest) := by
  unfold listing
  refine Idle.get_bind ?_
  dsimp only
  split
  · exact idle_challengeListing _ _ _ _
  · split
    · exact (idle_listDirectory _ _).bind fun _ => Idle.pure
    · exact (idle_safeExecute (Executor.cdTarget?_ls rest)).bind fun _ => Idle.pure

/-! ## Changing the directory -/

/-- The directory that a typed path means to `cd`, which is home if nothing is typed. -/
def destination (s : Session) (target : String) : String :=
  if target = "" then s.home else s.placeOf target

/-- The table of directory changes makes no difference. -/
theorem cdPlace_eq_destination (s : Session) (target : String) :
    cdPlace s target = destination s target := by
  unfold cdPlace destination
  cases htable : Challenge.transition s.cwd target with
  | none => rfl
  | some place =>
      rw [Option.getD_some, if_neg (Challenge.ne_empty_of_transition htable)]
      exact (Challenge.resolvePath_of_transition htable s.home).symm

theorem isCanonical_destination (hhome : Path.IsCanonical s.home) (target : String) :
    Path.IsCanonical (destination s target) := by
  unfold destination
  split
  · exact hhome
  · exact Store.isCanonical_resolvePath hhome target s.cwd

/-- Where `cd` goes is a canonical path. -/
theorem isCanonical_cdPlace (hhome : Path.IsCanonical s.home) (target : String) :
    Path.IsCanonical (cdPlace s target) := by
  rw [cdPlace_eq_destination]
  exact isCanonical_destination hhome target

/-- The directory that the real shell is asked for by `cd`. -/
def shellDirectory (s : Session) (target : String) : String :=
  let argument := Text.trim (if Challenge.contains s.cwd then cdPlace s target else target)
  Executor.resolveFrom s.cwd s.home (if argument = "" then "~" else argument)

/-- Where the player may stand after `cd`: where they stood, at a place of the virtual tree that the
lock does not keep them from, or, with no challenge there, in a directory of the real machine. -/
inductive Arrives (s : Session) (target : String) : Session → Prop where
  | nowhere : Arrives s target s
  | virtual : Challenge.lockAt (cdPlace s target) s.progress = none →
      s.store.tree.isDirectory (cdPlace s target) = true →
      Arrives s target (s.setCwd (cdPlace s target))
  | real : Challenge.contains (cdPlace s target) = false → s.store.isSimulated = false →
      Arrives s target { s with executor := { s.executor with cwd := shellDirectory s target } }

theorem Arrives.exists_cwd {s s' : Session} {target : String} (h : Arrives s target s') :
    ∃ cwd, s' = { s with executor := { s.executor with cwd } } := by
  cases h with
  | nowhere => exact ⟨s.executor.cwd, rfl⟩
  | virtual => exact ⟨_, rfl⟩
  | real => exact ⟨_, rfl⟩

theorem arrives_cdVirtual {shown target : String}
    (hlock : Challenge.lockAt (cdPlace s target) s.progress = none) :
    EnsuresFrom (fun _ => True) (fun _ s' => Arrives s target s') s
      (cdVirtual shown (cdPlace s target)) := by
  unfold cdVirtual
  rw [ensuresFrom_bind, ensuresFrom_get]
  split
  · rename_i hdir
    rw [ensuresFrom_bind, ensuresFrom_set]
    exact ensuresFrom_pure.mpr (.virtual hlock hdir)
  · exact ensuresFrom_pure.mpr .nowhere

theorem arrives_cd (target : String) :
    EnsuresFrom (fun _ => True) (fun _ s' => Arrives s target s') s (cd target) := by
  unfold cd
  rw [ensuresFrom_bind, ensuresFrom_get]
  dsimp only
  split
  · split
    · exact ensuresFrom_pure.mpr .nowhere
    · rename_i hlock
      exact arrives_cdVirtual hlock
  · rename_i hout
    rw [Bool.not_eq_true] at hout
    split
    · exact arrives_cdVirtual (Challenge.lockAt_of_not_contains hout _)
    · rename_i hlocal
      rw [Bool.not_eq_true] at hlocal
      rw [ensuresFrom_bind, ensuresFrom_safeExecute]
      unfold Executor.safeExecute Executor.execute
      split
      · exact ensures_done.mpr (ensuresFrom_pure.mpr .nowhere)
      · dsimp only
        rw [Executor.cdTarget?_cd]
        unfold Executor.changeDirectory
        refine ensures_ask.mpr ⟨trivial, fun there => ?_⟩
        cases there with
        | true => exact ensures_done.mpr (ensuresFrom_pure.mpr (.real hout hlocal))
        | false => exact ensures_done.mpr (ensuresFrom_pure.mpr .nowhere)

/-! ## Writing files -/

theorem steady_redirect {command : String} {write : Redirect.Write}
    (hcd : Executor.cdTarget? (Text.trim command) = none) :
    SteadyFrom s (redirect command write) := by
  unfold redirect
  refine SteadyFrom.get_bind ?_
  split
  · exact SteadyFrom.pure
  · dsimp only
    split
    · split
      · refine (idle_contentOf _).steady.bind fun _ _ _ => ?_
        rw [pure_bind]
        exact (steady_createFile _ _).bind_pure
      · rw [pure_bind]
        exact (steady_createFile _ _).bind_pure
    · split
      · exact (idle_safeExecute hcd).steady.bind_pure
      · exact (steady_createFile _ _).bind_pure

theorem steady_mkdirOne (path : String) : SteadyFrom s (mkdirOne path) := by
  unfold mkdirOne
  refine SteadyFrom.get_bind ?_
  split
  · exact SteadyFrom.pure
  · exact (steady_createDirectory path).bind_pure

theorem steady_touchOne (path : String) : SteadyFrom s (touchOne path) := by
  unfold touchOne
  refine SteadyFrom.get_bind ?_
  split
  · exact SteadyFrom.pure
  · refine (idle_contentOf path).steady.bind fun _ _ _ => ?_
    split
    · exact SteadyFrom.pure
    · exact (steady_createFile _ _).bind_pure

theorem steady_forOperands (program rest : String) {one : String → Action (Option String)}
    (h : ∀ path s', SteadyFrom s' (one path)) : SteadyFrom s (forOperands program rest one) := by
  unfold forOperands
  split
  · exact SteadyFrom.pure
  · refine (SteadyFrom.mapM h _).bind fun _ _ _ => ?_
    dsimp only
    split
    · exact SteadyFrom.pure
    · exact SteadyFrom.pure

/-! ## The other commands -/

theorem idle_hint : Idle s hint := by
  unfold hint
  refine Idle.get_bind ?_
  split
  · exact (Idle.lift _).bind fun _ => Idle.pure
  · exact Idle.pure

theorem idle_amuse (pool : List String) : Idle s (amuse pool) := by
  unfold amuse
  exact (Idle.lift _).bind fun _ => Idle.pure

theorem steady_simulatedBuiltin? {program rest : String} {action : Action CommandResult}
    (h : simulatedBuiltin? program rest = some action) : SteadyFrom s action := by
  unfold simulatedBuiltin? at h
  split at h
  · cases h
    exact SteadyFrom.get_bind SteadyFrom.pure
  · cases h
    exact SteadyFrom.get_bind SteadyFrom.pure
  · cases h
    exact SteadyFrom.get_bind SteadyFrom.pure
  · cases h
    exact (Idle.lift _).steady.bind_pure
  · cases h
    exact SteadyFrom.pure
  · cases h
    exact steady_forOperands _ _ fun path _ => steady_mkdirOne path
  · cases h
    exact steady_forOperands _ _ fun path _ => steady_touchOne path
  · cases h

theorem steady_runVirtual (program rest command : String) :
    SteadyFrom s (runVirtual program rest command) := by
  unfold runVirtual
  split
  · rename_i action haction
    exact (steady_simulatedBuiltin? haction).bind_pure
  · split
    · exact SteadyFrom.pure
    · exact SteadyFrom.get_bind SteadyFrom.pure

/-- Beginning the challenge, if it is there, moves the objective and the player. -/
theorem ensuresFrom_hack : EnsuresFrom (fun _ => True)
    (fun _ s' => s' = if s.store.tree.isDirectory Challenge.root then
        { s with progress := s.progress.start }.setCwd Challenge.root else s) s hack := by
  unfold hack
  rw [ensuresFrom_bind, ensuresFrom_get]
  cases s.store.tree.isDirectory Challenge.root with
  | false => exact ensuresFrom_pure.mpr rfl
  | true =>
      rw [if_pos rfl, if_neg (by decide), ensuresFrom_bind, ensuresFrom_lift]
      refine (ensures_true _).mono (fun _ hq => hq) fun _ _ => ?_
      rw [ensuresFrom_bind, ensuresFrom_modify]
      exact ensuresFrom_pure.mpr rfl

/-- A command with any other first word is steady. -/
theorem steady_dispatchProgram {program rest command : String} (hhack : program ≠ "hack")
    (hcd : Executor.cdTarget? (Text.trim command) = none) :
    SteadyFrom s (dispatchProgram program rest command) := by
  unfold dispatchProgram
  split
  · exact SteadyFrom.pure
  · exact SteadyFrom.pure
  · exact idle_hint.steady.bind_pure
  · exact absurd rfl hhack
  · exact (idle_amuse _).steady.bind_pure
  · exact (idle_amuse _).steady.bind_pure
  · refine SteadyFrom.get_bind ?_
    split
    · exact (steady_runVirtual _ _ _).bind_pure
    · exact (idle_safeExecute hcd).steady.bind_pure

theorem steady_dispatch {command : String} (hcat : (Text.splitAtBlank command).1 ≠ "cat")
    (hcd : (Text.splitAtBlank command).1 ≠ "cd") (hhack : (Text.splitAtBlank command).1 ≠ "hack")
    (htrim : Text.trim command = command) : SteadyFrom s (dispatch command) := by
  have hno := Executor.cdTarget?_of_program hcd
  rw [← htrim] at hno
  unfold dispatch
  split
  rename_i program rest hsplit
  rw [hsplit] at hcat hcd hhack
  split
  · exact absurd rfl hcat
  · rw [ls_eq]
    exact (idle_listing rest).steady.bind_pure
  · exact absurd rfl hcd
  · split
    · exact (steady_redirect hno).bind_pure
    · exact steady_dispatchProgram hhack hno

/-- Where a trimmed command may lead: each of the three commands has its own ends, and any other is
steady. -/
inductive Leads (s : Session) (command : String) : Session → Prop where
  | read {rest : String} : Text.splitAtBlank command = ("cat", rest) →
      Leads s command (s.readAll (catOperands s rest))
  | moved {target : String} {s' : Session} : Text.splitAtBlank command = ("cd", target) →
      Arrives s target s' → Leads s command s'
  | begun {rest : String} : Text.splitAtBlank command = ("hack", rest) →
      s.store.tree.isDirectory Challenge.root = true →
      Leads s command ({ s with progress := s.progress.start }.setCwd Challenge.root)
  | steady {s' : Session} : (Text.splitAtBlank command).1 ≠ "cat" → s.Steady s' →
      Leads s command s'

theorem leads_dispatch {command : String} (htrim : Text.trim command = command) :
    EnsuresFrom (fun _ => True) (fun _ s' => Leads s command s') s (dispatch command) := by
  rcases hsplit : Text.splitAtBlank command with ⟨program, rest⟩
  by_cases hcat : program = "cat"
  · subst hcat
    rw [dispatch_cat hsplit, ensuresFrom_bind]
    refine (ensuresFrom_cat rest).mono (fun _ hq => hq) ?_
    rintro _ _ rfl
    exact ensuresFrom_pure.mpr (.read hsplit)
  · by_cases hcd : program = "cd"
    · subst hcd
      rw [dispatch_cd hsplit, ensuresFrom_bind]
      refine (arrives_cd rest).mono (fun _ hq => hq) fun _ _ harrives => ?_
      exact ensuresFrom_pure.mpr (.moved hsplit harrives)
    · have hne : (Text.splitAtBlank command).1 ≠ "cat" := by rwa [hsplit]
      by_cases hhack : program = "hack"
      · subst hhack
        have hparse := Redirect.parse?_eq_none_of_program hsplit (by decide)
        rw [dispatch_other hsplit hcat (by decide) hcd hparse]
        refine ensuresFrom_hack.mono (fun _ hq => hq) fun _ s' hs' => ?_
        subst hs'
        split
        · exact .begun hsplit ‹_›
        · exact .steady hne (Steady.refl s)
      · refine (steady_dispatch hne ?_ ?_ htrim).mono (fun _ hq => hq) fun _ _ hsteady => ?_
        · rwa [hsplit]
        · rwa [hsplit]
        · exact .steady hne hsteady

/-- Where a routed command leads. -/
theorem leads_route (command : String) (workingDirectory : Option String) :
    EnsuresFrom (fun _ => True)
      (fun _ s' => Leads (entering s workingDirectory) (Text.trim command) s') s
      (route command workingDirectory) := by
  exact ensuresFrom_route_entering.mpr (leads_dispatch (Text.trim_trim command))

end Router

end PlainTerminal
