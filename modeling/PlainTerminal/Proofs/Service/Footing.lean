import PlainTerminal.Proofs.Service.Sandbox
import PlainTerminal.Proofs.Service.Trespass

/-!
# The terminal stands on firm ground

Two things make a working directory one that can be relied on. A command that fails leaves the
player where they stood: of the commands that lead anywhere `cd` looks first and goes then, and
`hack` fails only where there is no challenge to go to. And in the demo the player stands at the
canonical path of a directory of the tree, however they came there.

`Grounded` is the invariant for the second. A place that is entered is looked up in the tree as it
is then, so what has to be carried through a run is that directories stay directories, whoever
writes: the commands, and the uploads too, which look at no place at all.
-/

namespace PlainTerminal

open Dialogue Session

namespace Router

variable {s s' : Session}

/-! ## Commands that fail -/

theorem cdVirtual_of_failure (shown place : String) :
    EnsuresFrom (fun _ => True) (fun o s' => o.result.success = false → s' = s) s
      (cdVirtual shown place) := by
  unfold cdVirtual
  rw [ensuresFrom_bind, ensuresFrom_get]
  split
  · rw [ensuresFrom_bind, ensuresFrom_set, ensuresFrom_pure]
    intro hfailed
    cases hfailed
  · rw [ensuresFrom_pure]
    intro _
    rfl

/-- The executor goes nowhere if it says that it failed to. -/
theorem safeExecute_of_failure (command : String)
    (hcd : (Executor.cdTarget? (Text.trim command)).isSome) :
    EnsuresFrom (fun _ => True) (fun result s' => result.success = false → s' = s) s
      (Session.safeExecute command) := by
  obtain ⟨target, htarget⟩ := Option.isSome_iff_exists.mp hcd
  rw [ensuresFrom_safeExecute]
  unfold Executor.safeExecute Executor.execute
  split
  · exact ensures_done.mpr fun _ => rfl
  · dsimp only
    rw [htarget]
    unfold Executor.changeDirectory
    refine ensures_ask.mpr ⟨trivial, ?_⟩
    intro there
    cases there with
    | false => exact ensures_done.mpr fun _ => rfl
    | true =>
        refine ensures_done.mpr ?_
        intro hfailed
        cases hfailed

theorem cd_of_failure (target : String) :
    EnsuresFrom (fun _ => True) (fun o s' => o.result.success = false → s' = s) s (cd target) := by
  unfold cd
  rw [ensuresFrom_bind, ensuresFrom_get]
  dsimp only
  split
  · split
    · exact ensuresFrom_pure.mpr fun _ => rfl
    · exact cdVirtual_of_failure _ _
  · split
    · exact cdVirtual_of_failure _ _
    · rw [ensuresFrom_bind]
      refine (safeExecute_of_failure _ ?_).mono (fun _ hq => hq) ?_
      · rw [Executor.cdTarget?_cd]
        rfl
      · intro result s' hkept
        exact ensuresFrom_pure.mpr hkept

theorem hack_of_failure :
    EnsuresFrom (fun _ => True) (fun r s' => (resultAt s' r).success = false → s' = s) s hack := by
  unfold hack
  rw [ensuresFrom_bind, ensuresFrom_get]
  split
  · exact ensuresFrom_pure.mpr fun _ => rfl
  · rw [ensuresFrom_bind, ensuresFrom_lift]
    refine (ensures_true _).mono (fun _ hq => hq) ?_
    intro introduction _
    rw [ensuresFrom_bind, ensuresFrom_modify, ensuresFrom_pure]
    intro hfailed
    cases hfailed

/-- Other commands than these two go nowhere. -/
theorem Leads.cwd_eq {command : String} (h : Leads s command s')
    (hcd : (Text.splitAtBlank command).1 ≠ "cd")
    (hhack : (Text.splitAtBlank command).1 ≠ "hack") : s'.cwd = s.cwd := by
  cases h with
  | @read rest _ =>
      obtain ⟨progress, hread⟩ := s.exists_readAll (catOperands s rest)
      rw [hread]
      rfl
  | moved hsplit _ =>
      rw [hsplit] at hcd
      exact absurd rfl hcd
  | begun hsplit _ =>
      rw [hsplit] at hhack
      exact absurd rfl hhack
  | steady _ hsteady =>
      obtain ⟨tree, rfl⟩ := hsteady
      rfl

theorem dispatch_of_failure {command : String} (htrim : Text.trim command = command) :
    EnsuresFrom (fun _ => True) (fun r s' => (resultAt s' r).success = false → s'.cwd = s.cwd) s
      (dispatch command) := by
  rcases hsplit : Text.splitAtBlank command with ⟨program, rest⟩
  by_cases hcd : program = "cd"
  · subst hcd
    rw [dispatch_cd hsplit, ensuresFrom_bind]
    refine (cd_of_failure rest).mono (fun _ hq => hq) ?_
    intro o s' hkept
    rw [ensuresFrom_pure]
    intro hfailed
    rw [hkept hfailed]
  · by_cases hhack : program = "hack"
    · subst hhack
      have hparse := Redirect.parse?_eq_none_of_program hsplit (by decide)
      rw [dispatch_other hsplit (by decide) (by decide) hcd hparse]
      refine hack_of_failure.mono (fun _ hq => hq) ?_
      intro r s' hkept hfailed
      rw [hkept hfailed]
    · -- whatever comes of the command, it leads nowhere
      refine (leads_dispatch htrim).mono (fun _ hq => hq) ?_
      intro r s' hleads _
      refine hleads.cwd_eq ?_ ?_
      · rwa [hsplit]
      · rwa [hsplit]

/-- **A command that fails leaves the player where they stood.** -/
theorem route_of_failure (s : Session) (command : String) :
    EnsuresFrom (fun _ => True) (fun result s' => result.success = false → s'.cwd = s.cwd) s
      (route command none) :=
  ensuresFrom_route.mpr (dispatch_of_failure (Text.trim_trim command))

end Router

namespace Session

variable {s s' : Session}

/-! ## Firm ground -/

/-- In the demo, the terminal stands at the canonical path of a directory of the tree. -/
structure Grounded (s : Session) : Prop where
  ready : Ready .remoteDemo s
  home : Path.IsCanonical s.home
  canonical : Path.IsCanonical s.cwd
  there : s.store.tree.isDirectory s.cwd = true

/-- Where a command leads was a directory before it already. -/
theorem Grounded.leads {command : String} (h : s.Grounded) (hleads : Router.Leads s command s') :
    Path.IsCanonical s'.cwd ∧ s.store.tree.isDirectory s'.cwd = true := by
  cases hleads with
  | @read rest _ =>
      obtain ⟨progress, hread⟩ := s.exists_readAll (Router.catOperands s rest)
      rw [hread]
      exact ⟨h.canonical, h.there⟩
  | @moved target _ _ harrives =>
      cases harrives with
      | nowhere => exact ⟨h.canonical, h.there⟩
      | virtual _ hdirectory =>
          have hplace := Router.isCanonical_cdPlace h.home target
          rw [cwd_setCwd_of_isCanonical hplace]
          exact ⟨hplace, hdirectory⟩
      | real _ hlocal =>
          -- the demo has no real shell to go anywhere with
          rw [h.ready.isSimulated] at hlocal
          cases hlocal
  | begun _ hroot =>
      rw [cwd_setCwd_of_isCanonical isCanonical_root]
      exact ⟨isCanonical_root, hroot⟩
  | steady _ hsteady =>
      obtain ⟨tree, rfl⟩ := hsteady
      exact ⟨h.canonical, h.there⟩

theorem Grounded.route {command : String} {result : ExecutionResult} (h : s.Grounded)
    (hreturn : ((Router.route command none).run s).MayReturn (result, s')) : s'.Grounded := by
  obtain ⟨hcanonical, hthere⟩ := h.leads ((Router.leads_route command none).of_mayReturn hreturn)
  obtain ⟨hevolves, _⟩ :=
    EnsuresFrom.of_mayReturn (Router.confined_route command none s h.ready) hreturn
  refine ⟨h.ready.evolves hevolves, ?_, hcanonical, hevolves.isDirectory hthere⟩
  rw [hevolves.home]
  exact h.home

theorem Grounded.record (h : s.Grounded) (input : String) : (s.record input).Grounded := by
  obtain ⟨history, hrecord⟩ := s.exists_record input
  rw [hrecord]
  exact ⟨⟨h.ready.mode, h.ready.challenge⟩, h.home, h.canonical, h.there⟩

theorem Grounded.upload (h : s.Grounded) (u : Upload) : (s.upload u).2.Grounded :=
  ⟨h.ready.upload u, h.home, h.canonical, Store.isDirectory_upload u h.there⟩

theorem Grounded.clearUploads (h : s.Grounded) : s.clearUploads.Grounded :=
  ⟨⟨h.ready.mode, h.ready.challenge⟩, h.home, h.canonical, h.there⟩

/-- A turn keeps the player on firm ground, unless it names a directory of its own. -/
theorem Grounded.turn {t : Turn} (h : t.before.Grounded) (ht : t.Happens)
    (hstay : t.event.workingDirectory = none) : t.after.Grounded := by
  cases ht with
  | @route s s' command workingDirectory _ hreturn =>
      show s'.Grounded
      cases workingDirectory with
      | none => exact Grounded.route h hreturn
      | some place => cases hstay
  | note s input =>
      show (s.record input).Grounded
      exact Grounded.record h input
  | upload s u =>
      show (s.upload u).2.Grounded
      exact Grounded.upload h u
  | clearUploads s =>
      show s.clearUploads.Grounded
      exact Grounded.clearUploads h

theorem Grounded.run {turns : List Turn} (h : s.Grounded) (hrun : Run s turns)
    (hstay : ∀ t ∈ turns, t.event.workingDirectory = none) : (endOf s turns).Grounded := by
  induction hrun with
  | nil => exact h
  | cons ht _ ih =>
      obtain ⟨hfirst, hrest⟩ := List.forall_mem_cons.mp hstay
      rw [endOf_cons]
      exact ih (h.turn ht hfirst) hrest

/-! ## Visits -/

/-- What a user of a session does. -/
inductive Visit where
  | route (command : String)
  | submit (router : Router) (input : String)
  | upload (u : Upload)
  | clearUploads

/-- Does it, and keeps what becomes of the session. -/
def Visit.run : Visit → Action Unit
  | route command => do let _ ← Router.route command none
  | submit router input => do let _ ← router.submit input
  | upload u => modify fun s => (s.upload u).2
  | clearUploads => modify Session.clearUploads

/-- Does one after the other. -/
def Visit.runAll : List Visit → Action Unit
  | [] => return ()
  | visit :: rest => do
    visit.run
    Visit.runAll rest

theorem Grounded.visit (h : s.Grounded) (visit : Visit) :
    EnsuresFrom (fun _ => True) (fun _ s' => s'.Grounded) s visit.run := by
  cases visit with
  | route command =>
      unfold Visit.run
      rw [ensuresFrom_bind]
      refine (ensuresFrom_mayReturn (Router.route command none) s).mono (fun _ hq => hq) ?_
      intro result s' hreturn
      exact ensuresFrom_pure.mpr (h.route hreturn)
  | submit router input =>
      unfold Visit.run
      rw [ensuresFrom_bind]
      refine (ensuresFrom_submit router input).mono (fun _ hq => hq) ?_
      intro submission s' hturns
      obtain ⟨turns, hrun, hend, hevents⟩ := hturns
      rw [← hend]
      exact ensuresFrom_pure.mpr (h.run hrun (Service.forall_stays hevents))
  | upload u => exact ensuresFrom_modify.mpr (h.upload u)
  | clearUploads => exact ensuresFrom_modify.mpr h.clearUploads

theorem Grounded.visits (h : s.Grounded) (visits : List Visit) :
    EnsuresFrom (fun _ => True) (fun _ s' => s'.Grounded) s (Visit.runAll visits) := by
  induction visits generalizing s with
  | nil => exact ensuresFrom_pure.mpr h
  | cons visit rest ih =>
      unfold Visit.runAll
      rw [ensuresFrom_bind]
      refine (h.visit visit).mono (fun _ hq => hq) ?_
      intro _ s' h'
      exact ih h'

/-! ## Where a session begins -/

theorem find?_home_seed (now : Timestamp) :
    (Seed.tree now).find? ["home", "user"] = some (Seed.home now) := by
  simp only [Seed.tree, Seed.systemDirectory, Node.withChildren, Node.newDirectory,
    List.foldl_cons, List.foldl_nil, Keyed.insert, Keyed.find?, Node.find?, Node.children?,
    Option.bind_some, Option.bind_fun_some, String.reduceEq, String.reduceLT, ↓reduceIte]

theorem isDirectory_home_seed (now : Timestamp) :
    (Seed.tree now).isDirectory "/home/user" = true := by
  have hsegments : Path.segments "/" "/home/user" = ["home", "user"] := by decide +kernel
  unfold Tree.isDirectory Tree.resolve
  rw [hsegments, find?_home_seed]
  rfl

/-- With settings that nobody changed, a session of the demo begins on firm ground. -/
theorem grounded_newSession (sessions : Sessions) (hmode : sessions.environment.mode = .remoteDemo)
    (hconfig : sessions.config = {}) (now : Timestamp) : (sessions.newSession now).Grounded := by
  have hexecutor : sessions.newExecutor = .new "/home/user" "/home/user" sessions.limits := by
    unfold Sessions.newExecutor
    rw [hmode, hconfig]
  have hhome : Path.IsCanonical "/home/user" := Path.isCanonical_iff.mpr (by decide +kernel)
  have hready : Ready sessions.environment.mode (sessions.newSession now) :=
    Service.ready_newSession now
  rw [hmode] at hready
  unfold Sessions.newSession at hready ⊢
  rw [hexecutor] at hready ⊢
  exact ⟨hready, hhome, hhome, isDirectory_home_seed now⟩

/-- **The place where the player stands can be relied on.** In either mode and in every session, a
command that fails leaves them where they stood. In the demo with its usual settings, whatever is
run, typed and uploaded and whoever answers, they stand at the canonical path of a directory. -/
theorem cwd_stays_valid :
    (∀ s command,
      EnsuresFrom (fun _ => True) (fun result s' => result.success = false → s'.cwd = s.cwd) s
        (Router.route command none)) ∧
    ∀ (remoteDeployment : Bool) (start : StartPlace) (now : Timestamp) (visits : List Visit),
      EnsuresFrom (fun _ => True)
        (fun _ s' => Path.IsCanonical s'.cwd ∧ s'.store.tree.isDirectory s'.cwd = true)
        (Sessions.newSession
          { environment := ⟨.remoteDemo, remoteDeployment⟩, config := {}, start } now)
        (Visit.runAll visits) := by
  refine ⟨Router.route_of_failure, ?_⟩
  intro remoteDeployment start now visits
  have hstart := grounded_newSession
    { environment := ⟨.remoteDemo, remoteDeployment⟩, config := {}, start } rfl rfl now
  refine (hstart.visits visits).mono (fun _ hq => hq) ?_
  intro _ s' h
  exact ⟨h.canonical, h.there⟩

end Session

end PlainTerminal
