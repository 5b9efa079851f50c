import PlainTerminal.Proofs.Router.Confinement

/-!
# Every command is confined

The commands of the router one by one, from the operations on files up to a whole line of input.
All of them are confined in either mode, and in the demo their outcomes are marked as simulated. The
writers are the commands with something to show: each looks at the resolved place of its operand
before it writes, so the write is one outside the challenge.
-/

namespace PlainTerminal

open Dialogue Session

/-! ## Questions that concern nobody's machine -/

namespace Dialogue

variable {m : Mode}

theorem ensures_now : now.Ensures m.Allows fun _ => True :=
  ensures_ask.mpr ⟨Mode.allows_of_not_isReal rfl, fun _ => ensures_done.mpr trivial⟩

theorem ensures_choose (things : List String) : (choose things).Ensures m.Allows fun _ => True :=
  ensures_ask.mpr ⟨Mode.allows_of_not_isReal rfl, fun _ => ensures_done.mpr trivial⟩

end Dialogue

namespace Assistant

variable {α : Type} {m : Mode} {asks : Question → Prop}

theorem ensures_attempt_of {request : CompletionRequest} (h : asks (.complete request))
    (use : String → Except ModelError α) :
    (attempt request use).Ensures asks fun _ => True := by
  refine ensures_ask.mpr ⟨h, fun reply => ?_⟩
  cases reply with
  | ok text => exact ensures_done.mpr trivial
  | error e => exact ensures_done.mpr trivial

theorem ensures_attempt (request : CompletionRequest) (use : String → Except ModelError α) :
    (attempt request use).Ensures m.Allows fun _ => True :=
  ensures_attempt_of (Mode.allows_of_not_isReal rfl) use

theorem ensures_withFallback {d : Dialogue (Except ModelError α)}
    (h : d.Ensures asks fun _ => True) (fallback : α) :
    (withFallback d fallback).Ensures asks fun _ => True := by
  unfold withFallback
  rw [ensures_bind]
  refine h.mono (fun _ hq => hq) fun first _ => ?_
  cases first with
  | ok value => exact ensures_done.mpr trivial
  | error e =>
      dsimp only
      split
      · exact ensures_done.mpr trivial
      · rw [ensures_bind]
        -- The second attempt is the same dialogue once more.
        refine h.mono (fun _ hq => hq) fun second _ => ?_
        cases second with
        | ok value => exact ensures_done.mpr trivial
        | error e => exact ensures_done.mpr trivial

end Assistant

/-! ## The real shell -/

theorem Executor.ensures_safeExecute (e : Executor) (command : String) :
    (e.safeExecute command).Ensures Mode.localMachine.Allows fun r =>
      ∃ cwd, r.2 = { e with cwd } := by
  unfold Executor.safeExecute Executor.execute
  split
  · exact ensures_done.mpr ⟨e.cwd, rfl⟩
  · dsimp only
    split
    · unfold Executor.changeDirectory
      refine ensures_ask.mpr ⟨trivial, fun there => ?_⟩
      cases there with
      | true => exact ensures_done.mpr ⟨_, rfl⟩
      | false => exact ensures_done.mpr ⟨e.cwd, rfl⟩
    · exact ensures_ask.mpr ⟨trivial, fun _ => ensures_done.mpr ⟨e.cwd, rfl⟩⟩

namespace Session

variable {m : Mode} {s : Session}

theorem confined_safeExecute (command : String) :
    Confined .localMachine (safeExecute command) fun _ => True := by
  intro s hs
  unfold safeExecute
  refine ConfinedAt.get_bind ?_
  unfold ConfinedAt
  rw [ensuresFrom_bind, ensuresFrom_lift]
  refine (s.executor.ensures_safeExecute command).mono (fun _ hq => hq) ?_
  rintro ⟨result, executor⟩ hexec
  dsimp only
  rw [ensuresFrom_bind, ensuresFrom_set, ensuresFrom_pure]
  exact ⟨Evolves.of_store hexec rfl, trivial⟩

/-! ## Files -/

theorem confined_contentOf (path : String) :
    Confined m (contentOf path) fun r => m.Marks r.isSimulated := by
  intro s hs
  unfold contentOf
  refine ConfinedAt.get_bind ?_
  cases m with
  | localMachine =>
      rw [if_neg (by rw [hs.not_isSimulated]; decide)]
      exact (confined_safeExecute _ s hs).bind hs fun r _ _ _ => ConfinedAt.pure nofun
  | remoteDemo =>
      rw [if_pos hs.isSimulated]
      refine ConfinedAt.pure fun _ => ?_
      unfold Store.read
      split
      · rfl
      · rfl

theorem confined_listDirectory (path : String) (showHidden : Bool) :
    Confined m (listDirectory path showHidden) fun r => m.Marks r.isSimulated := by
  intro s hs
  unfold listDirectory
  refine ConfinedAt.get_bind ?_
  cases m with
  | localMachine =>
      rw [if_neg (by rw [hs.not_isSimulated]; decide)]
      exact (confined_safeExecute _ s hs).bind hs fun r _ _ _ => ConfinedAt.pure nofun
  | remoteDemo =>
      rw [if_pos hs.isSimulated]
      refine ConfinedAt.pure fun _ => ?_
      unfold Store.list
      split
      · rfl
      · rfl

/-- Reading a file of the virtual store changes nothing. -/
theorem run_contentOf {path : String} (h : s.store.isSimulated = true) :
    (contentOf path).run s = Dialogue.done (s.store.read path (s.placeOf path), s) := by
  unfold contentOf
  rw [StateT.run_bind, StateT.run_get]
  show ((if s.store.isSimulated = true then _ else _ : Action FileResult)).run s = _
  rw [if_pos h]
  rfl

theorem confinedAt_contentOf_bind {α : Type} {path : String} {f : FileResult → Action α}
    {good : α → Prop} (hs : Ready .remoteDemo s)
    (h : ConfinedAt .remoteDemo s (f (s.store.read path (s.placeOf path))) good) :
    ConfinedAt .remoteDemo s (contentOf path >>= f) good := by
  unfold ConfinedAt at h ⊢
  rw [ensuresFrom_bind, ensuresFrom_of_run (run_contentOf hs.isSimulated)]
  exact h

/-- A write to a place outside the challenge is confined; on the user's machine the shell does it,
wherever it goes. -/
theorem confinedAt_createFile {path content : String} (hs : Ready m s)
    (hout : m = .remoteDemo → Challenge.contains (s.placeOf path) = false) :
    ConfinedAt m s (createFile path content) fun r => m.Marks r.isSimulated := by
  unfold createFile
  refine ConfinedAt.get_bind ?_
  cases m with
  | localMachine =>
      rw [if_neg (by rw [hs.not_isSimulated]; decide)]
      exact (confined_safeExecute _ s hs).bind hs fun r _ _ _ => ConfinedAt.pure nofun
  | remoteDemo =>
      rw [if_pos hs.isSimulated]
      unfold ConfinedAt
      rw [ensuresFrom_bind, ensuresFrom_lift]
      refine ensures_now.mono (fun _ hq => hq) fun now _ => ?_
      unfold Store.createFile
      cases htree : s.store.tree.createFile now (s.placeOf path) content with
      | ok tree =>
          exact ConfinedAt.bind hs (ConfinedAt.set (Evolves.of_write
            (.file now path s.cwd content (hout rfl) htree))) fun _ _ _ _ =>
              ConfinedAt.pure fun _ => rfl
      | error e =>
          exact ConfinedAt.bind hs (ConfinedAt.set (Evolves.refl s)) fun _ _ _ _ =>
            ConfinedAt.pure fun _ => rfl

theorem confinedAt_createDirectory {path : String} (hs : Ready m s)
    (hout : Challenge.contains (s.placeOf path) = false) :
    ConfinedAt m s (createDirectory path) fun r => m.Marks r.isSimulated := by
  unfold createDirectory
  refine ConfinedAt.get_bind ?_
  cases m with
  | localMachine =>
      rw [if_neg (by rw [hs.not_isSimulated]; decide)]
      exact (confined_safeExecute _ s hs).bind hs fun r _ _ _ => ConfinedAt.pure nofun
  | remoteDemo =>
      rw [if_pos hs.isSimulated]
      unfold ConfinedAt
      rw [ensuresFrom_bind, ensuresFrom_lift]
      refine ensures_now.mono (fun _ hq => hq) fun now _ => ?_
      unfold Store.createDirectory
      cases htree : s.store.tree.createDirectory now (s.placeOf path) with
      | ok tree =>
          exact ConfinedAt.bind hs (ConfinedAt.set (Evolves.of_write
            (.directory now path s.cwd hout htree))) fun _ _ _ _ =>
              ConfinedAt.pure fun _ => rfl
      | error e =>
          exact ConfinedAt.bind hs (ConfinedAt.set (Evolves.refl s)) fun _ _ _ _ =>
            ConfinedAt.pure fun _ => rfl

end Session

namespace Router

variable {m : Mode} {s : Session}

/-! ## Reading files -/

/-- Reading a file of the challenge may find a code, and that is all. -/
theorem quiet_catChallenge (path place : String) : Quiet s (catChallenge path place) := by
  unfold catChallenge Quiet
  rw [ensuresFrom_bind, ensuresFrom_get]
  split
  · exact Quiet.pure rfl
  · split
    · rw [ensuresFrom_bind, ensuresFrom_lift]
      exact (Assistant.ensures_withFallback (Assistant.ensures_attempt _ _) _).mono
        (fun _ hq => hq) fun _ _ => Quiet.pure rfl
    · split
      · dsimp only
        rw [ensuresFrom_bind, ensuresFrom_set]
        split
        · exact ensuresFrom_pure.mpr ⟨⟨rfl, rfl⟩, rfl⟩
        · exact ensuresFrom_pure.mpr ⟨⟨rfl, rfl⟩, rfl⟩
      · split
        · exact Quiet.pure rfl
        · exact Quiet.pure rfl
        · split
          · exact Quiet.pure rfl
          · dsimp only
            rw [ensuresFrom_bind, ensuresFrom_set]
            exact ensuresFrom_pure.mpr ⟨⟨rfl, rfl⟩, rfl⟩

theorem confined_catOne (path : String) :
    Confined m (catOne path) fun o => m.Marks o.isSimulated := by
  intro s hs
  unfold catOne
  refine ConfinedAt.get_bind ?_
  dsimp only
  split
  · exact (quiet_catChallenge path _).confinedAt
  · exact (confined_contentOf path s hs).bind hs fun r hr _ _ => ConfinedAt.pure hr

theorem confined_catAll (paths : List String) : Confined m (catAll paths) fun _ => True := by
  induction paths with
  | nil => exact fun s _ => ConfinedAt.pure trivial
  | cons path rest ih =>
      unfold catAll
      exact (confined_catOne path).bind fun _ _ => ih.bind fun _ _ _ _ => ConfinedAt.pure trivial

/-- In the demo the terminal never leaves the virtual tree. -/
theorem inVirtualTree_of_isSimulated (h : s.store.isSimulated = true) :
    s.inVirtualTree = true := by
  unfold Session.inVirtualTree
  rw [h, Bool.true_or]

/-- What is left to the real shell is so outside the virtual tree alone. -/
theorem confinedAt_safeExecute (hs : Ready m s) (h : ¬ s.inVirtualTree = true)
    (command : String) : ConfinedAt m s
      (do return ⟨← Session.safeExecute command, false⟩)
      fun o : Outcome => m.Marks o.isSimulated := by
  cases m with
  | localMachine =>
      exact (confined_safeExecute command s hs).bind hs fun _ _ _ _ => ConfinedAt.pure nofun
  | remoteDemo => exact absurd (inVirtualTree_of_isSimulated hs.isSimulated) h

theorem confined_cat (rest : String) : Confined m (cat rest) fun o => m.Marks o.isSimulated := by
  intro s hs
  unfold cat
  refine ConfinedAt.get_bind ?_
  split
  · refine ConfinedAt.pure ?_
    rintro rfl
    exact inVirtualTree_of_isSimulated hs.isSimulated
  · exact confined_catOne _ s hs
  · split
    · refine (confined_catAll _ s hs).bind hs fun r _ s' hs' => ?_
      dsimp only
      split
      · exact ConfinedAt.pure fun _ => rfl
      · exact ConfinedAt.pure fun _ => rfl
    · rename_i hvirtual
      exact confinedAt_safeExecute hs hvirtual _

/-! ## Listing directories -/

theorem quiet_challengeListing (path place : String) (showHidden long : Bool) :
    Quiet s (challengeListing path place showHidden long) := by
  unfold challengeListing Quiet
  rw [ensuresFrom_bind, ensuresFrom_get]
  split
  · exact Quiet.pure rfl
  · split
    · exact Quiet.pure rfl
    · exact Quiet.pure rfl
    · dsimp only
      split
      · exact Quiet.pure rfl
      · exact Quiet.pure rfl

theorem confined_listing (rest : String) : Confined m (listing rest) fun o => m.Marks o.isSimulated := by
  intro s hs
  unfold listing
  refine ConfinedAt.get_bind ?_
  dsimp only
  split
  · exact (quiet_challengeListing _ _ _ _).confinedAt
  · split
    · exact (confined_listDirectory _ _ s hs).bind hs fun _ _ _ _ => ConfinedAt.pure fun _ => rfl
    · rename_i hvirtual
      exact confinedAt_safeExecute hs hvirtual _

/-! ## Changing the directory -/

theorem confined_cdVirtual (shown place : String) :
    Confined m (cdVirtual shown place) fun o => m.Marks o.isSimulated := by
  intro s hs
  unfold cdVirtual
  refine ConfinedAt.get_bind ?_
  split
  · exact (ConfinedAt.set (Evolves.of_setCwd s place)).bind hs fun _ _ _ _ =>
      ConfinedAt.pure fun _ => rfl
  · exact ConfinedAt.pure fun _ => rfl

theorem confined_cd (target : String) : Confined m (cd target) fun o => m.Marks o.isSimulated := by
  intro s hs
  unfold cd
  refine ConfinedAt.get_bind ?_
  dsimp only
  split
  · split
    · exact ConfinedAt.pure fun _ => rfl
    · exact confined_cdVirtual _ _ s hs
  · split
    · exact confined_cdVirtual _ _ s hs
    · rename_i hoff
      cases m with
      | localMachine =>
          exact (confined_safeExecute _ s hs).bind hs fun _ _ _ _ => ConfinedAt.pure nofun
      | remoteDemo => exact absurd hs.isSimulated hoff

/-! ## Writing files -/

/-- A write that is not refused goes to a place outside the challenge. -/
theorem challengeRefusal_eq_none_iff {program path : String} :
    challengeRefusal s program path = none ↔ Challenge.contains (s.placeOf path) = false := by
  unfold challengeRefusal
  split
  · rename_i hin
    rw [hin]
    exact iff_of_false nofun nofun
  · rename_i hout
    exact iff_of_true rfl (Bool.eq_false_iff.mpr hout)

theorem confined_redirect (command : String) (write : Redirect.Write) :
    Confined m (redirect command write) fun o => m.Marks o.isSimulated := by
  intro s hs
  unfold redirect
  refine ConfinedAt.get_bind ?_
  split
  · exact ConfinedAt.pure fun _ => rfl
  · rename_i hrefusal
    have hout := challengeRefusal_eq_none_iff.mp hrefusal
    cases m with
    | localMachine =>
        rw [if_neg (by rw [hs.not_isSimulated]; decide)]
        split
        · exact (confined_safeExecute _ s hs).bind hs fun _ _ _ _ => ConfinedAt.pure nofun
        · exact (confinedAt_createFile hs fun _ => hout).bind hs fun _ _ _ _ =>
            ConfinedAt.pure nofun
    | remoteDemo =>
        rw [if_pos hs.isSimulated]
        split
        · refine confinedAt_contentOf_bind hs ?_
          rw [pure_bind]
          exact (confinedAt_createFile hs fun _ => hout).bind hs fun _ _ _ _ =>
            ConfinedAt.pure fun _ => rfl
        · rw [pure_bind]
          exact (confinedAt_createFile hs fun _ => hout).bind hs fun _ _ _ _ =>
            ConfinedAt.pure fun _ => rfl

theorem confined_mkdirOne (path : String) : Confined m (mkdirOne path) fun _ => True := by
  intro s hs
  unfold mkdirOne
  refine ConfinedAt.get_bind ?_
  split
  · exact ConfinedAt.pure trivial
  · rename_i hrefusal
    exact (confinedAt_createDirectory hs (challengeRefusal_eq_none_iff.mp hrefusal)).bind hs
      fun _ _ _ _ => ConfinedAt.pure trivial

theorem confined_touchOne (path : String) : Confined m (touchOne path) fun _ => True := by
  intro s hs
  unfold touchOne
  refine ConfinedAt.get_bind ?_
  split
  · exact ConfinedAt.pure trivial
  · rename_i hrefusal
    have hout := challengeRefusal_eq_none_iff.mp hrefusal
    cases m with
    | localMachine =>
        refine (confined_contentOf path s hs).bind hs fun r _ s' hs' => ?_
        split
        · exact ConfinedAt.pure trivial
        · exact (confinedAt_createFile hs' nofun).bind hs' fun _ _ _ _ => ConfinedAt.pure trivial
    | remoteDemo =>
        refine confinedAt_contentOf_bind hs ?_
        split
        · exact ConfinedAt.pure trivial
        · exact (confinedAt_createFile hs fun _ => hout).bind hs fun _ _ _ _ =>
            ConfinedAt.pure trivial

theorem confined_forOperands (program rest : String) {one : String → Action (Option String)}
    (h : ∀ path, Confined m (one path) fun _ => True) :
    Confined m (forOperands program rest one) fun _ => True := by
  intro s hs
  unfold forOperands
  split
  · exact ConfinedAt.pure trivial
  · refine (Confined.mapM h _ s hs).bind hs fun _ _ _ _ => ?_
    dsimp only
    split
    · exact ConfinedAt.pure trivial
    · exact ConfinedAt.pure trivial

/-! ## The challenge and other amusements -/

theorem quiet_hint : Quiet s hint := by
  unfold hint Quiet
  rw [ensuresFrom_bind, ensuresFrom_get]
  split
  · rw [ensuresFrom_bind, ensuresFrom_lift]
    exact (Assistant.ensures_withFallback (Assistant.ensures_attempt _ _) _).mono
      (fun _ hq => hq) fun _ _ => Quiet.pure rfl
  · exact Quiet.pure rfl

theorem quiet_amuse (pool : List String) : Quiet s (amuse pool) := by
  unfold amuse Quiet
  rw [ensuresFrom_bind, ensuresFrom_lift]
  exact (ensures_choose pool).mono (fun _ hq => hq) fun _ _ => Quiet.pure rfl

/-- What routing comes to, when nothing goes wrong inside the terminal. -/
def Marked (m : Mode) (r : Except RouteError Outcome) : Prop :=
  ∃ o, r = .ok o ∧ m.Marks o.isSimulated

theorem confined_ok {action : Action Outcome}
    (h : Confined m action fun o => m.Marks o.isSimulated) :
    Confined m (do return .ok (← action)) (Marked m) :=
  h.bind fun o ho _ _ => ConfinedAt.pure ⟨o, rfl, ho⟩

/-- The challenge can be started, since it is there. -/
theorem confined_hack : Confined m hack (Marked m) := by
  intro s hs
  unfold hack
  refine ConfinedAt.get_bind ?_
  -- The one thing that could go wrong does not, since the challenge is there.
  rw [if_neg (by rw [hs.challenge]; decide)]
  refine (ConfinedAt.lift (Assistant.ensures_withFallback
    (Assistant.ensures_attempt _ _) _)).bind hs fun introduction _ s' hs' => ?_
  refine (ConfinedAt.modify (Evolves.trans (Evolves.of_progress s' _)
    (Evolves.of_setCwd _ _))).bind hs' fun _ _ _ _ => ?_
  exact ConfinedAt.pure ⟨_, rfl, fun _ => rfl⟩

/-! ## Commands of the virtual machine -/

theorem confined_simulatedBuiltin? {program rest : String} {action : Action CommandResult}
    (h : simulatedBuiltin? program rest = some action) : Confined m action fun _ => True := by
  unfold simulatedBuiltin? at h
  split at h
  · cases h
    exact fun s _ => ConfinedAt.get_bind (ConfinedAt.pure trivial)
  · cases h
    exact fun s _ => ConfinedAt.get_bind (ConfinedAt.pure trivial)
  · cases h
    exact fun s _ => ConfinedAt.get_bind (ConfinedAt.pure trivial)
  · cases h
    exact fun s hs => (ConfinedAt.lift ensures_now).bind hs fun _ _ _ _ => ConfinedAt.pure trivial
  · cases h
    exact fun s _ => ConfinedAt.pure trivial
  · cases h
    exact confined_forOperands _ _ confined_mkdirOne
  · cases h
    exact confined_forOperands _ _ confined_touchOne
  · cases h

theorem confined_runVirtual (program rest command : String) :
    Confined m (runVirtual program rest command) fun o => m.Marks o.isSimulated := by
  intro s hs
  unfold runVirtual
  split
  · rename_i action haction
    exact (confined_simulatedBuiltin? haction s hs).bind hs fun _ _ _ _ =>
      ConfinedAt.pure fun _ => rfl
  · split
    · exact ConfinedAt.pure fun _ => rfl
    · exact ConfinedAt.get_bind (ConfinedAt.pure fun _ => rfl)

/-! ## Routing -/

theorem confined_dispatchProgram (program rest command : String) :
    Confined m (dispatchProgram program rest command) (Marked m) := by
  intro s hs
  unfold dispatchProgram
  split
  · exact ConfinedAt.pure ⟨_, rfl, fun _ => rfl⟩
  · exact ConfinedAt.pure ⟨_, rfl, fun _ => rfl⟩
  · exact confined_ok (fun _ _ => quiet_hint.confinedAt) s hs
  · exact confined_hack s hs
  · exact confined_ok (fun _ _ => (quiet_amuse _).confinedAt) s hs
  · exact confined_ok (fun _ _ => (quiet_amuse _).confinedAt) s hs
  · refine ConfinedAt.get_bind ?_
    split
    · exact confined_ok (confined_runVirtual _ _ _) s hs
    · rename_i hvirtual
      cases m with
      | localMachine =>
          exact (confined_safeExecute command s hs).bind hs fun _ _ _ _ =>
            ConfinedAt.pure ⟨_, rfl, nofun⟩
      | remoteDemo => exact absurd (inVirtualTree_of_isSimulated hs.isSimulated) hvirtual

theorem confined_dispatch (command : String) : Confined m (dispatch command) (Marked m) := by
  unfold dispatch
  obtain ⟨program, rest⟩ := Text.splitAtBlank command
  dsimp only
  split
  · exact confined_ok (confined_cat rest)
  · rw [ls_eq]
    exact confined_ok (confined_listing rest)
  · exact confined_ok (confined_cd rest)
  · split
    · exact confined_ok (confined_redirect _ _)
    · exact confined_dispatchProgram _ _ _

theorem confined_enter (workingDirectory : Option String) :
    Confined m (enter workingDirectory) fun _ => True := by
  intro s hs
  unfold enter
  split
  · exact ConfinedAt.pure trivial
  · split
    · exact ConfinedAt.pure trivial
    · exact ConfinedAt.modify (Evolves.of_setCwd s _)

/-- **Routing a command never goes wrong inside the terminal**, and in the demo its result is marked
as simulated. -/
theorem confined_tryRoute (command : String) (workingDirectory : Option String) :
    Confined m (tryRoute command workingDirectory) fun r =>
      ∃ result, r = .ok result ∧ m.Marks result.isSimulated := by
  unfold tryRoute
  refine (confined_enter workingDirectory).bind fun _ _ => (confined_dispatch _).bind ?_
  rintro _ ⟨o, rfl, ho⟩ s hs
  exact ConfinedAt.get_bind (ConfinedAt.pure ⟨_, rfl, ho⟩)

theorem confined_route (command : String) (workingDirectory : Option String) :
    Confined m (route command workingDirectory) fun r => m.Marks r.isSimulated := by
  unfold route
  refine (confined_tryRoute command workingDirectory).bind ?_
  rintro _ ⟨result, rfl, hresult⟩ s hs
  exact ConfinedAt.pure hresult

/-! ## Lines of input -/

theorem ensures_directoryNames (hs : Ready m s) :
    (directoryNames s).Ensures m.Allows fun _ => True := by
  unfold directoryNames
  split
  · split
    · exact ensures_done.mpr trivial
    · exact ensures_done.mpr trivial
  · rename_i hvirtual
    cases m with
    | localMachine => exact ensures_ask.mpr ⟨trivial, fun _ => ensures_done.mpr trivial⟩
    | remoteDemo => exact absurd (inVirtualTree_of_isSimulated hs.isSimulated) hvirtual

theorem ensures_commandsFor (hs : Ready m s) (router : Router) (input : String) :
    (router.commandsFor s input).Ensures m.Allows fun _ => True := by
  unfold commandsFor
  split
  · unfold context
    simp only [ensures_bind]
    refine (ensures_directoryNames hs).mono (fun _ hq => hq) fun names _ => ?_
    rw [pure_eq, ensures_done]
    refine Ensures.mono (Assistant.ensures_withFallback (Assistant.ensures_attempt _ _) _)
      (fun _ hq => hq) fun i _ => ?_
    exact ensures_done.mpr trivial
  · exact ensures_done.mpr trivial

theorem confined_runSteps (commands : List String) :
    Confined m (runSteps commands) fun steps =>
      ∀ step ∈ steps, m.Marks step.result.isSimulated := by
  induction commands with
  | nil => exact fun s _ => ConfinedAt.pure (by simp)
  | cons command rest ih =>
      unfold runSteps
      refine (confined_route command none).bind fun result hresult s hs => ?_
      split
      · refine (ih s hs).bind hs fun steps hsteps s' _ => ConfinedAt.pure ?_
        intro step hstep
        rcases List.mem_cons.mp hstep with rfl | hstep
        · exact hresult
        · exact hsteps step hstep
      · refine ConfinedAt.pure fun step hstep => ?_
        rw [List.mem_singleton.mp hstep]
        exact hresult

/-- **A line of input is confined**, whatever the model makes of it. -/
theorem confined_submit (router : Router) (input : String) :
    Confined m (router.submit input) fun submission =>
      ∀ step ∈ submission.steps, m.Marks step.result.isSimulated := by
  intro s hs
  unfold submit
  dsimp only
  split
  · exact ConfinedAt.pure (by simp)
  · refine ConfinedAt.get_bind ?_
    refine (ConfinedAt.lift (ensures_commandsFor hs router _)).bind hs fun r _ s' hs' => ?_
    obtain ⟨interpretation, commands⟩ := r
    refine (ConfinedAt.modify ?_).bind hs' fun _ _ s'' hs'' => ?_
    · unfold Session.record
      dsimp only
      split
      · exact Evolves.refl s'
      · exact Evolves.of_store ⟨s'.executor.cwd, rfl⟩ rfl
    · exact (confined_runSteps commands s'' hs'').bind hs'' fun steps hsteps _ _ =>
        ConfinedAt.pure hsteps

end Router

end PlainTerminal
