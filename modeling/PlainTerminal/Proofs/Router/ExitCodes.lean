import PlainTerminal.Proofs.Dialogue.Reliance
import PlainTerminal.Proofs.Router.Listing

/-!
# Exit codes tell of success

A result is coherent if it counts as a success exactly when its exit code is zero. The results that
the terminal makes by itself are, and the outcome of an operation on files becomes one when it is
told as that of a command. What the real shell answers is handed on as it is, so all of it rests on
the shell: as long as every reply of it is coherent, so is every result of routing, and every step
of a line of input.

Hardly any command looks at a result before its last step. So the proofs follow the branches of each
command to their ends, and only there is something to show.
-/

namespace PlainTerminal

open Dialogue

/-- A reply of the real shell is coherent; other answers may be anything. -/
def Question.RepliesCoherently : (q : Question) → q.Answer → Prop
  | .runCommand _, reply => CommandResult.IsCoherent reply
  | _, _ => True

namespace CommandResult

theorem isCoherent_ok (stdout : String) : (ok stdout).IsCoherent := rfl

theorem isCoherent_failure {exitCode : Int} (h : exitCode ≠ 0) (stderr : String) :
    (failure stderr exitCode).IsCoherent := by
  unfold IsCoherent failure
  exact (decide_eq_false h).symm

end CommandResult

open CommandResult

/-- The outcome of an operation on files is told as a coherent one, whatever it was. -/
theorem FileResult.isCoherent_toCommand (r : FileResult) : r.toCommand.IsCoherent := by
  unfold FileResult.toCommand
  split
  · exact isCoherent_ok _
  · -- a failure with exit code zero is told as one with exit code one
    unfold IsCoherent
    dsimp only
    split
    · rfl
    · rename_i hcode
      exact (decide_eq_false hcode).symm

/-! ## The real shell -/

theorem Executor.ensuresIf_safeExecute (e : Executor) (command : String) :
    (e.safeExecute command).EnsuresIf Question.RepliesCoherently fun r => r.1.IsCoherent := by
  unfold safeExecute execute
  split
  · exact ensuresIf_done.mpr (isCoherent_failure (by decide) _)
  · dsimp only
    split
    · unfold changeDirectory
      refine ensuresIf_ask.mpr ?_
      intro there _
      cases there with
      | true => exact ensuresIf_done.mpr (isCoherent_ok _)
      | false => exact ensuresIf_done.mpr (isCoherent_failure (by decide) _)
    · refine ensuresIf_ask.mpr ?_
      intro reply hreply
      exact ensuresIf_done.mpr hreply

theorem Session.yields_safeExecute (command : String) :
    Yields Question.RepliesCoherently IsCoherent (safeExecute command) := by
  refine Yields.last ?_
  intro s
  refine (Yields.lift (s.executor.ensuresIf_safeExecute command)).bind ?_
  intro r hr
  exact Yields.last fun _ => Yields.pure hr

/-! ## Outcomes -/

/-- With a coherent shell, the outcome of the action is coherent. -/
def Coherent (action : Action Outcome) : Prop :=
  Yields Question.RepliesCoherently (fun o => o.result.IsCoherent) action

/-- With a coherent shell, what dispatching comes to is coherent if it is an outcome. -/
def CoherentIfOk (action : Action (Except RouteError Outcome)) : Prop :=
  Yields Question.RepliesCoherently (fun r => ∀ o, r = .ok o → o.result.IsCoherent) action

namespace Coherent

theorem ok (stdout : String) : Coherent (pure (.ok stdout)) := Yields.pure (isCoherent_ok stdout)

theorem failure {exitCode : Int} (h : exitCode ≠ 0) (stderr : String) :
    Coherent (pure (.failure stderr exitCode)) :=
  Yields.pure (isCoherent_failure h stderr)

theorem ofFile (r : FileResult) (isSimulated : Bool) :
    Coherent (pure ⟨r.toCommand, isSimulated⟩) :=
  Yields.pure r.isCoherent_toCommand

theorem safeExecute (command : String) (isSimulated : Bool) :
    Coherent (do return ⟨← Session.safeExecute command, isSimulated⟩) :=
  (Session.yields_safeExecute command).bind fun _ hresult => Yields.pure hresult

theorem map_ok {action : Action Outcome} (h : Coherent action) :
    CoherentIfOk (do return .ok (← action)) := by
  refine h.bind ?_
  intro o ho
  refine Yields.pure ?_
  intro o' heq
  cases heq
  exact ho

end Coherent

theorem CoherentIfOk.ok (stdout : String) : CoherentIfOk (pure (.ok (.ok stdout))) := by
  refine Yields.pure ?_
  intro o heq
  cases heq
  exact isCoherent_ok stdout

namespace Router

/-! ## Files and directories -/

theorem coherent_catChallenge (path place : String) : Coherent (catChallenge path place) := by
  unfold catChallenge
  refine Yields.last fun s => ?_
  split
  · exact Coherent.failure (by decide) _
  · split
    · exact Yields.last fun text => Coherent.ok text
    · split
      · refine Yields.last fun _ => ?_
        split
        · exact Coherent.ok _
        · exact Coherent.failure (by decide) _
      · split
        · exact Coherent.failure (by decide) _
        · exact Coherent.failure (by decide) _
        · split
          · exact Coherent.ok _
          · exact Yields.last fun _ => Coherent.ok _

theorem coherent_catOne (path : String) : Coherent (catOne path) := by
  unfold catOne
  refine Yields.last fun s => ?_
  dsimp only
  split
  · exact coherent_catChallenge _ _
  · exact Yields.last fun result => Coherent.ofFile result _

theorem coherent_cat (rest : String) : Coherent (cat rest) := by
  unfold cat
  refine Yields.last fun s => ?_
  split
  · exact Yields.pure (isCoherent_failure (by decide) _)
  · exact coherent_catOne _
  · split
    · refine Yields.last fun r => ?_
      dsimp only
      split
      · exact Coherent.ok _
      · exact Yields.pure rfl
    · exact Coherent.safeExecute _ _

theorem coherent_challengeListing (path place : String) (showHidden long : Bool) :
    Coherent (challengeListing path place showHidden long) := by
  unfold challengeListing
  refine Yields.last fun s => ?_
  split
  · exact Coherent.failure (by decide) _
  · split
    · exact Coherent.failure (by decide) _
    · exact Coherent.ok _
    · dsimp only
      split
      · exact Coherent.ok _
      · exact Coherent.ok _

theorem coherent_listing (rest : String) : Coherent (listing rest) := by
  unfold listing
  refine Yields.last fun s => ?_
  dsimp only
  split
  · exact coherent_challengeListing _ _ _ _
  · split
    · exact Yields.last fun result => Coherent.ofFile result true
    · exact Coherent.safeExecute _ _

theorem coherent_cdVirtual (shown place : String) : Coherent (cdVirtual shown place) := by
  unfold cdVirtual
  refine Yields.last fun s => ?_
  split
  · exact Yields.last fun _ => Coherent.ok _
  · exact Coherent.failure (by decide) _

theorem coherent_cd (target : String) : Coherent (cd target) := by
  unfold cd
  refine Yields.last fun s => ?_
  dsimp only
  split
  · split
    · exact Coherent.failure (by decide) _
    · exact coherent_cdVirtual _ _
  · split
    · exact coherent_cdVirtual _ _
    · exact Coherent.safeExecute _ _

theorem coherent_redirect (command : String) (write : Redirect.Write) :
    Coherent (redirect command write) := by
  unfold redirect
  refine Yields.last fun s => ?_
  split
  · exact Coherent.failure (by decide) _
  · dsimp only
    split
    · split
      · exact Yields.last fun _ => Yields.last fun _ => Yields.last fun result =>
          Coherent.ofFile result true
      · exact Yields.last fun _ => Yields.last fun result => Coherent.ofFile result true
    · split
      · exact Coherent.safeExecute _ _
      · exact Yields.last fun result => Coherent.ofFile result false

/-! ## The other commands -/

theorem coherent_hint : Coherent hint := by
  unfold hint
  refine Yields.last fun s => ?_
  split
  · exact Yields.last fun _ => Coherent.ok _
  · exact Coherent.ok _

theorem coherent_amuse (pool : List String) : Coherent (amuse pool) :=
  Yields.last fun _ => Coherent.ok _

theorem yields_forOperands (program rest : String) (one : String → Action (Option String)) :
    Yields Question.RepliesCoherently IsCoherent (forOperands program rest one) := by
  unfold forOperands
  split
  · exact Yields.pure (isCoherent_failure (by decide) _)
  · refine Yields.last fun errors => ?_
    dsimp only
    split
    · exact Yields.pure (isCoherent_ok _)
    · exact Yields.pure (isCoherent_failure (by decide) _)

theorem yields_simulatedBuiltin? {program rest : String} {action : Action CommandResult}
    (h : simulatedBuiltin? program rest = some action) :
    Yields Question.RepliesCoherently IsCoherent action := by
  unfold simulatedBuiltin? at h
  split at h
  · cases h
    exact Yields.last fun _ => Yields.pure (isCoherent_ok _)
  · cases h
    exact Yields.last fun _ => Yields.pure (isCoherent_ok _)
  · cases h
    exact Yields.last fun _ => Yields.pure (isCoherent_ok _)
  · cases h
    exact Yields.last fun _ => Yields.pure (isCoherent_ok _)
  · cases h
    exact Yields.pure (isCoherent_ok _)
  · cases h
    exact yields_forOperands _ _ _
  · cases h
    exact yields_forOperands _ _ _
  · cases h

theorem coherent_runVirtual (program rest command : String) :
    Coherent (runVirtual program rest command) := by
  unfold runVirtual
  split
  · rename_i action haction
    exact (yields_simulatedBuiltin? haction).bind fun result hresult => Yields.pure hresult
  · split
    · exact Coherent.failure (by decide) _
    · exact Yields.last fun s => Coherent.failure (by decide) _

/-! ## Routing -/

theorem coherent_hack : CoherentIfOk hack := by
  unfold hack
  refine Yields.last fun s => ?_
  split
  · exact Yields.pure nofun
  · exact Yields.last fun introduction => Yields.last fun _ => CoherentIfOk.ok _

theorem coherent_dispatchProgram (program rest command : String) :
    CoherentIfOk (dispatchProgram program rest command) := by
  unfold dispatchProgram
  split
  · exact CoherentIfOk.ok _
  · exact CoherentIfOk.ok _
  · exact coherent_hint.map_ok
  · exact coherent_hack
  · exact (coherent_amuse Seed.jokes).map_ok
  · exact (coherent_amuse Seed.fortunes).map_ok
  · refine Yields.last fun s => ?_
    split
    · exact (coherent_runVirtual program rest command).map_ok
    · refine (Session.yields_safeExecute command).bind ?_
      intro result hresult
      refine Yields.pure ?_
      intro o heq
      cases heq
      exact hresult

theorem coherent_dispatch (command : String) : CoherentIfOk (dispatch command) := by
  unfold dispatch
  split
  split
  · exact (coherent_cat _).map_ok
  · rw [ls_eq]
    exact (coherent_listing _).map_ok
  · exact (coherent_cd _).map_ok
  · split
    · exact (coherent_redirect _ _).map_ok
    · exact coherent_dispatchProgram _ _ _

/-- Both ends of routing are coherent, the result and the internal error. -/
theorem yields_tryRoute (command : String) (workingDirectory : Option String) :
    Yields Question.RepliesCoherently
      (fun r => ∀ result : ExecutionResult, r = .ok result ∨ r = .error result →
        result.result.IsCoherent) (tryRoute command workingDirectory) := by
  unfold tryRoute
  refine Yields.last fun _ => (coherent_dispatch _).bind ?_
  intro r hr
  cases r with
  | ok o =>
      refine Yields.last fun s => Yields.pure ?_
      intro result hresult
      rcases hresult with heq | heq
      · cases heq
        exact hr o rfl
      · cases heq
  | error e =>
      refine Yields.last fun s => Yields.pure ?_
      intro result hresult
      rcases hresult with heq | heq
      · cases heq
      · cases heq
        exact isCoherent_failure (by decide) _

theorem yields_route (command : String) (workingDirectory : Option String) :
    Yields Question.RepliesCoherently (fun result => result.result.IsCoherent)
      (route command workingDirectory) := by
  unfold route
  refine (yields_tryRoute command workingDirectory).bind ?_
  intro r hr
  cases r with
  | ok result => exact Yields.pure (hr result (Or.inl rfl))
  | error result => exact Yields.pure (hr result (Or.inr rfl))

theorem yields_runSteps (commands : List String) :
    Yields Question.RepliesCoherently
      (fun steps => ∀ step ∈ steps, step.result.result.IsCoherent) (runSteps commands) := by
  induction commands with
  | nil => exact Yields.pure (List.forall_mem_nil _)
  | cons command rest ih =>
      unfold runSteps
      refine (yields_route command none).bind ?_
      intro result hresult
      split
      · refine ih.bind ?_
        intro steps hsteps
        exact Yields.pure (List.forall_mem_cons.mpr ⟨hresult, hsteps⟩)
      · exact Yields.pure (List.forall_mem_singleton.mpr hresult)

theorem yields_submit (router : Router) (input : String) :
    Yields Question.RepliesCoherently
      (fun submission => ∀ step ∈ submission.steps, step.result.result.IsCoherent)
      (router.submit input) := by
  unfold submit
  dsimp only
  split
  · exact Yields.pure (List.forall_mem_nil _)
  · refine Yields.last fun s => Yields.last fun r => Yields.last fun _ => ?_
    refine (yields_runSteps r.2).bind ?_
    intro steps hsteps
    exact Yields.pure hsteps

/-- **Exit codes tell of success.** In every session, with somebody who answers for the real shell
by coherent replies and otherwise as they like, every result of routing is coherent, whether it is
an outcome or an internal error, and so is every step of a line of input. -/
theorem exit_codes_coherent {σ : Type} (answer : (q : Question) → σ → q.Answer × σ)
    (hshell : ∀ call state, CommandResult.IsCoherent (answer (.runCommand call) state).1)
    (s : Session) (state : σ) :
    (∀ command workingDirectory,
      (((route command workingDirectory).run s).run answer state).1.1.result.IsCoherent) ∧
    (∀ command workingDirectory result,
      (((tryRoute command workingDirectory).run s).run answer state).1.1 = .ok result ∨
        (((tryRoute command workingDirectory).run s).run answer state).1.1 = .error result →
      result.result.IsCoherent) ∧
    ∀ (router : Router) (input : String),
      ∀ step ∈ (((router.submit input).run s).run answer state).1.1.steps,
        step.result.result.IsCoherent := by
  have hanswer : ∀ (q : Question) (state : σ), q.RepliesCoherently (answer q state).1 := by
    intro q state
    cases q with
    | runCommand call => exact hshell call state
    | isDirectory path => trivial
    | listDirectory path => trivial
    | complete request => trivial
    | now => trivial
    | pick last => trivial
  refine ⟨?_, ?_, ?_⟩
  · intro command workingDirectory
    exact (yields_route command workingDirectory s).run hanswer state
  · intro command workingDirectory result
    exact (yields_tryRoute command workingDirectory s).run hanswer state result
  · intro router input
    exact (yields_submit router input s).run hanswer state

/-- An outside in which every command fails with exit code 2, and the model wants two of them run. -/
def failing (q : Question) (_ : Unit) : q.Answer × Unit :=
  (match q with
    | .runCommand _ => CommandResult.failure "No rule to make target" 2
    | .isDirectory _ => false
    | .listDirectory _ => (["Makefile"] : List String)
    | .complete _ =>
      (.ok "\x7b\"commands\": [\"make all\", \"cat README\"]\x7d" : Except ModelError String)
    | .now => (⟨0⟩ : Timestamp)
    | .pick last => (⟨0, last.succ_pos⟩ : Fin (last + 1)), ())

/-- The exit code of the real shell is that of the only step, and tells that it failed. -/
theorem exit_codes_coherent_failing :
    let router : Router := { environment := .ofLocal, gate := fun _ => .naturalLanguage }
    let s : Session := .new (.new "/work" "/home/user" ⟨30000, 1048576⟩) .localMachine ⟨0⟩
    let steps := (((router.submit "build all").run s).run failing ()).1.1.steps
    (∀ call state, CommandResult.IsCoherent (failing (.runCommand call) state).1) ∧
      steps.map (fun step => (step.command, step.result.result.exitCode)) = [("make all", 2)] ∧
      ∀ step ∈ steps, step.result.result.IsCoherent := by
  intro router s steps
  have hshell : ∀ call state, CommandResult.IsCoherent (failing (.runCommand call) state).1 :=
    fun _ _ => isCoherent_failure (by decide) _
  exact ⟨hshell, by decide +kernel, (exit_codes_coherent failing hshell s ()).2.2 router _⟩

end Router

end PlainTerminal
