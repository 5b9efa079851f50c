import PlainTerminal.Proofs.Router.Operands
import PlainTerminal.Proofs.Router.ReadBack
import PlainTerminal.Proofs.Router.Submission

/-!
# Words that the terminal answers by itself

Two places decide what a word is that the terminal answers by itself. A line that begins with one is
kept from the language model, and for that the word may be typed in any letters: it is looked up in
lower case. Then the line is dispatched as it was typed. So the two agree on a word in lower case,
and on no other: in capitals it is a program that the virtual machine does not have and that the
real shell is asked to run.
-/

namespace PlainTerminal

open Dialogue

/-- The question is not for the real shell, and it does not ask the model to interpret a line. -/
def Question.IsAside (q : Question) : Prop :=
  ¬ q.isRun = true ∧ ∀ line, ¬ Router.AsksToInterpret line q

/-- Only an interpretation is asked for as an object. -/
theorem Question.isAside_complete {request : CompletionRequest}
    (h : request.wantsObject = false) : Question.IsAside (.complete request) := by
  refine ⟨nofun, ?_⟩
  rintro line ⟨context, hrequest⟩
  rw [Question.complete.inj hrequest] at h
  cases h

theorem Question.isAside_pick (last : Nat) : Question.IsAside (.pick last) := by
  refine ⟨nofun, ?_⟩
  rintro line ⟨context, hrequest⟩
  cases hrequest

/-- The outcome of an answer that the terminal has by itself. -/
structure Outcome.IsOwn (o : Outcome) : Prop where
  success : o.result.success = true
  isSimulated : o.isSimulated = true

theorem Outcome.isOwn_ok (stdout : String) : (Outcome.ok stdout).IsOwn := ⟨rfl, rfl⟩

namespace Router

variable {s : Session} {program rest command input : String} {router : Router}

/-! ## A word in lower case -/

theorem own_hint : EnsuresFrom Question.IsAside (fun o _ => o.IsOwn) s hint := by
  unfold hint
  rw [ensuresFrom_bind, ensuresFrom_get]
  split
  · rw [ensuresFrom_bind, ensuresFrom_lift]
    refine (Assistant.ensures_withFallback (Assistant.ensures_attempt_of
      (Question.isAside_complete rfl) _) _).mono (fun _ hq => hq) fun _ _ => ?_
    exact ensuresFrom_pure.mpr (Outcome.isOwn_ok _)
  · exact ensuresFrom_pure.mpr (Outcome.isOwn_ok _)

theorem own_amuse (pool : List String) :
    EnsuresFrom Question.IsAside (fun o _ => o.IsOwn) s (amuse pool) := by
  unfold amuse
  rw [ensuresFrom_bind, ensuresFrom_lift]
  exact ensures_ask.mpr ⟨Question.isAside_pick _, fun _ => ensures_done.mpr
    (ensuresFrom_pure.mpr (Outcome.isOwn_ok _))⟩

/-- What dispatching comes to is an answer that the terminal has by itself. -/
def IsOwnAnswer (r : Except RouteError Outcome) : Prop := ∃ o, r = .ok o ∧ o.IsOwn

theorem own_hack (hroot : s.store.tree.isDirectory Challenge.root = true) :
    EnsuresFrom Question.IsAside (fun r _ => IsOwnAnswer r) s hack := by
  unfold hack
  rw [ensuresFrom_bind, ensuresFrom_get, hroot, if_neg (by decide), ensuresFrom_bind,
    ensuresFrom_lift]
  refine (Assistant.ensures_withFallback (Assistant.ensures_attempt_of
    (Question.isAside_complete rfl) _) _).mono (fun _ hq => hq) fun introduction _ => ?_
  rw [ensuresFrom_bind, ensuresFrom_modify]
  exact ensuresFrom_pure.mpr ⟨_, rfl, Outcome.isOwn_ok _⟩

theorem own_ok {action : Action Outcome}
    (h : EnsuresFrom Question.IsAside (fun o _ => o.IsOwn) s action) :
    EnsuresFrom Question.IsAside (fun r _ => IsOwnAnswer r) s (do return .ok (← action)) := by
  rw [ensuresFrom_bind]
  exact h.mono (fun _ hq => hq) fun o _ ho => ensuresFrom_pure.mpr ⟨o, rfl, ho⟩

/-- The terminal has an answer for each of its words. -/
theorem own_dispatchProgram (hroot : s.store.tree.isDirectory Challenge.root = true)
    (hprogram : program ∈ builtins) (rest command : String) :
    EnsuresFrom Question.IsAside (fun r _ => IsOwnAnswer r) s
      (dispatchProgram program rest command) := by
  simp only [builtins, List.mem_cons, List.not_mem_nil, or_false] at hprogram
  unfold dispatchProgram
  rcases hprogram with rfl | rfl | rfl | rfl | rfl | rfl
  · exact ensuresFrom_pure.mpr ⟨_, rfl, Outcome.isOwn_ok _⟩
  · exact own_ok own_hint
  · exact own_hack hroot
  · exact own_ok (own_amuse _)
  · exact own_ok (own_amuse _)
  · exact ensuresFrom_pure.mpr ⟨_, rfl, Outcome.isOwn_ok _⟩

/-! ## A word in other letters -/

/-- The programs of the virtual machine. -/
def programs : List String :=
  ["cat", "ls", "cd", "echo", "pwd", "whoami", "hostname", "date", "mkdir", "touch"]

/-- In whatever letters it is typed, no word of the terminal is one of these programs. -/
theorem not_mem_programs (hlower : Text.lowercase program ∈ builtins) : program ∉ programs := by
  have hnone : ∀ name ∈ programs, Text.lowercase name ∉ builtins := by decide +kernel
  exact fun hmem => hnone program hmem hlower

theorem ne_of_mem_programs {name : String} (hlower : Text.lowercase program ∈ builtins)
    (hname : name ∈ programs) : program ≠ name := by
  rintro rfl
  exact not_mem_programs hlower hname

theorem dispatch_of_lowercase (hsplit : Text.splitAtBlank command = (program, rest))
    (hlower : Text.lowercase program ∈ builtins) :
    dispatch command = dispatchProgram program rest command :=
  dispatch_other hsplit (ne_of_mem_programs hlower (by decide))
    (ne_of_mem_programs hlower (by decide)) (ne_of_mem_programs hlower (by decide))
    (Redirect.parse?_eq_none_of_program hsplit (ne_of_mem_programs hlower (by decide)))

/-- A word that is not among those of the terminal is a program. -/
theorem dispatchProgram_of_not_mem (hprogram : program ∉ builtins) :
    dispatchProgram program rest command = (do
      if (← get).inVirtualTree then return .ok (← runVirtual program rest command)
      else return .ok ⟨← Session.safeExecute command, false⟩) := by
  unfold dispatchProgram
  split
  · exact absurd (by decide) hprogram
  · exact absurd (by decide) hprogram
  · exact absurd (by decide) hprogram
  · exact absurd (by decide) hprogram
  · exact absurd (by decide) hprogram
  · exact absurd (by decide) hprogram
  · rfl

theorem simulatedBuiltin?_of_not_mem (h : program ∉ programs) :
    simulatedBuiltin? program rest = none := by
  unfold simulatedBuiltin?
  split
  · exact absurd (by decide) h
  · exact absurd (by decide) h
  · exact absurd (by decide) h
  · exact absurd (by decide) h
  · exact absurd (by decide) h
  · exact absurd (by decide) h
  · exact absurd (by decide) h
  · rfl

/-- The virtual machine does not have any other program. -/
theorem failed_runVirtual (h : program ∉ programs) :
    EnsuresFrom (fun _ => True) (fun o _ => o.result.success = false) s
      (runVirtual program rest command) := by
  unfold runVirtual
  rw [simulatedBuiltin?_of_not_mem h]
  dsimp only
  split
  · exact ensuresFrom_pure.mpr rfl
  · rw [ensuresFrom_bind, ensuresFrom_get]
    exact ensuresFrom_pure.mpr rfl

/-- In other letters a word of the terminal either fails, or is what the real shell makes of it. -/
theorem not_own_dispatchProgram (hlower : Text.lowercase program ∈ builtins)
    (hprogram : program ∉ builtins) :
    EnsuresFrom (fun _ => True) (fun r _ => ∃ o, r = Except.ok o ∧ ¬ o.IsOwn) s
      (dispatchProgram program rest command) := by
  rw [dispatchProgram_of_not_mem hprogram, ensuresFrom_bind, ensuresFrom_get]
  split
  · -- The virtual machine has no program of that name.
    rw [ensuresFrom_bind]
    refine (failed_runVirtual (not_mem_programs hlower)).mono (fun _ hq => hq) ?_
    intro o s' hfailed
    refine ensuresFrom_pure.mpr ⟨o, rfl, fun hown => ?_⟩
    rw [hown.success] at hfailed
    cases hfailed
  · -- Whatever the real shell makes of it, the outcome is not marked as simulated.
    rw [ensuresFrom_bind]
    refine (ensuresFrom_true _ s).mono (fun _ hq => hq) ?_
    intro result s' _
    exact ensuresFrom_pure.mpr ⟨_, rfl, fun hown => Bool.false_ne_true hown.isSimulated⟩

/-! ## Routing a line -/

/-- A line that begins with such a word is answered by the terminal itself exactly if the word is
typed in lower case. -/
theorem own_route_iff (hroot : s.store.tree.isDirectory Challenge.root = true)
    (hlower : Text.lowercase (Text.splitAtBlank (Text.trim command)).1 ∈ builtins) :
    EnsuresFrom Question.IsAside (fun r _ => r.success = true ∧ r.isSimulated = true) s
        (route command none) ↔ (Text.splitAtBlank (Text.trim command)).1 ∈ builtins := by
  cases hsplit : Text.splitAtBlank (Text.trim command) with
  | mk program rest =>
      rw [hsplit] at hlower
      rw [ensuresFrom_route, dispatch_of_lowercase hsplit hlower]
      constructor
      · intro hown
        by_contra hprogram
        obtain ⟨_, _, ⟨hsuccess, hsimulated⟩, o, rfl, hnot⟩ :=
          hown.exists_both (not_own_dispatchProgram hlower hprogram)
        exact hnot ⟨hsuccess, hsimulated⟩
      · intro hprogram
        refine (own_dispatchProgram hroot hprogram _ _).mono (fun _ hq => hq) ?_
        rintro _ s' ⟨o, rfl, ho⟩
        exact ⟨ho.success, ho.isSimulated⟩

theorem runSteps_singleton (command : String) :
    runSteps [command] = (do return [⟨command, ← route command none⟩]) := by
  unfold runSteps
  refine bind_congr fun result => ?_
  split
  · unfold runSteps
    rw [pure_bind]
  · rfl

/-- Such a line is noted and routed as it stands. -/
theorem run_submit_of_lowercase (router : Router) (s : Session)
    (hlower : Text.lowercase ((Text.words input).headD "") ∈ builtins) :
    (router.submit input).run s
      = StateT.run (do return ⟨none, [⟨Text.trim input, ← route (Text.trim input) none⟩]⟩)
          (s.record (Text.trim input)) := by
  have hne : Text.trim input ≠ "" := by
    intro hempty
    rw [← Text.words_trim, hempty] at hlower
    exact absurd hlower (by decide +kernel)
  have hread : ¬ router.ReadByModel (Text.trim input) := by
    intro hread
    rw [ReadByModel, Text.words_trim] at hread
    exact hread.1 hlower
  unfold submit
  dsimp only
  -- Nobody is asked which commands the line is, so it is its own only one.
  have hliteral : (liftM (router.commandsFor s (Text.trim input)) : Action _).run s
      = done ((none, [Text.trim input]), s) := by
    rw [commandsFor_of_not_readByModel hread]
    rfl
  rw [if_neg hne, StateT.run_bind, StateT.run_get, pure_bind]
  dsimp only
  rw [StateT.run_bind, hliteral, done_bind]
  dsimp only
  rw [runSteps_singleton, StateT.run_bind, StateT.run_modify, pure_bind, LawfulMonad.bind_assoc]
  simp only [pure_bind]

theorem ensuresFrom_submit_of_lowercase {asks : Question → Prop}
    {post : Submission → Session → Prop}
    (hlower : Text.lowercase ((Text.words input).headD "") ∈ builtins) :
    EnsuresFrom asks post s (router.submit input) ↔
      EnsuresFrom asks (fun r s' => post ⟨none, [⟨Text.trim input, r⟩]⟩ s')
        (s.record (Text.trim input)) (route (Text.trim input) none) := by
  have hrun := run_submit_of_lowercase router s hlower
  have hsame : EnsuresFrom asks post s (router.submit input) ↔
      EnsuresFrom asks post (s.record (Text.trim input))
        (do return ⟨none, [⟨Text.trim input, ← route (Text.trim input) none⟩]⟩) := by
    unfold EnsuresFrom
    rw [hrun]
  rw [hsame, ensuresFrom_bind]
  simp only [ensuresFrom_pure]

theorem reachesFrom_submit_of_lowercase {p : Question → Prop}
    (hlower : Text.lowercase ((Text.words input).headD "") ∈ builtins)
    (h : ReachesFrom p (s.record (Text.trim input)) (route (Text.trim input) none)) :
    ReachesFrom p s (router.submit input) := by
  have hrun := run_submit_of_lowercase router s hlower
  have hanswer : ReachesFrom p (s.record (Text.trim input))
      (do return (⟨none, [⟨Text.trim input, ← route (Text.trim input) none⟩]⟩ : Submission)) :=
    h.bind
  unfold ReachesFrom at hanswer ⊢
  rw [hrun]
  exact hanswer

/-- The line is kept from the model and answered in one step, which succeeds without the real
shell. -/
structure Answered (line : String) (submission : Submission) : Prop where
  uninterpreted : submission.interpretation = none
  alone : ∃ result, submission.steps = [⟨line, result⟩] ∧ result.success = true ∧
    result.isSimulated = true

theorem answered_iff {line : String} {result : ExecutionResult} :
    Answered line ⟨none, [⟨line, result⟩]⟩ ↔
      result.success = true ∧ result.isSimulated = true := by
  constructor
  · rintro ⟨-, other, hsteps, hown⟩
    cases hsteps
    exact hown
  · intro hown
    exact ⟨rfl, result, rfl, hown⟩

/-- **The terminal answers a line by itself**, whatever follows the first word, exactly if that is
typed in lower case. -/
theorem answers_itself_iff (router : Router) (s : Session)
    (hroot : s.store.tree.isDirectory Challenge.root = true) (input : String)
    (hlower : Text.lowercase ((Text.words input).headD "") ∈ builtins) :
    EnsuresFrom Question.IsAside (fun submission _ => Answered (Text.trim input) submission) s
        (router.submit input) ↔ (Text.words input).headD "" ∈ builtins := by
  have hroot' : (s.record (Text.trim input)).store.tree.isDirectory Challenge.root = true := by
    obtain ⟨history, hrecord⟩ := s.exists_record (Text.trim input)
    rw [hrecord]
    exact hroot
  have hfirst : (Text.words input).headD ""
      = (Text.splitAtBlank (Text.trim (Text.trim input))).1 := by
    rw [Text.trim_trim, Text.headD_words]
  rw [ensuresFrom_submit_of_lowercase hlower]
  simp only [answered_iff]
  rw [hfirst] at hlower ⊢
  exact own_route_iff hroot' hlower

/-- The first word counts, whatever blank and whatever text follow it. -/
theorem answers_itself_iff_hack : demo.store.tree.isDirectory Challenge.root = true ∧
    Text.lowercase ((Text.words " hack\tthe planet").headD "") ∈ builtins ∧
    EnsuresFrom Question.IsAside (fun submission _ => Answered "hack\tthe planet" submission) demo
      (({ environment := .ofRemote } : Router).submit " hack\tthe planet") := by
  have hroot : demo.store.tree.isDirectory Challenge.root = true := by decide +kernel
  have hlower : Text.lowercase ((Text.words " hack\tthe planet").headD "") ∈ builtins := by
    decide +kernel
  have htrim : Text.trim " hack\tthe planet" = "hack\tthe planet" := by decide +kernel
  have hanswers := answers_itself_iff { environment := .ofRemote } demo hroot
    " hack\tthe planet" hlower
  rw [htrim] at hanswers
  exact ⟨hroot, hlower, hanswers.mpr (by decide +kernel)⟩

/-- On the user's own machine a word in other letters is handed to the real shell, unless the policy
has something against the line. -/
theorem reaches_run_of_other_letters (hreal : s.inVirtualTree = false)
    (hlower : Text.lowercase ((Text.words input).headD "") ∈ builtins)
    (hother : (Text.words input).headD "" ∉ builtins)
    (hpasses : Policy.violation? (Text.trim input) = none) :
    ReachesFrom (fun q => q.isRun = true) s (router.submit input) := by
  refine reachesFrom_submit_of_lowercase hlower (reachesFrom_route ?_)
  rw [entering_none, Text.trim_trim]
  obtain ⟨history, hrecord⟩ := s.exists_record (Text.trim input)
  have hreal' : ¬ (s.record (Text.trim input)).inVirtualTree = true := by
    rw [hrecord]
    exact Bool.eq_false_iff.mp hreal
  rw [Text.headD_words] at hlower hother
  cases hsplit : Text.splitAtBlank (Text.trim input) with
  | mk program rest =>
      rw [hsplit] at hlower hother
      have hcd : Executor.cdTarget? (Text.trim (Text.trim input)) = none := by
        refine Executor.cdTarget?_of_program ?_
        rw [Text.trim_trim, hsplit]
        exact ne_of_mem_programs hlower (by decide)
      rw [dispatch_of_lowercase hsplit hlower, dispatchProgram_of_not_mem hother]
      refine ReachesFrom.get_bind ?_
      rw [if_neg hreal']
      exact (Session.safeExecute_runs hpasses hcd).bind

/-- A cry for help is a command of the real shell. -/
theorem help_in_capitals_runs : ownMachine.store.tree.isDirectory Challenge.root = true ∧
    Text.lowercase ((Text.words "HELP").headD "") ∈ builtins ∧
    ReachesFrom (fun q => q.isRun = true) ownMachine
      (({ environment := .ofLocal } : Router).submit "HELP") ∧
    ¬ EnsuresFrom Question.IsAside (fun submission _ => Answered "HELP" submission) ownMachine
      (({ environment := .ofLocal } : Router).submit "HELP") := by
  have hlower : Text.lowercase ((Text.words "HELP").headD "") ∈ builtins := by decide +kernel
  have hruns : ReachesFrom (fun q => q.isRun = true) ownMachine
      (({ environment := .ofLocal } : Router).submit "HELP") :=
    reaches_run_of_other_letters (by decide +kernel) hlower (by decide +kernel) (by decide +kernel)
  refine ⟨by decide +kernel, hlower, hruns, fun hanswered => ?_⟩
  exact hruns.not_avoids (hanswered.mono (fun _ hq => hq.1) fun _ _ hpost => hpost).avoids

end Router

end PlainTerminal
