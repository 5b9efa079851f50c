import PlainTerminal.Proofs.Dialogue.Course
import PlainTerminal.Proofs.Router.Calls

/-!
# Only harmless lines reach the real shell

There are many ways to the real shell: the executor with options of one's own, the operations on
files, a routed command, a line of input and whatever the language model makes of it. They all end
at the executor, which judges a command as it was typed and runs it trimmed. A line is *harmless* if
it is trimmed and shows none of the patterns in lower case.

`Safe` says of an action that, whatever the session and the answers, all lines that it has run are
harmless. The executor makes no other calls, so every single operation is safe, and actions stay
safe when they are put together: the language model chooses which commands are routed, but not how.
-/

namespace PlainTerminal

open Dialogue Session

/-- The line may be given to the real shell. -/
structure Policy.Harmless (line : String) : Prop where
  trimmed : Text.trim line = line
  /-- None of the patterns occurs in it, letter case aside. -/
  clean : ∀ p ∈ Policy.patterns, ¬ p.toList <:+: (Text.lowercase line).toList

/-- A trimmed line is harmless exactly if the policy has nothing against it. -/
theorem Policy.harmless_iff {line : String} (h : Text.trim line = line) :
    Policy.Harmless line ↔ Policy.violation? line = none := by
  rw [Policy.violation?_eq_none_iff, Policy.denied_iff_lowercase]
  constructor
  · rintro hline ⟨p, hp, hoccurs⟩
    exact hline.clean p hp hoccurs
  · exact fun hnone => ⟨h, fun p hp hoccurs => hnone ⟨p, hp, hoccurs⟩⟩

/-- If the question is a call of the real shell, then its line is harmless. -/
def Question.IsHarmless (q : Question) : Prop :=
  ∀ call, q = .runCommand call → Policy.Harmless call.command

theorem Question.isHarmless_of_allows {q : Question} (h : Mode.remoteDemo.Allows q) :
    q.IsHarmless := by
  rintro call rfl
  cases h

/-! ## The executor -/

namespace Executor

variable {command : String} {options : RunOptions}

theorem execute_of_violation {violation : PolicyViolation} (e : Executor)
    (h : Policy.violation? command = some violation) (options : RunOptions) :
    e.execute command options
      = done (.failure violation.message CommandResult.blockedCode, e) := by
  unfold execute
  rw [h]
  rfl

/-- A command that is not refused asks something of the real machine. -/
theorem exists_execute_eq_ask (e : Executor) (h : Policy.violation? command = none)
    (options : RunOptions) : ∃ q next, e.execute command options = ask q next := by
  unfold execute
  rw [h]
  dsimp only
  split
  · exact ⟨_, _, rfl⟩
  · exact ⟨_, _, rfl⟩

/-- **The executor refuses exactly the commands in which a pattern occurs**, whatever the options:
it asks nothing, gives the reason with the exit code of what is not allowed, and stays as it is. -/
theorem execute_refuses_iff (e : Executor) (command : String) (options : RunOptions) :
    (∃ violation : PolicyViolation,
      e.execute command options = done (.failure violation.message 126, e)) ↔
      ∃ p ∈ Policy.patterns, p.toList <:+: (Text.lowercase command).toList := by
  rw [← Policy.denied_iff_lowercase, ← Policy.isSome_violation?_iff]
  cases h : Policy.violation? command with
  | some violation => exact iff_of_true ⟨violation, e.execute_of_violation h options⟩ rfl
  | none =>
      refine iff_of_false ?_ Bool.false_ne_true
      rintro ⟨violation, hrefuses⟩
      obtain ⟨q, next, hasks⟩ := e.exists_execute_eq_ask h options
      rw [hasks] at hrefuses
      cases hrefuses

/-- The executor runs harmless lines only, whatever the options. -/
theorem ensures_execute_isHarmless (e : Executor) (command : String) (options : RunOptions) :
    (e.execute command options).Ensures Question.IsHarmless fun _ => True := by
  unfold execute
  split
  · exact ensures_done.mpr trivial
  · rename_i hpasses
    dsimp only
    split
    · exact e.ensures_changeDirectory _ _ fun _ => nofun
    · refine ensures_ask.mpr ⟨?_, fun _ => ensures_done.mpr trivial⟩
      rintro call ⟨⟩
      -- The command was judged untrimmed, but the blanks around it have no say.
      have htrimmed : Policy.violation? (Text.trim command) = none := by
        rw [Policy.violation?_eq_none_iff] at hpasses ⊢
        rwa [Policy.denied_trim_iff]
      exact (Policy.harmless_iff (Text.trim_trim command)).mpr htrimmed

theorem Makes.harmless {e : Executor} {call : ShellCall} (h : e.Makes call) :
    Policy.Harmless call.command :=
  (Policy.harmless_iff h.trimmed).mpr h.passes

end Executor

theorem Session.Admits.isHarmless {s : Session} {q : Question} (h : s.Admits q) :
    q.IsHarmless := fun call hcall => (h call hcall).2.harmless

/-! ## Safe actions -/

/-- Whatever the session and whoever answers, the action has harmless lines run only. -/
def Safe {α : Type} (action : Action α) : Prop :=
  ∀ s, EnsuresFrom Question.IsHarmless (fun _ _ => True) s action

namespace Safe

variable {α β : Type} {action : Action α}

theorem pure (value : α) : Safe (pure value) := fun _ => ensuresFrom_pure.mpr trivial

theorem bind {f : α → Action β} (h : Safe action) (hf : ∀ value, Safe (f value)) :
    Safe (action >>= f) := by
  intro s
  rw [ensuresFrom_bind]
  exact (h s).mono (fun _ hq => hq) fun value s' _ => hf value s'

theorem get_bind {f : Session → Action α} (hf : ∀ s, Safe (f s)) : Safe (get >>= f) := by
  intro s
  rw [ensuresFrom_bind, ensuresFrom_get]
  exact hf s s

theorem set (s : Session) : Safe (set s : Action PUnit) := fun _ => ensuresFrom_set.mpr trivial

theorem modify (f : Session → Session) : Safe (modify f : Action PUnit) :=
  fun _ => ensuresFrom_modify.mpr trivial

theorem lift {d : Dialogue α} (h : d.Ensures Question.IsHarmless fun _ => True) :
    Safe (liftM d : Action α) := by
  intro s
  rw [ensuresFrom_lift]
  exact h

theorem of_admitted {kept : Session → Session → Prop}
    (h : ∀ s, Admitted (kept s) s action) : Safe action :=
  fun s => EnsuresFrom.mono (h s) (fun _ hq => hq.isHarmless) fun _ _ _ => trivial

end Safe

namespace Session

/-- Runs a command with options of one's own. -/
def execute (command : String) (options : RunOptions) : Action CommandResult := do
  let s ← get
  let (result, executor) ← (s.executor.execute command options : Dialogue _)
  set { s with executor }
  return result

theorem safe_execute (command : String) (options : RunOptions) :
    Safe (execute command options) := by
  unfold execute
  refine Safe.get_bind fun s => ?_
  refine (Safe.lift (s.executor.ensures_execute_isHarmless command options)).bind fun r => ?_
  exact (Safe.set _).bind fun _ => Safe.pure _

theorem safe_safeExecute (command : String) : Safe (safeExecute command) := by
  unfold safeExecute
  refine Safe.get_bind fun s => ?_
  refine (Safe.lift (s.executor.ensures_execute_isHarmless command _)).bind fun r => ?_
  exact (Safe.set _).bind fun _ => Safe.pure _

end Session

namespace Router

theorem safe_route (command : String) (workingDirectory : Option String) :
    Safe (route command workingDirectory) :=
  fun s => (admitted_route s command workingDirectory).mono (fun _ hq => hq.isHarmless)
    fun _ _ _ => trivial

theorem ensures_commandsFor_isHarmless (router : Router) (s : Session) (input : String) :
    (router.commandsFor s input).Ensures Question.IsHarmless fun _ => True := by
  have hnames : (directoryNames s).Ensures Question.IsHarmless fun _ => True := by
    unfold directoryNames
    split
    · split
      · exact ensures_done.mpr trivial
      · exact ensures_done.mpr trivial
    · exact ensures_ask.mpr ⟨nofun, fun _ => ensures_done.mpr trivial⟩
  unfold commandsFor
  split
  · unfold context
    simp only [ensures_bind]
    refine hnames.mono (fun _ hq => hq) fun names _ => ?_
    rw [pure_eq, ensures_done]
    -- What the model says may be any commands, but to ask it runs nothing.
    refine Ensures.mono (Assistant.ensures_withFallback
      (Assistant.ensures_attempt (m := .remoteDemo) _ _) _)
      (fun _ => Question.isHarmless_of_allows) fun _ _ => ?_
    exact ensures_done.mpr trivial
  · exact ensures_done.mpr trivial

theorem safe_runSteps (commands : List String) : Safe (runSteps commands) := by
  induction commands with
  | nil => exact Safe.pure []
  | cons command rest ih =>
      unfold runSteps
      refine (safe_route command none).bind fun result => ?_
      split
      · exact ih.bind fun _ => Safe.pure _
      · exact Safe.pure _

/-- A line of input is safe, whatever the model makes of it. -/
theorem safe_submit (router : Router) (input : String) : Safe (router.submit input) := by
  unfold submit
  dsimp only
  split
  · exact Safe.pure _
  · refine Safe.get_bind fun s => ?_
    refine (Safe.lift (ensures_commandsFor_isHarmless router s _)).bind fun r => ?_
    refine (Safe.modify _).bind fun _ => ?_
    exact (safe_runSteps _).bind fun _ => Safe.pure _

end Router

/-! ## Runs -/

/-- What a session can be sent to do that may come to the real shell. -/
inductive Errand where
  | execute (command : String) (options : RunOptions)
  | safeExecute (command : String)
  | contentOf (path : String)
  | listDirectory (path : String) (showHidden : Bool)
  | createFile (path content : String)
  | createDirectory (path : String)
  | route (command : String) (workingDirectory : Option String)
  | submit (router : Router) (input : String)

namespace Errand

/-- Does it, and keeps what becomes of the session. -/
def run : Errand → Action Unit
  | execute command options => do let _ ← Session.execute command options
  | safeExecute command => do let _ ← Session.safeExecute command
  | contentOf path => do let _ ← Session.contentOf path
  | listDirectory path showHidden => do let _ ← Session.listDirectory path showHidden
  | createFile path content => do let _ ← Session.createFile path content
  | createDirectory path => do let _ ← Session.createDirectory path
  | route command workingDirectory => do let _ ← Router.route command workingDirectory
  | submit router input => do let _ ← router.submit input

/-- Does one after the other. -/
def runAll : List Errand → Action Unit
  | [] => return ()
  | errand :: rest => do
    errand.run
    runAll rest

theorem safe_run (errand : Errand) : Safe errand.run := by
  cases errand with
  | execute command options => exact (safe_execute command options).bind fun _ => Safe.pure _
  | safeExecute command => exact (safe_safeExecute command).bind fun _ => Safe.pure _
  | contentOf path =>
      exact (Safe.of_admitted fun _ => admitted_contentOf path).bind fun _ => Safe.pure _
  | listDirectory path showHidden =>
      exact (Safe.of_admitted fun _ => admitted_listDirectory path showHidden).bind
        fun _ => Safe.pure _
  | createFile path content =>
      exact (Safe.of_admitted fun _ => admitted_createFile path content).bind fun _ => Safe.pure _
  | createDirectory path =>
      exact (Safe.of_admitted fun _ => admitted_createDirectory path).bind fun _ => Safe.pure _
  | route command workingDirectory =>
      exact (Router.safe_route command workingDirectory).bind fun _ => Safe.pure _
  | submit router input => exact (Router.safe_submit router input).bind fun _ => Safe.pure _

theorem safe_runAll (errands : List Errand) : Safe (runAll errands) := by
  induction errands with
  | nil => exact Safe.pure ()
  | cons errand rest ih => exact errand.safe_run.bind fun _ => ih

/-- **Only harmless lines reach the real shell**: in every course of every run, in either mode, each
line that is run is trimmed and shows none of the patterns. What the executor refuses is just what
shows one, and to refuse it asks nothing and changes nothing. -/
theorem only_harmless_lines_run (s : Session) (errands : List Errand) :
    (∀ asked end', ((runAll errands).run s).Course asked end' →
      ∀ call, Question.runCommand call ∈ asked → Policy.Harmless call.command) ∧
    ∀ (e : Executor) (command : String) (options : RunOptions),
      (∃ violation : PolicyViolation,
        e.execute command options = done (.failure violation.message 126, e)) ↔
      ∃ p ∈ Policy.patterns, p.toList <:+: (Text.lowercase command).toList := by
  refine ⟨fun asked end' hcourse call hmem => ?_, Executor.execute_refuses_iff⟩
  have hsafe := safe_runAll errands s
  unfold EnsuresFrom at hsafe
  exact (hsafe.of_course hcourse).1 _ hmem call rfl

end Errand

end PlainTerminal
