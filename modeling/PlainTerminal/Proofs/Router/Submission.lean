import PlainTerminal.Proofs.Dialogue.Course
import PlainTerminal.Proofs.Router.Progress

/-!
# A line of input is its commands

A line of input is read first, by the language model or as it stands, then noted, then carried out.
Carrying it out is nothing of its own: as far as the commands go, it is what comes of routing them
one by one, with the same session handed on and the same answers given. `Follows` says how far they
go: all the way, or up to one that fails and no further.
-/

namespace PlainTerminal

open Dialogue

variable {σ : Type} {answer : (q : Question) → σ → q.Answer × σ} {state state' : σ}

namespace Router

variable {s s' : Session} {command : String} {commands : List String} {result : ExecutionResult}
  {steps : List Step}

/-! ## As far as the commands go -/

/-- The steps are the commands in order, up to the first that fails. -/
structure Follows (commands : List String) (steps : List Step) : Prop where
  inOrder : steps.map Step.command <+: commands
  succeeded : ∀ step ∈ steps.dropLast, step.result.success = true
  stopped : steps.map Step.command ≠ commands →
    ∃ step, steps.getLast? = some step ∧ step.result.success = false

theorem Follows.nil : Follows [] [] :=
  ⟨List.prefix_rfl, nofun, fun h => absurd rfl h⟩

theorem Follows.failed (hfailed : result.success = false) (rest : List String) :
    Follows (command :: rest) [⟨command, result⟩] := by
  refine ⟨?_, nofun, ?_⟩
  · exact List.cons_prefix_cons.mpr ⟨rfl, List.nil_prefix⟩
  · intro _
    exact ⟨⟨command, result⟩, rfl, hfailed⟩

theorem Follows.cons (hsucceeded : result.success = true) (h : Follows commands steps) :
    Follows (command :: commands) (⟨command, result⟩ :: steps) := by
  refine ⟨List.cons_prefix_cons.mpr ⟨rfl, h.inOrder⟩, ?_, ?_⟩
  · intro step hstep
    cases steps with
    | nil => cases hstep
    | cons next rest =>
        rw [List.dropLast_cons_cons, List.mem_cons] at hstep
        rcases hstep with rfl | hstep
        · exact hsucceeded
        · exact h.succeeded step hstep
  · intro hne
    have hrest : steps.map Step.command ≠ commands := by
      intro heq
      rw [List.map_cons, heq] at hne
      exact hne rfl
    obtain ⟨last, hlast, hfailed⟩ := h.stopped hrest
    refine ⟨last, ?_, hfailed⟩
    rw [List.getLast?_cons, hlast]
    rfl

/-! ## Carrying commands out -/

/-- Routes commands one by one, whatever comes of each. -/
def routeAll (commands : List String) : Action (List ExecutionResult) :=
  commands.mapM fun command => route command none

/-- **As far as the commands go, carrying them out is routing them one by one.** -/
theorem runSteps_run (answer : (q : Question) → σ → q.Answer × σ)
    (h : ((runSteps commands).run s).run answer state = ((steps, s'), state')) :
    Follows commands steps ∧
      ((routeAll (steps.map Step.command)).run s).run answer state =
        ((steps.map Step.result, s'), state') := by
  induction commands generalizing s state steps with
  | nil =>
      cases h
      exact ⟨.nil, rfl⟩
  | cons command rest ih =>
      rcases hroute : ((route command none).run s).run answer state with ⟨⟨result, s₁⟩, state₁⟩
      unfold runSteps at h
      rw [run_action_bind hroute] at h
      by_cases hsuccess : result.success = true
      · -- the rest is carried out from where this command has come to
        rcases hrest : ((runSteps rest).run s₁).run answer state₁ with ⟨⟨steps', s₂⟩, state₂⟩
        rw [if_pos hsuccess, run_action_bind hrest] at h
        cases h
        obtain ⟨hfollows, hall⟩ := ih hrest
        refine ⟨hfollows.cons hsuccess, ?_⟩
        unfold routeAll at hall ⊢
        rw [List.map_cons, List.mapM_cons, run_action_bind hroute, run_action_bind hall]
        rfl
      · -- the step that fails is the last one
        rw [if_neg hsuccess] at h
        cases h
        refine ⟨.failed (Bool.eq_false_iff.mpr hsuccess) rest, ?_⟩
        unfold routeAll
        rw [List.map_cons, List.mapM_cons, run_action_bind hroute]
        rfl

/-! ## Reading a line -/

/-- The line is for the language model: the gate sends it there, and the terminal has no answer of
its own. -/
def ReadByModel (router : Router) (line : String) : Prop :=
  Text.lowercase ((Text.words line).headD "") ∉ builtins ∧
    (router.gate line).needsInterpretation = true

/-- What the model makes of a line. -/
def reading (router : Router) (s : Session) (line : String) : Dialogue Interpretation := do
  Assistant.interpret line (some (← router.context s))

/-- The model is asked to interpret the line. -/
def AsksToInterpret (line : String) (q : Question) : Prop :=
  ∃ context, q = .complete (Assistant.interpretRequest line (some context))

theorem isBuiltin_eq_true_iff (line : String) :
    isBuiltin line = true ↔ Text.lowercase ((Text.words line).headD "") ∈ builtins := by
  unfold isBuiltin
  exact List.contains_iff_mem

theorem commandsFor_of_readByModel {router : Router} {line : String}
    (h : router.ReadByModel line) : router.commandsFor s line =
      router.reading s line >>= fun i => done (some i, i.commands) := by
  obtain ⟨hbuiltin, hgate⟩ := h
  rw [← isBuiltin_eq_true_iff, Bool.not_eq_true] at hbuiltin
  unfold commandsFor reading
  rw [hbuiltin, hgate, bind_assoc]
  rfl

theorem commandsFor_of_not_readByModel {router : Router} {line : String}
    (h : ¬ router.ReadByModel line) : router.commandsFor s line = done (none, [line]) := by
  unfold commandsFor
  rw [if_neg]
  · rfl
  · intro hasks
    rw [Bool.and_eq_true, Bool.not_eq_true', ← Bool.not_eq_true, isBuiltin_eq_true_iff] at hasks
    exact h hasks

theorem reaches_interpret (line : String) (context : InterpretContext) :
    (Assistant.interpret line (some context)).Reaches (AsksToInterpret line) :=
  reaches_ask.mpr (Or.inl ⟨context, rfl⟩)

theorem reaches_reading (router : Router) (s : Session) (line : String) :
    (router.reading s line).Reaches (AsksToInterpret line) := by
  unfold reading
  refine Ensures.reaches_bind ((ensures_true _).mono (fun _ hq => hq) ?_)
  intro context _
  exact reaches_interpret line context

/-! ## The history -/

theorem Leads.history_eq (h : Leads s command s') : s'.history = s.history := by
  cases h with
  | @read rest _ =>
      obtain ⟨progress, hread⟩ := s.exists_readAll (catOperands s rest)
      rw [hread]
  | moved _ harrives =>
      obtain ⟨cwd, rfl⟩ := harrives.exists_cwd
      rfl
  | begun => rfl
  | steady _ hsteady =>
      obtain ⟨tree, rfl⟩ := hsteady
      rfl

/-- Only lines are noted, not the commands that come of them. -/
theorem runSteps_history (commands : List String) :
    EnsuresFrom (fun _ => True) (fun _ s' => s'.history = s.history) s (runSteps commands) := by
  induction commands generalizing s with
  | nil => exact ensuresFrom_pure.mpr rfl
  | cons command rest ih =>
      unfold runSteps
      rw [ensuresFrom_bind]
      refine (leads_route command none).mono (fun _ hq => hq) ?_
      intro result s' hleads
      have hsame : s'.history = s.history := hleads.history_eq
      split
      · rw [ensuresFrom_bind]
        refine ih.mono (fun _ hq => hq) ?_
        intro steps s'' hrest
        exact ensuresFrom_pure.mpr (hrest.trans hsame)
      · exact ensuresFrom_pure.mpr hsame

theorem history_record (s : Session) {input : String} (h : Text.trim input ≠ "") :
    (s.record input).history =
      (s.history ++ [Text.trim input]).drop (s.history.length + 1 - Session.historyLimit) := by
  unfold Session.record
  simp only [if_neg h, List.length_append, List.length_singleton]

theorem history_record_trim (s : Session) {input : String} (h : Text.trim input ≠ "") :
    (s.record (Text.trim input)).history =
      (s.history ++ [Text.trim input]).drop (s.history.length + 1 - Session.historyLimit) := by
  have hagain : Text.trim (Text.trim input) ≠ "" := by rwa [Text.trim_trim]
  rw [history_record s hagain, Text.trim_trim]

/-! ## Submitting a line -/

/-- What has come of a line that is not blank: it was read as `commands`, which brought the one who
answers from `state` to `middle`, noted, and carried out. -/
structure Carried (router : Router) (answer : (q : Question) → σ → q.Answer × σ) (line : String)
    (s : Session) (state : σ) (commands : List String) (middle : σ) (submission : Submission)
    (s' : Session) (state' : σ) : Prop where
  /-- There is an interpretation exactly if the line is for the model. -/
  read : submission.interpretation.isSome ↔ router.ReadByModel line
  /-- The model is asked first, and the commands are those that it names. -/
  interpreted : ∀ i, submission.interpretation = some i →
    (router.reading s line).run answer state = (i, middle) ∧ commands = i.commands
  /-- Otherwise nobody is asked, and the line is the only command. -/
  literal : submission.interpretation = none → middle = state ∧ commands = [line]
  /-- The line is noted once, and nothing else is. -/
  noted : s'.history = (s.history ++ [line]).drop (s.history.length + 1 - Session.historyLimit)
  /-- The commands are carried out in order, up to the first that fails. -/
  follows : Follows commands submission.steps
  /-- The results and the session are those of routing these commands one by one. -/
  routed : ((routeAll (submission.steps.map Step.command)).run (s.record line)).run answer middle =
    ((submission.steps.map Step.result, s'), state')
  /-- If there is nothing to carry out, the model has the word. -/
  silent : commands = [] → submission.steps = [] ∧
    ∃ i, submission.interpretation = some i ∧ submission.reply = some i.explanation

variable {router : Router} {input : String}

theorem submit_run_of_blank (h : Text.trim input = "") :
    (router.submit input).run s = done ({}, s) := by
  unfold submit
  rw [h]
  rfl

/-- The course that a line takes, once it has been read. -/
theorem submit_run {interpretation : Option Interpretation} {middle : σ}
    (h : Text.trim input ≠ "")
    (hread : (router.commandsFor s (Text.trim input)).run answer state =
      ((interpretation, commands), middle))
    (hsteps : ((runSteps commands).run (s.record (Text.trim input))).run answer middle =
      ((steps, s'), state')) :
    ((router.submit input).run s).run answer state = ((⟨interpretation, steps⟩, s'), state') := by
  unfold submit
  dsimp only
  rw [if_neg h, run_get_bind, run_lift_bind hread]
  dsimp only
  rw [run_modify_bind, run_action_bind hsteps]
  rfl

theorem submit_reaches (h : Text.trim input ≠ "") (hread : router.ReadByModel (Text.trim input)) :
    ReachesFrom (AsksToInterpret (Text.trim input)) s (router.submit input) := by
  have hreading := reaches_reading router s (Text.trim input)
  unfold submit
  dsimp only
  rw [if_neg h]
  refine ReachesFrom.get_bind (ReachesFrom.bind (ReachesFrom.lift ?_))
  rw [commandsFor_of_readByModel hread]
  exact hreading.bind _

/-- However the answers fall, a line is read by the model or stands for itself. -/
theorem exists_read (router : Router) (s : Session) (line : String)
    (answer : (q : Question) → σ → q.Answer × σ) (state : σ) :
    ∃ interpretation commands middle,
      (router.commandsFor s line).run answer state = ((interpretation, commands), middle) ∧
      (interpretation.isSome ↔ router.ReadByModel line) ∧
      (∀ i, interpretation = some i →
        (router.reading s line).run answer state = (i, middle) ∧ commands = i.commands) ∧
      (interpretation = none → middle = state ∧ commands = [line]) := by
  by_cases hread : router.ReadByModel line
  · rcases hmodel : (router.reading s line).run answer state with ⟨i, middle⟩
    refine ⟨some i, i.commands, middle, ?_, ?_, ?_, nofun⟩
    · rw [commandsFor_of_readByModel hread, run_bind, hmodel]
      rfl
    · exact iff_of_true rfl hread
    · intro j hj
      cases hj
      exact ⟨rfl, rfl⟩
  · refine ⟨none, [line], state, ?_, ?_, nofun, fun _ => ⟨rfl, rfl⟩⟩
    · rw [commandsFor_of_not_readByModel hread]
      rfl
    · exact iff_of_false nofun hread

theorem reply_of_commands_eq_nil {submission : Submission} {i : Interpretation}
    (hsome : submission.interpretation = some i) (hnone : i.commands = []) :
    submission.reply = some i.explanation := by
  unfold Submission.reply
  rw [hsome]
  dsimp only
  rw [if_pos]
  rw [Interpretation.isConversational, hnone]
  rfl

/-- **A line of input is its commands.** A blank line is nothing. Any other is read by the model
exactly if the gate sends it there and the terminal has no answer of its own; it is noted once; and
its commands, in order and up to the first that fails, come to just what they come to when they are
routed one by one. If there are none, the reply is the explanation of the model. -/
theorem submit_is_its_commands (router : Router) (s : Session) (input : String)
    (answer : (q : Question) → σ → q.Answer × σ) (state : σ) :
    (Text.trim input = "" → (router.submit input).run s = done ({}, s)) ∧
    (Text.trim input ≠ "" →
      (router.ReadByModel (Text.trim input) →
        ReachesFrom (AsksToInterpret (Text.trim input)) s (router.submit input)) ∧
      ∃ commands middle submission s' state',
        ((router.submit input).run s).run answer state = ((submission, s'), state') ∧
        Carried router answer (Text.trim input) s state commands middle submission s' state') := by
  refine ⟨submit_run_of_blank, fun h => ⟨submit_reaches h, ?_⟩⟩
  obtain ⟨interpretation, commands, middle, hread, hmodel, hsome, hnone⟩ :=
    exists_read router s (Text.trim input) answer state
  rcases hsteps : ((runSteps commands).run (s.record (Text.trim input))).run answer middle with
    ⟨⟨steps, s'⟩, state'⟩
  obtain ⟨hfollows, hrouted⟩ := runSteps_run answer hsteps
  have hkept := (runSteps_history commands).of_run hsteps
  refine ⟨commands, middle, ⟨interpretation, steps⟩, s', state', submit_run h hread hsteps, hmodel,
    hsome, hnone, ?_, hfollows, hrouted, ?_⟩
  · rw [hkept, history_record_trim s h]
  · intro hempty
    subst hempty
    refine ⟨List.map_eq_nil_iff.mp (List.prefix_nil.mp hfollows.inOrder), ?_⟩
    cases interpretation with
    | none => cases (hnone rfl).2
    | some i => exact ⟨i, rfl, reply_of_commands_eq_nil rfl (hsome i rfl).2.symm⟩

end Router

end PlainTerminal
