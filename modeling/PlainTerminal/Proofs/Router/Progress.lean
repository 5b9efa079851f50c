import PlainTerminal.Proofs.Router.Steady

/-!
# The course of the challenge

A session goes through turns: a command is routed, from the prompt or out of a line of input, an
input is noted, a file is uploaded, the uploads are forgotten. A *run* is a list of turns that
follow one upon the other, with any answers from outside.

Progress moves in routed commands alone, and there by reading and by `hack`. So along any run from
a fresh start the codes are kept and the objective only moves on, the two fit together at all
times, a code is recorded when its file is read, and the challenge ends when the last file is read
with all codes in hand. The invariant that carries this is `Coherent`; a turn keeps it, and what
else a turn does to the progress follows from it.
-/

namespace PlainTerminal

open Dialogue Router

namespace Session

/-! ## Reading files one after the other -/

section Reading

variable {s : Session} {paths : List String}

theorem readAll_cons (s : Session) (path : String) (paths : List String) :
    s.readAll (path :: paths) = (s.afterReading path).readAll paths := rfl

/-- Reading leaves all but the progress as it is. -/
theorem exists_readAll (s : Session) (paths : List String) :
    ∃ progress, s.readAll paths = { s with progress } := by
  induction paths generalizing s with
  | nil => exact ⟨s.progress, rfl⟩
  | cons path rest ih =>
      obtain ⟨progress, hrest⟩ := ih (s.afterReading path)
      rw [readAll_cons, hrest]
      exact ⟨progress, rfl⟩

theorem coherent_readAll (h : s.progress.Coherent) : (s.readAll paths).progress.Coherent := by
  induction paths generalizing s with
  | nil => exact h
  | cons path paths ih => exact ih (h.afterReading _ _)

theorem precedes_readAll (h : s.progress.Coherent) :
    s.progress.Precedes (s.readAll paths).progress := by
  induction paths generalizing s with
  | nil => exact Challenge.Progress.Precedes.refl _
  | cons path paths ih =>
      have hfirst : s.progress.Precedes (s.afterReading path).progress :=
        h.precedes_afterReading _ _
      exact hfirst.trans (ih (h.afterReading _ _))

/-- A code that is new was read from its file. -/
theorem of_has_readAll {code : Challenge.AccessCode} (hbefore : s.progress.has code = false)
    (hafter : (s.readAll paths).progress.has code = true) :
    ∃ path ∈ paths, s.placeOf path = code.source ∧
      ∃ text, s.store.tree.contentOf code.source = .ok text := by
  induction paths generalizing s with
  | nil =>
      rw [show s.readAll [] = s from rfl, hbefore] at hafter
      cases hafter
  | cons path paths ih =>
      cases hfirst : (s.afterReading path).progress.has code with
      | true =>
          obtain ⟨hplace, text, htext⟩ :=
            Challenge.Progress.of_has_afterReading hbefore hfirst
          exact ⟨path, List.mem_cons_self, hplace, text, hplace ▸ htext⟩
      | false =>
          obtain ⟨other, hmem, hplace, htext⟩ := ih hfirst hafter
          exact ⟨other, List.mem_cons_of_mem _ hmem, hplace, htext⟩

/-- A challenge that is over from now on was ended by the last file, when all codes had been
found. -/
theorem of_stage_readAll (hbefore : s.progress.stage ≠ .complete)
    (hafter : (s.readAll paths).progress.stage = .complete) :
    ∃ earlier path later, paths = earlier ++ path :: later ∧
      s.placeOf path = Challenge.victoryPath ∧ (s.readAll earlier).progress.hasAll = true := by
  induction paths generalizing s with
  | nil => exact absurd hafter hbefore
  | cons path paths ih =>
      by_cases hfirst : (s.afterReading path).progress.stage = .complete
      · obtain ⟨hplace, hall⟩ := Challenge.Progress.of_stage_afterReading hbefore hfirst
        exact ⟨[], path, paths, rfl, hplace, hall⟩
      · obtain ⟨earlier, other, later, rfl, hplace, hall⟩ := ih hfirst hafter
        exact ⟨path :: earlier, other, later, rfl, hplace, hall⟩

end Reading

/-- To note an input leaves all but the history as it is. -/
theorem exists_record (s : Session) (input : String) :
    ∃ history, s.record input = { s with history } := by
  unfold record
  dsimp only
  split
  · exact ⟨s.history, rfl⟩
  · exact ⟨_, rfl⟩

/-! ## Turns -/

/-- What happens to a session. -/
inductive Event where
  | route (command : String) (workingDirectory : Option String)
  | note (input : String)
  | upload (u : Upload)
  | clearUploads

/-- An event, with the session before and after it. -/
structure Turn where
  before : Session
  event : Event
  after : Session

namespace Turn

/-- The event may make of the session before what comes after, if somebody answers so. -/
inductive Happens : Turn → Prop where
  | route {s s' : Session} {command : String} {workingDirectory : Option String}
      {result : ExecutionResult} :
      ((route command workingDirectory).run s).MayReturn (result, s') →
      Happens ⟨s, .route command workingDirectory, s'⟩
  | note (s : Session) (input : String) : Happens ⟨s, .note input, s.record input⟩
  | upload (s : Session) (u : Upload) : Happens ⟨s, .upload u, (s.upload u).2⟩
  | clearUploads (s : Session) : Happens ⟨s, .clearUploads, s.clearUploads⟩

/-- The turn is a `cat` of these operands in the session `s`: that before the turn, in the directory
that the request names. -/
def Reads (t : Turn) (s : Session) (operands : List String) : Prop :=
  ∃ command workingDirectory rest, t.event = .route command workingDirectory ∧
    s = entering t.before workingDirectory ∧
    Text.splitAtBlank (Text.trim command) = ("cat", rest) ∧ operands = Text.words rest

/-- What the player has after the turn was come by as it is meant to be. -/
structure Fair (t : Turn) : Prop where
  precedes : t.before.progress.Precedes t.after.progress
  coherent : t.after.progress.Coherent
  /-- A new code comes from reading its file. -/
  code : ∀ code : Challenge.AccessCode, t.before.progress.has code = false →
    t.after.progress.has code = true → ∃ s operands path, t.Reads s operands ∧ path ∈ operands ∧
      s.placeOf path = code.source ∧ ∃ text, s.store.tree.contentOf code.source = .ok text
  /-- The challenge ends when the last file is read with all codes recorded by then. -/
  ending : t.before.progress.stage ≠ .complete → t.after.progress.stage = .complete →
    ∃ s earlier path later, t.Reads s (earlier ++ path :: later) ∧
      s.placeOf path = Challenge.victoryPath ∧ (s.readAll earlier).progress.hasAll = true

variable {t : Turn}

/-- A turn that leaves the progress alone is fair. -/
theorem fair_of_progress_eq (h : t.before.progress.Coherent)
    (heq : t.after.progress = t.before.progress) : t.Fair where
  precedes := heq ▸ Challenge.Progress.Precedes.refl _
  coherent := heq ▸ h
  code code hbefore hafter := by
    rw [heq, hbefore] at hafter
    cases hafter
  ending hbefore hafter := absurd (heq ▸ hafter) hbefore

/-- To go to a directory is no progress. -/
theorem progress_entering (s : Session) (workingDirectory : Option String) :
    (entering s workingDirectory).progress = s.progress := by
  obtain ⟨executor, hentering⟩ := exists_entering s workingDirectory
  rw [hentering]

/-- A turn that reads files is fair. -/
theorem fair_of_reads {t : Turn} {s : Session} {operands : List String}
    (hreads : t.Reads s operands) (h : t.before.progress.Coherent)
    (hbefore : t.before.progress = s.progress)
    (hafter : t.after.progress = (s.readAll operands).progress) : t.Fair := by
  rw [hbefore] at h
  refine ⟨?_, ?_, fun code hnot hhas => ?_, fun hnot hover => ?_⟩
  · rw [hbefore, hafter]
    exact precedes_readAll h
  · rw [hafter]
    exact coherent_readAll h
  · rw [hbefore] at hnot
    rw [hafter] at hhas
    obtain ⟨path, hmem, hplace, htext⟩ := of_has_readAll hnot hhas
    exact ⟨s, operands, path, hreads, hmem, hplace, htext⟩
  · rw [hbefore] at hnot
    rw [hafter] at hover
    obtain ⟨earlier, path, later, rfl, hplace, hall⟩ := of_stage_readAll hnot hover
    exact ⟨s, earlier, path, later, hreads, hplace, hall⟩

/-- A routed command is fair. -/
theorem fair_of_leads {s s' : Session} {command : String} {workingDirectory : Option String}
    (h : s.progress.Coherent)
    (hleads : Leads (entering s workingDirectory) (Text.trim command) s') :
    Fair ⟨s, .route command workingDirectory, s'⟩ := by
  have hentering := progress_entering s workingDirectory
  cases hleads with
  | @read rest hsplit =>
      rcases catOperands_cases (entering s workingDirectory) rest with heq | heq
      · rw [heq]
        have hreads : Reads ⟨s, .route command workingDirectory,
            (entering s workingDirectory).readAll (Text.words rest)⟩
            (entering s workingDirectory) (Text.words rest) :=
          ⟨command, workingDirectory, rest, rfl, rfl, hsplit, rfl⟩
        exact fair_of_reads hreads h hentering.symm rfl
      · rw [heq]
        exact fair_of_progress_eq h hentering
  | moved _ harrives =>
      obtain ⟨cwd, rfl⟩ := harrives.exists_cwd
      exact fair_of_progress_eq h hentering
  | begun _ _ =>
      -- `hack` moves the objective from nothing to the first chapter
      refine ⟨?_, ?_, fun code hbefore hafter => ?_, fun hbefore hafter => ?_⟩
      · show s.progress.Precedes (entering s workingDirectory).progress.start
        rw [hentering]
        exact s.progress.precedes_start
      · show (entering s workingDirectory).progress.start.Coherent
        rw [hentering]
        exact h.start
      · have hsame : (entering s workingDirectory).progress.start.has code = true := hafter
        have hnot : s.progress.has code = false := hbefore
        rw [Challenge.Progress.has_start, hentering, hnot] at hsame
        cases hsame
      · have hsame : (entering s workingDirectory).progress.start.stage = .complete := hafter
        rw [Challenge.Progress.stage_start_eq_complete_iff, hentering] at hsame
        exact absurd hsame hbefore
  | steady _ hsteady =>
      exact fair_of_progress_eq h (hsteady.progress.trans hentering)

theorem progress_record (s : Session) (input : String) :
    (s.record input).progress = s.progress := by
  obtain ⟨history, hrecord⟩ := s.exists_record input
  rw [hrecord]

/-- **Every turn is fair** if the objective fits the codes before it. -/
theorem Happens.fair {t : Turn} (ht : t.Happens) (h : t.before.progress.Coherent) : t.Fair := by
  cases ht with
  | route hreturn => exact fair_of_leads h ((leads_route _ _).of_mayReturn hreturn)
  | note s input => exact fair_of_progress_eq h (progress_record s input)
  | upload s u => exact fair_of_progress_eq h rfl
  | clearUploads s => exact fair_of_progress_eq h rfl

end Turn

/-! ## Runs -/

/-- From the session `s` on, the turns follow one upon the other. -/
inductive Run : Session → List Turn → Prop where
  | nil (s : Session) : Run s []
  | cons {s s' : Session} {event : Event} {rest : List Turn} : Turn.Happens ⟨s, event, s'⟩ →
      Run s' rest → Run s (⟨s, event, s'⟩ :: rest)

/-- The session after some turns. -/
def endOf (s : Session) : List Turn → Session
  | [] => s
  | t :: rest => endOf t.after rest

theorem endOf_nil (s : Session) : endOf s [] = s := rfl

theorem endOf_cons (s s' s'' : Session) (event : Event) (rest : List Turn) :
    endOf s (⟨s', event, s''⟩ :: rest) = endOf s'' rest := rfl

variable {s : Session} {turns : List Turn}

theorem Run.fair (hrun : Run s turns) (h : s.progress.Coherent) : ∀ t ∈ turns, t.Fair := by
  induction hrun with
  | nil => exact List.forall_mem_nil _
  | cons ht _ ih =>
      have hfair := ht.fair h
      exact List.forall_mem_cons.mpr ⟨hfair, ih hfair.coherent⟩

/-- What comes first in a run precedes all that comes later. -/
theorem Run.precedes (hrun : Run s turns) (h : s.progress.Coherent) :
    ∀ t ∈ turns, s.progress.Precedes t.after.progress := by
  induction hrun with
  | nil => exact List.forall_mem_nil _
  | cons ht _ ih =>
      have hfair := ht.fair h
      refine List.forall_mem_cons.mpr ⟨hfair.precedes, fun u hu => ?_⟩
      exact hfair.precedes.trans (ih hfair.coherent u hu)

theorem Run.pairwise (hrun : Run s turns) (h : s.progress.Coherent) :
    (s.progress :: turns.map fun t => t.after.progress).Pairwise
      Challenge.Progress.Precedes := by
  induction hrun with
  | nil => exact List.pairwise_singleton _ _
  | cons ht hrest ih =>
      refine List.pairwise_cons.mpr ⟨?_, ih (ht.fair h).coherent⟩
      rw [List.forall_mem_map]
      exact (Run.cons ht hrest).precedes h

/-! ## Lines of input -/

/-- The turns that routed commands come to. -/
def eventsOf (steps : List Step) : List Event := steps.map fun step => .route step.command none

theorem ensuresFrom_runSteps (commands : List String) :
    EnsuresFrom (fun _ => True)
      (fun steps s' => ∃ turns, Run s turns ∧ endOf s turns = s' ∧
        turns.map Turn.event = eventsOf steps) s (runSteps commands) := by
  induction commands generalizing s with
  | nil => exact ensuresFrom_pure.mpr ⟨[], .nil s, rfl, rfl⟩
  | cons command rest ih =>
      unfold runSteps
      rw [ensuresFrom_bind]
      refine (ensuresFrom_mayReturn _ s).mono (fun _ hq => hq) fun result s' hreturn => ?_
      have hroute := Turn.Happens.route hreturn
      split
      · rw [ensuresFrom_bind]
        refine ih.mono (fun _ hq => hq) ?_
        rintro steps s'' ⟨turns, hrun, hend, hevents⟩
        have hwhole := Run.cons hroute hrun
        refine ensuresFrom_pure.mpr ⟨_, hwhole, hend, ?_⟩
        rw [List.map_cons, hevents, eventsOf, eventsOf, List.map_cons]
      · have hwhole := Run.cons hroute (.nil s')
        exact ensuresFrom_pure.mpr ⟨_, hwhole, rfl, rfl⟩

/-- A line of input is noted, unless it is blank, and then each of its commands is a turn. -/
theorem ensuresFrom_submit (router : Router) (input : String) :
    EnsuresFrom (fun _ => True)
      (fun submission s' => ∃ turns, Run s turns ∧ endOf s turns = s' ∧
        turns.map Turn.event = if Text.trim input = "" then []
          else .note (Text.trim input) :: eventsOf submission.steps) s (router.submit input) := by
  unfold Router.submit
  dsimp only
  split
  · exact ensuresFrom_pure.mpr ⟨[], .nil s, rfl, rfl⟩
  · rw [ensuresFrom_bind, ensuresFrom_get, ensuresFrom_bind, ensuresFrom_lift]
    refine (ensures_true _).mono (fun _ hq => hq) ?_
    rintro ⟨interpretation, commands⟩ -
    rw [ensuresFrom_bind, ensuresFrom_modify, ensuresFrom_bind]
    refine (ensuresFrom_runSteps commands).mono (fun _ hq => hq) ?_
    rintro steps s' ⟨turns, hrun, hend, hevents⟩
    have hwhole := Run.cons (Turn.Happens.note s (Text.trim input)) hrun
    rw [← endOf_cons s s] at hend
    refine ensuresFrom_pure.mpr ⟨_, hwhole, hend, ?_⟩
    rw [List.map_cons, hevents]

/-- **The course of the challenge.** From a fresh start, along every run: codes are kept and the
objective moves on only, both fit together after every turn, and whatever is new was come by as it
is meant to be. Every line of input is such a run. -/
theorem course_of_challenge (hfresh : s.progress = {}) :
    (∀ turns, Run s turns →
      (s.progress :: turns.map fun t => t.after.progress).Pairwise Challenge.Progress.Precedes ∧
      ∀ t ∈ turns, t.Fair) ∧
    ∀ (router : Router) (input : String) (s₁ : Session),
      EnsuresFrom (fun _ => True)
        (fun submission s₂ => ∃ turns, Run s₁ turns ∧ endOf s₁ turns = s₂ ∧
          turns.map Turn.event = if Text.trim input = "" then []
            else .note (Text.trim input) :: eventsOf submission.steps) s₁ (router.submit input) := by
  have hcoherent : s.progress.Coherent := by
    rw [hfresh]
    exact Challenge.Progress.coherent_fresh
  exact ⟨fun turns hrun => ⟨hrun.pairwise hcoherent, hrun.fair hcoherent⟩,
    fun router input _ => ensuresFrom_submit router input⟩

/-- The second code can be the first one that is found, before the challenge has begun. -/
theorem course_of_challenge_matrix :
    let s : Session := .new (.new "/home/user" "/home/user" ⟨30000, 1048576⟩) .remoteDemo ⟨0⟩
    s.progress = {} ∧ ∃ turns, Run s turns ∧ (∀ t ∈ turns, t.Fair) ∧
      (endOf s turns).progress = { stage := .intel, matrix := true } := by
  intro s
  have hsplit : Text.splitAtBlank (Text.trim "cat ../../var/games/matrix.dat")
      = ("cat", "../../var/games/matrix.dat") := by decide +kernel
  have hafter : (s.readAll (catOperands s "../../var/games/matrix.dat")).progress
      = { stage := .intel, matrix := true } := by decide +kernel
  obtain ⟨result, s', hleads, hreturn⟩ :=
    (leads_route (s := s) "cat ../../var/games/matrix.dat" none).exists_both
      (ensuresFrom_mayReturn _ s)
  have hrun := Run.cons (Turn.Happens.route hreturn) (.nil s')
  refine ⟨rfl, _, hrun, ((course_of_challenge rfl).1 _ hrun).2, ?_⟩
  rw [endOf_cons, endOf_nil]
  rw [entering_none] at hleads
  cases hleads with
  | read h =>
      obtain ⟨-, rfl⟩ := Prod.mk.inj (hsplit.symm.trans h)
      exact hafter
  | moved h _ => exact absurd (Prod.mk.inj (hsplit.symm.trans h)).1 (by decide)
  | begun h _ => exact absurd (Prod.mk.inj (hsplit.symm.trans h)).1 (by decide)
  | steady h _ => exact absurd (congrArg Prod.fst hsplit) h

end Session

end PlainTerminal
