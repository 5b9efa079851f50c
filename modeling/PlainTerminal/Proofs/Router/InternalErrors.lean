import PlainTerminal.Proofs.Dialogue.Course
import PlainTerminal.Proofs.Router.Dispatch

/-!
# What goes wrong inside the terminal

A command that fails still has an outcome, with its own exit code and its own words. An error inside
the terminal is something else: there is no outcome at all, and the user is told no more than that
the terminal is at fault. Routing has a way out for such errors at every step, but only one step
ever takes it. That is `hack`, where there is no challenge to start; and it looks for the challenge
before it does anything else, so the error leaves no trace.
-/

namespace PlainTerminal.Router

open Dialogue

variable {s : Session} {program rest command : String}

/-- Whoever answers, the action comes to an outcome and not to an error. -/
def Settles (s : Session) (action : Action (Except RouteError Outcome)) : Prop :=
  EnsuresFrom (fun _ => True) (fun r _ => ∃ outcome, r = .ok outcome) s action

/-- What has an outcome by its type has no error to hand on. -/
theorem Settles.of_outcome (action : Action Outcome) :
    Settles s (do return .ok (← action)) := by
  unfold Settles
  rw [ensuresFrom_bind]
  exact (ensuresFrom_true action s).mono (fun _ hq => hq) fun outcome _ _ =>
    ensuresFrom_pure.mpr ⟨outcome, rfl⟩

/-! ## The challenge -/

/-- Where there is a challenge, it starts. -/
theorem settles_hack (hroot : s.store.tree.isDirectory Challenge.root = true) :
    Settles s hack := by
  unfold Settles hack
  rw [ensuresFrom_bind, ensuresFrom_get, hroot, if_neg (by decide), ensuresFrom_bind]
  refine (ensuresFrom_true _ s).mono (fun _ hq => hq) fun introduction _ _ => ?_
  rw [ensuresFrom_bind, ensuresFrom_modify]
  exact ensuresFrom_pure.mpr ⟨_, rfl⟩

/-- Where there is none, that is all that is found out. -/
theorem run_hack_of_missing (hroot : s.store.tree.isDirectory Challenge.root = false) :
    hack.run s = done (.error (.missingChallenge Challenge.root), s) := by
  unfold hack
  rw [run_get_bind, hroot, if_pos (by decide)]
  rfl

/-! ## Any command -/

theorem settles_dispatchProgram (h : program = "hack" →
    s.store.tree.isDirectory Challenge.root = true) :
    Settles s (dispatchProgram program rest command) := by
  unfold dispatchProgram
  split
  · exact ensuresFrom_pure.mpr ⟨_, rfl⟩
  · exact ensuresFrom_pure.mpr ⟨_, rfl⟩
  · exact .of_outcome hint
  · exact settles_hack (h rfl)
  · exact .of_outcome (amuse Seed.jokes)
  · exact .of_outcome (amuse Seed.fortunes)
  · -- any other program is run, in the virtual machine or by the real shell
    unfold Settles
    rw [ensuresFrom_bind, ensuresFrom_get]
    split
    · exact Settles.of_outcome _
    · rw [ensuresFrom_bind]
      exact (ensuresFrom_true _ s).mono (fun _ hq => hq) fun result _ _ =>
        ensuresFrom_pure.mpr ⟨_, rfl⟩

theorem settles_dispatch (h : (Text.splitAtBlank command).1 = "hack" →
    s.store.tree.isDirectory Challenge.root = true) : Settles s (dispatch command) := by
  unfold dispatch
  split
  rename_i program rest hsplit
  rw [hsplit] at h
  split
  · exact .of_outcome (cat rest)
  · rw [ls_eq]
    exact .of_outcome (listing rest)
  · exact .of_outcome (cd rest)
  · split
    · exact .of_outcome (redirect command _)
    · exact settles_dispatchProgram h

/-- The command is to start the challenge, and the tree has none. -/
def LacksChallenge (s : Session) (command : String) : Prop :=
  (Text.words (Text.trim command)).head? = some "hack" ∧
    s.store.tree.isDirectory Challenge.root = false

instance : Decidable (LacksChallenge s command) := inferInstanceAs (Decidable (_ ∧ _))

theorem head?_words_eq_hack_iff (text : String) :
    (Text.words text).head? = some "hack" ↔ (Text.splitAtBlank (Text.trim text)).1 = "hack" := by
  rw [← Text.headD_words]
  cases Text.words text with
  | nil => exact iff_of_false nofun (by decide)
  | cons first rest => exact Option.some_inj

/-- What routing makes of what dispatching has come to, where the terminal stands by then. -/
def attemptAt (s : Session) : Except RouteError Outcome → Except ExecutionResult ExecutionResult
  | .ok outcome => .ok ⟨outcome.result, s.cwd, outcome.isSimulated⟩
  | .error _ => .error (.internalError s.cwd)

theorem tryRoute_eq (command : String) : tryRoute command none = (do
    let r ← dispatch (Text.trim command)
    return attemptAt (← get) r) := by
  unfold tryRoute enter
  rw [pure_bind]
  refine bind_congr fun r => ?_
  cases r with
  | ok outcome => rfl
  | error e => rfl

/-- An error inside the terminal stops it before it has asked or changed anything. -/
theorem LacksChallenge.run_tryRoute (h : LacksChallenge s command) :
    (tryRoute command none).run s = done (.error (.internalError s.cwd), s) := by
  obtain ⟨hfirst, hroot⟩ := h
  rw [head?_words_eq_hack_iff, Text.trim_trim] at hfirst
  have hdispatch : dispatch (Text.trim command) = hack := by
    cases hsplit : Text.splitAtBlank (Text.trim command) with
    | mk program rest =>
        rw [hsplit] at hfirst
        obtain rfl : program = "hack" := hfirst
        have hparse := Redirect.parse?_eq_none_of_program hsplit (by decide)
        exact dispatch_other hsplit (by decide) (by decide) (by decide) hparse
  rw [tryRoute_eq, hdispatch, StateT.run_bind, run_hack_of_missing hroot]
  rfl

/-- Every other command has a result. -/
theorem attempted_tryRoute (h : ¬ LacksChallenge s command) :
    EnsuresFrom (fun _ => True) (fun r _ => ∃ result, r = .ok result) s
      (tryRoute command none) := by
  have hsettles : Settles s (dispatch (Text.trim command)) := by
    refine settles_dispatch fun hfirst => ?_
    by_contra hroot
    rw [Bool.not_eq_true] at hroot
    refine h ⟨?_, hroot⟩
    rw [head?_words_eq_hack_iff, Text.trim_trim]
    exact hfirst
  rw [tryRoute_eq, ensuresFrom_bind]
  refine EnsuresFrom.mono hsettles (fun _ hq => hq) ?_
  rintro _ s' ⟨outcome, rfl⟩
  rw [ensuresFrom_bind, ensuresFrom_get]
  exact ensuresFrom_pure.mpr ⟨_, rfl⟩

/-- **Only a missing challenge is an internal error.** In any session and whoever answers, routing a
command fails inside the terminal exactly if it is to start the challenge and the tree has none; and
that is exactly when nobody is asked anything, the session stays as it is, and there is only the
error to tell, with the directory where the terminal stands. -/
theorem tryRoute_fails_iff {σ : Type} (s : Session) (command : String)
    (answer : (q : Question) → σ → q.Answer × σ) (state : σ) :
    ((∃ result, (((tryRoute command none).run s).run answer state).1.1 = .error result) ↔
      LacksChallenge s command) ∧
    (LacksChallenge s command ↔
      (tryRoute command none).run s = done (.error (.internalError s.cwd), s)) := by
  -- by the cases of dispatching, a command that does not lack the challenge has a result
  have hfails : ∀ result, (((tryRoute command none).run s).run answer state).1.1 = .error result →
      LacksChallenge s command := by
    intro error herror
    by_contra hother
    rcases hrun : ((tryRoute command none).run s).run answer state with ⟨⟨r, s'⟩, state'⟩
    obtain ⟨result, rfl⟩ := (attempted_tryRoute hother).of_run hrun
    rw [hrun] at herror
    cases herror
  refine ⟨⟨?_, ?_⟩, LacksChallenge.run_tryRoute, ?_⟩
  · rintro ⟨result, hresult⟩
    exact hfails result hresult
  · intro hlacks
    rw [hlacks.run_tryRoute]
    exact ⟨_, rfl⟩
  · intro hrun
    refine hfails (.internalError s.cwd) ?_
    rw [hrun]
    rfl

example : LacksChallenge
    { Session.new (.new "/" "/" ⟨30000, 1048576⟩) .remoteDemo ⟨0⟩ with
      store := .new .remoteDemo (.empty ⟨0⟩) } "\thack the planet" := by
  decide +kernel

end PlainTerminal.Router
