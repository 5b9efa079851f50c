import PlainTerminal.Proofs.Dialogue
import PlainTerminal.Proofs.Router.Listing
import PlainTerminal.Proofs.Router.Redirect

/-!
# The way a command takes

To route a command is to dispatch it and to tell what came of it; to dispatch it is to look at its
first word, and at the whole of it if it may write a file.
-/

namespace PlainTerminal.Router

open Dialogue

variable {s : Session} {asks : Question → Prop}

/-- What routing tells about a command, from where the terminal stands afterwards. -/
def resultAt (s : Session) : Except RouteError Outcome → ExecutionResult
  | .ok outcome => ⟨outcome.result, s.cwd, outcome.isSimulated⟩
  | .error _ => .internalError s.cwd

/-- A command is dispatched, and that is all that routing does. -/
theorem route_eq (command : String) : route command none = (do
    let r ← dispatch (Text.trim command)
    return resultAt (← get) r) := by
  unfold route tryRoute enter
  rw [pure_bind, LawfulMonad.bind_assoc]
  refine bind_congr fun r => ?_
  cases r with
  | ok outcome => rw [LawfulMonad.bind_assoc]; rfl
  | error e => rw [LawfulMonad.bind_assoc]; rfl

theorem ensuresFrom_route {post : ExecutionResult → Session → Prop} {command : String} :
    EnsuresFrom asks post s (route command none) ↔
      EnsuresFrom asks (fun r s' => post (resultAt s' r) s') s (dispatch (Text.trim command)) := by
  rw [route_eq, ensuresFrom_bind]
  simp only [ensuresFrom_bind, ensuresFrom_get, ensuresFrom_pure]

/-- The session in the directory that a request names, if it names one. -/
def entering (s : Session) (workingDirectory : Option String) : Session :=
  match workingDirectory with
  | none => s
  | some directory => if directory = "" then s else s.setCwd directory

theorem run_enter (workingDirectory : Option String) :
    (enter workingDirectory).run s = done (⟨⟩, entering s workingDirectory) := by
  cases workingDirectory with
  | none => rfl
  | some directory =>
      unfold enter entering
      dsimp only
      split
      · rfl
      · rfl

@[simp] theorem entering_none (s : Session) : entering s none = s := rfl

/-- To go to a directory leaves all but the executor as it is. -/
theorem exists_entering (s : Session) (workingDirectory : Option String) :
    ∃ executor, entering s workingDirectory = { s with executor } := by
  unfold entering
  cases workingDirectory with
  | none => exact ⟨s.executor, rfl⟩
  | some directory =>
      dsimp only
      split
      · exact ⟨s.executor, rfl⟩
      · exact ⟨s.executor.setCwd directory, rfl⟩

theorem run_enter_bind {α : Type} (workingDirectory : Option String) (f : Unit → Action α) :
    (enter workingDirectory >>= f).run s = (f ⟨⟩).run (entering s workingDirectory) := by
  rw [StateT.run_bind, run_enter, done_bind]

theorem run_tryRoute (command : String) (workingDirectory : Option String) :
    (tryRoute command workingDirectory).run s
      = (tryRoute command none).run (entering s workingDirectory) := by
  unfold tryRoute
  rw [run_enter_bind, run_enter_bind, entering_none]

/-- To route a command from a directory is to go there and to route it. -/
theorem run_route (command : String) (workingDirectory : Option String) :
    (route command workingDirectory).run s
      = (route command none).run (entering s workingDirectory) := by
  unfold route
  rw [StateT.run_bind, run_tryRoute, StateT.run_bind]

theorem ensuresFrom_route_entering {post : ExecutionResult → Session → Prop} {command : String}
    {workingDirectory : Option String} :
    EnsuresFrom asks post s (route command workingDirectory) ↔
      EnsuresFrom asks (fun r s' => post (resultAt s' r) s') (entering s workingDirectory)
        (dispatch (Text.trim command)) := by
  rw [← ensuresFrom_route]
  unfold EnsuresFrom
  rw [run_route]

/-- What dispatching reaches, routing does. -/
theorem reachesFrom_route {p : Question → Prop} {command : String}
    {workingDirectory : Option String}
    (h : ReachesFrom p (entering s workingDirectory) (dispatch (Text.trim command))) :
    ReachesFrom p s (route command workingDirectory) := by
  have hrouted : ReachesFrom p (entering s workingDirectory) (route command none) := by
    rw [route_eq]
    exact h.bind
  unfold ReachesFrom at hrouted ⊢
  rwa [run_route]

theorem dispatch_cat {command rest : String} (h : Text.splitAtBlank command = ("cat", rest)) :
    dispatch command = (do return .ok (← cat rest)) := by
  unfold dispatch
  rw [h]
  rfl

theorem dispatch_ls {command rest : String} (h : Text.splitAtBlank command = ("ls", rest)) :
    dispatch command = (do return .ok (← listing rest)) := by
  rw [← ls_eq]
  unfold dispatch
  rw [h]
  rfl

theorem dispatch_cd {command rest : String} (h : Text.splitAtBlank command = ("cd", rest)) :
    dispatch command = (do return .ok (← cd rest)) := by
  unfold dispatch
  rw [h]
  rfl

theorem dispatch_redirect {command : String} {write : Redirect.Write}
    (h : Redirect.parse? command = some write) :
    dispatch command = (do return .ok (← redirect command write)) := by
  have hprogram := Redirect.program_of_parse? h
  unfold dispatch
  cases hsplit : Text.splitAtBlank command with
  | mk program rest =>
      rw [hsplit] at hprogram
      obtain rfl : program = "echo" := hprogram
      dsimp only
      rw [h]
      rfl

theorem dispatch_other {command program rest : String}
    (h : Text.splitAtBlank command = (program, rest))
    (hcat : program ≠ "cat") (hls : program ≠ "ls") (hcd : program ≠ "cd")
    (hparse : Redirect.parse? command = none) :
    dispatch command = dispatchProgram program rest command := by
  unfold dispatch
  rw [h]
  dsimp only
  split
  · exact absurd rfl hcat
  · exact absurd rfl hls
  · exact absurd rfl hcd
  · rw [hparse]

end PlainTerminal.Router
