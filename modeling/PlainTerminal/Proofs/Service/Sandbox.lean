import PlainTerminal.Proofs.Challenge.Seeded
import PlainTerminal.Proofs.Service.Requests

/-!
# The demo is a sandbox

A service in the demo never asks anything of the real machine, marks every result as simulated and
never meets anything wrong inside the terminal, whatever is requested and whatever the language
model says. What carries this through a run is that the mode of a session is for good and that the
directory of the challenge, like every directory, stays one.
-/

namespace PlainTerminal

open Dialogue Session

namespace Store

/-- An upload is a write of the tree or none. -/
theorem isDirectory_upload {store : Store} (u : Upload) {place : String}
    (h : store.tree.isDirectory place = true) :
    (store.upload u).2.tree.isDirectory place = true := by
  unfold Store.upload
  split
  · dsimp only
    split
    · rename_i tree htree
      exact Tree.isDirectory_of_createFile htree h
    · exact h
  · exact h

end Store

namespace Session

variable {m : Mode} {s : Session}

/-- Uploads take no directory away. -/
theorem Ready.upload (h : Ready m s) (u : Upload) : Ready m (s.upload u).2 :=
  ⟨(Store.mode_upload s.store u).trans h.mode, Store.isDirectory_upload u h.challenge⟩

end Session

namespace Service

variable {m : Mode} {sessions : Sessions}

/-- To be ready is an invariant. -/
theorem ready_invariant (m : Mode) : Invariant m (Ready m) :=
  ⟨id, Ready.evolves, fun h => ⟨h.mode, h.challenge⟩⟩

/-- Every session starts with the challenge in place. -/
theorem ready_newSession (now : Timestamp) :
    Ready sessions.environment.mode (sessions.newSession now) :=
  ⟨rfl, Challenge.isDirectory_seed now⟩

theorem ready_of_fresh (h : sessions.table = []) :
    sessions.All (Ready sessions.environment.mode) :=
  ⟨ready_newSession, by simp [h]⟩

/-- What a response of a service in the demo is: a command is refused as a bad request or has a
result that is marked as simulated, so there is no internal error, and so has each step of a line of
input. -/
def Request.Sandboxed : Request → Response → Prop
  | .execute _, r => r.status = 400 ∨
      (r.status = 200 ∧ r.body.member? "isSimulated" = some (.bool true))
  | .submit _, r => r.status = 400 ∨
      (r.status = 200 ∧ ∃ steps, r.body.member? "steps" = some (.array steps) ∧
        ∀ step ∈ steps, ∃ result, step.member? "result" = some result ∧
          result.member? "isSimulated" = some (.bool true))
  | _, _ => True

theorem Request.Answered.sandboxed {request : Request} {r : Response}
    (h : request.Answered .remoteDemo r) : request.Sandboxed r := by
  have hmark : ∀ {body : Json}, ShowsMark .remoteDemo body →
      body.member? "isSimulated" = some (.bool true) := by
    rintro body ⟨mark, hbody, hmark⟩
    rw [hbody, hmark rfl]
  cases request with
  | execute body => exact h.imp_right fun ⟨hstatus, hshow⟩ => ⟨hstatus, hmark hshow⟩
  | submit body =>
      refine h.imp_right ?_
      rintro ⟨hstatus, steps, hsteps, hall⟩
      refine ⟨hstatus, steps, hsteps, fun step hstep => ?_⟩
      obtain ⟨result, hresult, hshow⟩ := hall step hstep
      exact ⟨result, hresult, hmark hshow⟩
  | _ => trivial

theorem serveAll_ready (service : Service) (requests : List Request)
    (h : sessions.All (Ready .remoteDemo)) :
    EnsuresFrom (fun q => q.isReal = false)
      (fun responses _ => List.Forall₂ Request.Sandboxed requests responses) sessions
      (service.serveAll requests) := by
  induction requests generalizing sessions with
  | nil => exact ensuresFrom_pure.mpr List.Forall₂.nil
  | cons request rest ih =>
      unfold serveAll
      rw [ensuresFrom_bind]
      have hserve := serve_keeps (ready_invariant _) h service request
        fun body _ => upload_keeps (fun _ u hs => hs.upload u) h body
      refine hserve.mono (fun _ hq => hq) fun r sessions' hr => ?_
      rw [ensuresFrom_bind]
      exact (ih hr.1).mono (fun _ hq => hq) fun responses _ hresponses =>
        ensuresFrom_pure.mpr (List.Forall₂.cons hr.2.sandboxed hresponses)

/-- **A service in the demo is a sandbox**: from a start without sessions, whatever is requested and
whoever answers, no question is about the real machine and every response is as it is to be. -/
theorem serveAll_sandboxed (service : Service) (requests : List Request)
    (hmode : sessions.environment.mode = .remoteDemo) (hfresh : sessions.table = []) :
    EnsuresFrom (fun q => q.isReal = false)
      (fun responses _ => List.Forall₂ Request.Sandboxed requests responses) sessions
      (service.serveAll requests) := by
  have hready := ready_of_fresh hfresh
  -- The mode of the service is the mode of all its sessions.
  rw [hmode] at hready
  exact serveAll_ready service requests hready

/-- A demo in which somebody starts the challenge, uploads a file where the challenge is, and goes
on. -/
theorem serveAll_sandboxed_hack :
    let sessions : Sessions := { environment := .ofRemote, config := {}, start := ⟨"/", none⟩ }
    let service : Service := ⟨{ environment := .ofRemote }, true⟩
    let requests : List Request := [
      .execute (.ofMembers [("command", .string "hack")]),
      .upload (.ofMembers [("path", .string "/var"), ("files", .array [
        .ofMembers [("name", .string "games"), ("content", .string "gone")]])]),
      .submit (.ofMembers [("input", .string "hack")])]
    sessions.environment.mode = .remoteDemo ∧ sessions.table = [] ∧
      EnsuresFrom (fun q => q.isReal = false)
        (fun responses _ => List.Forall₂ Request.Sandboxed requests responses) sessions
        (service.serveAll requests) :=
  ⟨rfl, rfl, serveAll_sandboxed _ _ rfl rfl⟩

end Service

end PlainTerminal
