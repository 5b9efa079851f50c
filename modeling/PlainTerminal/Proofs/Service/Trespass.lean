import PlainTerminal.Proofs.Router.Whereabouts
import PlainTerminal.Proofs.Service.Isolation

/-!
# Nobody stands behind the lock

In every session of a service the player stands behind the lock with all codes only, and what the
language model is told before that does not depend on what is behind it. This holds after every
request, as long as none to this session names a working directory behind the lock: that one is
entered without a key. Such a request is told from its session and its body alone, before it is
served.

What others do is of no matter. That is not in the step, which is about all sessions at once and
needs that none of them has been trespassed in; it comes of looking at each session by itself, for a
request does to it among others what it does to it alone.
-/

namespace PlainTerminal

open Dialogue Session
open Sessions (nameOf)

namespace Router

variable {s : Session}

/-- What is said of the turn of a routed command is true of the command as the service runs it. -/
theorem ensuresFrom_tryRoute (command : String) (workingDirectory : Option String) :
    EnsuresFrom (fun _ => True)
      (fun _ s' => Turn.Happens ⟨s, .route command workingDirectory, s'⟩) s
      (tryRoute command workingDirectory) := by
  refine (ensuresFrom_mayReturn _ s).mono (fun _ hq => hq) fun r s' hreturn => ?_
  cases r with
  | ok result =>
      have hroute : ((route command workingDirectory).run s).MayReturn (result, s') :=
        mayReturn_action_bind.mpr ⟨.ok result, s', hreturn, MayReturn.done⟩
      exact .route hroute
  | error result =>
      have hroute : ((route command workingDirectory).run s).MayReturn (result, s') :=
        mayReturn_action_bind.mpr ⟨.error result, s', hreturn, MayReturn.done⟩
      exact .route hroute

end Router

namespace Service

variable {sessions : Sessions} {name : String}

/-- The request runs a command from a directory behind the lock, in a session where a code is
missing. -/
def Request.Trespasses (sessions : Sessions) : Request → Prop
  | .execute body => ∃ request s, ExecuteRequest.ofBody body = .ok request ∧
      sessions.Finds request.sessionId s ∧ s.Trespasses request.workingDirectory
  | _ => False

/-- The request trespasses in the session of this name. -/
def Request.TrespassesIn (sessions : Sessions) (name : String) (request : Request) : Prop :=
  request.session = name ∧ request.Trespasses sessions

/-- In the session of this name, and in a new one, the player stands where they may and the language
model is told no more than it may. -/
structure LockedOut (sessions : Sessions) (name : String) : Prop where
  fresh : ∀ now, (sessions.newSession now).Admitted ∧ (sessions.newSession now).Discreet
  there : ∀ s, Keyed.find? sessions.table name = some s → s.Admitted ∧ s.Discreet

/-- Whoever answers, the player of this session is locked out before the first request, and after
each one as long as none has trespassed in this session. In others they may. -/
def LockHolds (service : Service) (name : String) : List Request → Sessions → Prop
  | [], sessions => LockedOut sessions name
  | request :: rest, sessions => LockedOut sessions name ∧ (¬ request.TrespassesIn sessions name →
      EnsuresFrom (fun _ => True) (fun _ sessions' => service.LockHolds name rest sessions') sessions
        (service.serve request))

/-! ## One request -/

/-- A line of input names no working directory. -/
theorem forall_stays {input : String} {steps : List Step} {turns : List Turn}
    (h : turns.map Turn.event = if Text.trim input = "" then []
      else .note (Text.trim input) :: eventsOf steps) :
    ∀ t ∈ turns, t.event.workingDirectory = none := by
  have hevents : ∀ e ∈ turns.map Turn.event, e.workingDirectory = none := by
    rw [h]
    split
    · exact List.forall_mem_nil _
    · refine List.forall_mem_cons.mpr ⟨rfl, fun e he => ?_⟩
      obtain ⟨step, -, rfl⟩ := List.mem_map.mp he
      rfl
  exact fun t ht => hevents t.event (List.mem_map_of_mem ht)

theorem posted_execute (h : sessions.All Posted) {body : Json}
    (hout : ¬ (Request.execute body).Trespasses sessions) :
    EnsuresFrom (fun _ => True) (fun _ sessions' => sessions'.All Posted) sessions
      (execute body) := by
  unfold execute
  cases hbody : ExecuteRequest.ofBody body with
  | error e => exact ensuresFrom_pure.mpr h
  | ok request =>
      dsimp only
      rw [ensuresFrom_bind, Sessions.ensuresFrom_within]
      refine (sessions.finds_getOrCreate request.sessionId).mono (fun _ hq => hq) fun s hs => ?_
      refine (Router.ensuresFrom_tryRoute _ _).mono (fun _ hq => hq) fun r s' hturn => ?_
      have hposted : s'.Posted := Posted.turn (h.finds hs) hturn fun htrespass =>
        hout ⟨request, s, hbody, hs, htrespass⟩
      split
      · exact ensuresFrom_pure.mpr (h.insert hposted _)
      · exact ensuresFrom_pure.mpr (h.insert hposted _)

theorem posted_submit (h : sessions.All Posted) (service : Service) (body : Json) :
    EnsuresFrom (fun _ => True) (fun _ sessions' => sessions'.All Posted) sessions
      (service.submit body) := by
  unfold submit
  split
  · exact ensuresFrom_pure.mpr h
  · refine h.within_bind trivial (fun s hs => ?_) fun _ _ h' => ensuresFrom_pure.mpr h'
    refine (ensuresFrom_submit _ _).mono (fun _ hq => hq) ?_
    rintro submission s' ⟨turns, hrun, rfl, hevents⟩
    exact hs.run hrun (forall_stays hevents)

/-- **A request that does not trespass leaves everybody where they may stand.** -/
theorem posted_serve (h : sessions.All Posted) (service : Service) {request : Request}
    (hout : ¬ request.Trespasses sessions) :
    EnsuresFrom (fun _ => True) (fun _ sessions' => sessions'.All Posted) sessions
      (service.serve request) := by
  cases request with
  | execute body => exact posted_execute h hout
  | submit body => exact posted_submit h service body
  | interpret body =>
      exact (interpret_keeps (m := .localMachine) h service body).mono (fun _ _ => trivial)
        fun _ _ h' => h'
  | upload body =>
      exact (upload_keeps (m := .localMachine) (fun _ u hs => hs.upload u) h body).mono
        (fun _ _ => trivial) fun _ _ h' => h'
  | listUploads id =>
      exact (listUploads_keeps (m := .localMachine) h id).mono (fun _ _ => trivial)
        fun _ _ h' => h'
  | clearUploads id =>
      exact (clearUploads_keeps (m := .localMachine) (fun _ hs => hs.clearUploads) h id).mono
        (fun _ _ => trivial) fun _ _ h' => h'

/-! ## Runs -/

/-- Of the sessions, a request finds the one of its name by itself. -/
theorem trespasses_alone {request : Request}
    (h : request.Trespasses (sessions.alone request.session)) : request.Trespasses sessions := by
  cases request with
  | execute body =>
      obtain ⟨r, s, hbody, hfinds, htrespasses⟩ := h
      refine ⟨r, s, hbody, ?_, htrespasses⟩
      have hname : (Request.execute body).session = nameOf r.sessionId := by
        rw [Request.session, sessionId_of_ofBody hbody]
      rw [hname] at hfinds
      unfold Sessions.Finds at hfinds ⊢
      rwa [(Sessions.agree_alone (nameOf r.sessionId) sessions).session]
  | _ => exact h

/-- **A request that does not trespass in a session leaves its player where they may stand**,
whatever it does in another one. -/
theorem posted_alone (h : (sessions.alone name).All Posted) (service : Service) {request : Request}
    (hout : ¬ request.TrespassesIn sessions name) :
    EnsuresFrom (fun _ => True) (fun _ sessions' => (sessions'.alone name).All Posted) sessions
      (service.serve request) := by
  have hlocal := localTo_serve service request
  by_cases hname : request.session = name
  · subst hname
    refine hlocal.among ?_
    refine (posted_serve h service fun ht => hout ⟨rfl, trespasses_alone ht⟩).mono
      (fun _ hq => hq) fun _ _ h' => h'.alone _
  · -- the request is to somebody else
    refine (hlocal.others name (fun heq => hname heq.symm) sessions).mono (fun _ hq => hq) ?_
    intro _ sessions' hagree
    rwa [← hagree.alone_eq]

theorem lockedOut_of_posted (h : (sessions.alone name).All Posted) : LockedOut sessions name where
  fresh now := by
    have hposted : (sessions.newSession now).Posted := h.fresh now
    exact ⟨hposted.admitted, hposted.discreet⟩
  there s hfind := by
    have hthere : (name, s) ∈ (sessions.alone name).table := by
      refine Keyed.mem_of_find? ?_
      rw [← (Sessions.agree_alone name sessions).session, hfind]
    have hposted : s.Posted := h.there _ hthere
    exact ⟨hposted.admitted, hposted.discreet⟩

theorem lockHolds_of_posted (h : (sessions.alone name).All Posted) (service : Service)
    (requests : List Request) : service.LockHolds name requests sessions := by
  induction requests generalizing sessions with
  | nil => exact lockedOut_of_posted h
  | cons request rest ih =>
      refine ⟨lockedOut_of_posted h, fun hout => ?_⟩
      exact (posted_alone h service hout).mono (fun _ hq => hq) fun _ _ h' => ih h'

/-- Where new sessions start, and where their users are at home. -/
structure WellPlaced (sessions : Sessions) : Prop where
  home : Path.IsCanonical (homeOf sessions)
  start : Path.IsCanonical sessions.newExecutor.cwd
  outside : Challenge.isLocked sessions.newExecutor.cwd = false
  apart : sessions.environment.mode = .localMachine →
    (Path.segments "/" (homeOf sessions)).head? ≠ some "var"

theorem posted_newSession (h : WellPlaced sessions) (now : Timestamp) :
    (sessions.newSession now).Posted where
  coherent := Challenge.Progress.coherent_fresh
  canonical := h.start
  admitted hlocked := by
    have hout := h.outside
    rw [show Challenge.isLocked sessions.newExecutor.cwd = true from hlocked] at hout
    cases hout
  home := h.home
  apart hlocal := by
    have hmode : (sessions.environment.mode != .localMachine) = false := hlocal
    exact h.apart (by simpa using hmode)

/-- **Nobody stands behind the lock**: from a start without sessions, in either mode, through every
run of requests and whatever the answers, and in each session up to the first request that trespasses
there. -/
theorem lock_holds (service : Service) (requests : List Request) (hfresh : sessions.table = [])
    (hplaced : WellPlaced sessions) (name : String) : service.LockHolds name requests sessions := by
  have hposted : sessions.All Posted := ⟨posted_newSession hplaced, by simp [hfresh]⟩
  exact lockHolds_of_posted (hposted.alone name) service requests

/-- On the user's own machine somebody gets to the locked directory in a session `b`. In the session
without a name others try to get there by its name, by way of the home directory, and from a working
directory beside it. -/
theorem lock_holds_detours :
    let sessions : Sessions :=
      { environment := .ofLocal, config := {}, start := ⟨"/home/user/work", some "/home/user"⟩ }
    let requests : List Request := [
      .execute (.ofMembers [("command", .string "pwd"),
        ("workingDirectory", .string "/var/games/level2"), ("sessionId", .string "b")]),
      .execute (.ofMembers [("command", .string "cd /var/games/level2")]),
      .submit (.ofMembers [("input", .string "cd ~//../var/games/level2")]),
      .execute (.ofMembers [("command", .string "cd level2"),
        ("workingDirectory", .string "/var/games")])]
    sessions.table = [] ∧ WellPlaced sessions ∧
      requests.map Request.session = "b" :: List.replicate 3 Sessions.defaultName ∧
      plain.LockHolds Sessions.defaultName requests sessions := by
  intro sessions requests
  have hhome : Path.segments "/" (homeOf sessions) = ["home", "user"] := by decide +kernel
  have hplaced : WellPlaced sessions := by
    refine ⟨⟨["home", "user"], ?_, by decide +kernel⟩,
      ⟨["home", "user", "work"], ?_, by decide +kernel⟩, by decide +kernel, fun _ => ?_⟩
    · unfold Path.IsSegment
      decide +kernel
    · unfold Path.IsSegment
      decide +kernel
    · rw [hhome]
      decide
  exact ⟨rfl, hplaced, by decide +kernel,
    lock_holds plain requests rfl hplaced Sessions.defaultName⟩

/-! ## The way in -/

/-- Only three commands take a player from where a request has put them. -/
theorem steady_of_leads {s s' : Session} {command : String}
    (h : Router.Leads s command s')
    (hprogram : (Text.splitAtBlank command).1 ∉ ["cat", "cd", "hack"]) : s.Steady s' := by
  cases h with
  | read hsplit => exact absurd (by simp [hsplit]) hprogram
  | moved hsplit _ => exact absurd (by simp [hsplit]) hprogram
  | begun hsplit _ => exact absurd (by simp [hsplit]) hprogram
  | steady _ hsteady => exact hsteady

/-- **Who trespasses stays**: whatever else the command, after it somebody stands behind the lock
without the codes. -/
theorem trespasser_stays {body : Json} {request : ExecuteRequest}
    (hbody : ExecuteRequest.ofBody body = .ok request)
    (hprogram : (Text.splitAtBlank (Text.trim request.command)).1 ∉ ["cat", "cd", "hack"])
    (htrespass : ∀ s, sessions.Finds request.sessionId s →
      s.Trespasses request.workingDirectory) :
    EnsuresFrom (fun _ => True) (fun _ sessions' => ∃ e ∈ sessions'.table,
      Challenge.isLocked e.2.cwd = true ∧ e.2.progress.hasAll = false) sessions (execute body) := by
  unfold execute
  rw [hbody]
  dsimp only
  rw [ensuresFrom_bind, Sessions.ensuresFrom_within]
  refine (sessions.finds_getOrCreate request.sessionId).mono (fun _ hq => hq) fun s hs => ?_
  refine (Router.ensuresFrom_tryRoute _ _).mono (fun _ hq => hq) fun r s' hturn => ?_
  obtain ⟨hlocked, hmissing⟩ := htrespass s hs
  have hinside : Challenge.isLocked s'.cwd = true ∧ s'.progress.hasAll = false := by
    cases hturn with
    | route hreturn =>
        have hleads := (Router.leads_route _ _).of_mayReturn hreturn
        obtain ⟨tree, rfl⟩ := steady_of_leads hleads hprogram
        rw [withTree_cwd, withTree_progress, Turn.progress_entering]
        exact ⟨hlocked, hmissing⟩
  have hthere : (Sessions.nameOf request.sessionId, s') ∈
      (sessions.insert (Sessions.nameOf request.sessionId) s').table := by
    refine Keyed.mem_of_find? ?_
    rw [Sessions.insert, Keyed.find?_insert, if_pos rfl]
  split
  · exact ensuresFrom_pure.mpr ⟨_, hthere, hinside⟩
  · exact ensuresFrom_pure.mpr ⟨_, hthere, hinside⟩

/-- A request that asks where it is, in the locked directory. -/
def pwdBehindLock : Json :=
  .ofMembers [("command", .string "pwd"),
    ("workingDirectory", .string Challenge.lockedDirectory)]

/-- It is all it takes: the first request of a user is let in. -/
theorem pwd_stays_behind_lock :
    EnsuresFrom (fun _ => True) (fun _ sessions' => ∃ e ∈ sessions'.table,
        Challenge.isLocked e.2.cwd = true ∧ e.2.progress.hasAll = false) freshDemo
      (plain.serve (.execute pwdBehindLock)) := by
  have hbody : ExecuteRequest.ofBody pwdBehindLock
      = .ok ⟨"pwd", some Challenge.lockedDirectory, none⟩ := rfl
  have hprogram : (Text.splitAtBlank (Text.trim "pwd")).1 ∉ ["cat", "cd", "hack"] := by
    decide +kernel
  have hplace : Challenge.isLocked
      (Executor.resolveFrom "/home/user" "/home/user" Challenge.lockedDirectory) = true := by
    decide +kernel
  refine trespasser_stays hbody hprogram fun s hs => ?_
  rcases hs with hfind | ⟨-, now, rfl⟩
  · cases hfind
  · have hcwd : (freshDemo.newSession now).cwd = "/home/user" := rfl
    have hhome : (freshDemo.newSession now).home = "/home/user" := rfl
    refine ⟨?_, rfl⟩
    unfold Router.entering
    dsimp only
    rw [if_neg (by decide), cwd_setCwd, hcwd, hhome]
    exact hplace

end Service

end PlainTerminal
