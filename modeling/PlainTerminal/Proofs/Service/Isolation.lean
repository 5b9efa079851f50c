import PlainTerminal.Proofs.Dialogue.Course
import PlainTerminal.Proofs.Dialogue.InStep
import PlainTerminal.Proofs.Service.ReadOnly
import PlainTerminal.Proofs.Service.Sandbox

/-!
# Sessions keep to themselves

All sessions of a service share its router, its configuration and one table. Still nobody notices
the others: what a request is answered, and what becomes of its session, is the same whether the
requests of other sessions are served in between or not.

It comes down to a single request, which is *local* to the session that it names: it does the same
in any two tables that agree about this session, and leaves all others alone. An interleaved run and
the run of one session then go side by side, and at the requests of others only the one moves on.

The clock and chance may say something else at every request, and the interleaved run asks them more
often. To compare the two runs, each request is taken together with its `Circumstances`, which are
what the clock and chance say while it is served.
-/

namespace PlainTerminal

open Dialogue Session

variable {α β σ : Type} {sessions sessions' sessions'' : Sessions} {name : String}
  {asks : Question → Prop} {P : Session → Prop}

namespace Sessions

/-- The sessions may differ, but not in the one of this name, nor in what new ones are made of. -/
structure Agree (name : String) (sessions sessions' : Sessions) : Prop where
  environment : sessions.environment = sessions'.environment
  config : sessions.config = sessions'.config
  start : sessions.start = sessions'.start
  session : Keyed.find? sessions.table name = Keyed.find? sessions'.table name

namespace Agree

theorem refl (name : String) (sessions : Sessions) : Agree name sessions sessions :=
  ⟨rfl, rfl, rfl, rfl⟩

theorem symm (h : Agree name sessions sessions') : Agree name sessions' sessions :=
  ⟨h.environment.symm, h.config.symm, h.start.symm, h.session.symm⟩

theorem trans (h : Agree name sessions sessions') (h' : Agree name sessions' sessions'') :
    Agree name sessions sessions'' :=
  ⟨h.environment.trans h'.environment, h.config.trans h'.config, h.start.trans h'.start,
    h.session.trans h'.session⟩

theorem insert (h : Agree name sessions sessions') (s : Session) :
    Agree name (sessions.insert name s) (sessions'.insert name s) := by
  refine ⟨h.environment, h.config, h.start, ?_⟩
  unfold Sessions.insert
  rw [Keyed.find?_insert, Keyed.find?_insert, if_pos rfl, if_pos rfl]

/-- A session is found, or made, in the same way. -/
theorem getOrCreate_eq {id : Option String} (h : Agree (nameOf id) sessions sessions') :
    sessions.getOrCreate id = sessions'.getOrCreate id := by
  have hnew : sessions.newSession = sessions'.newSession := by
    funext now
    unfold newSession newExecutor limits
    rw [h.environment, h.config, h.start]
  unfold getOrCreate
  rw [h.session, hnew]

end Agree

/-- To put a session under its name changes nothing about another name. -/
theorem agree_insert {other : String} (hne : other ≠ name) (sessions : Sessions) (s : Session) :
    Agree other sessions (sessions.insert name s) := by
  refine ⟨rfl, rfl, rfl, ?_⟩
  unfold Sessions.insert
  rw [Keyed.find?_insert, if_neg hne.symm]

/-- The session of a name by itself. -/
def alone (sessions : Sessions) (name : String) : Sessions :=
  { sessions with table := ((Keyed.find? sessions.table name).map fun s => (name, s)).toList }

theorem agree_alone (name : String) (sessions : Sessions) :
    Agree name sessions (sessions.alone name) := by
  refine ⟨rfl, rfl, rfl, ?_⟩
  unfold alone
  cases Keyed.find? sessions.table name with
  | none => rfl
  | some s => exact (if_pos rfl).symm

/-- Where two tables agree, there is the same session by itself. -/
theorem Agree.alone_eq (h : Agree name sessions sessions') :
    sessions.alone name = sessions'.alone name := by
  unfold alone
  rw [h.environment, h.config, h.start, h.session]

theorem All.alone (h : sessions.All P) (name : String) : (sessions.alone name).All P := by
  refine ⟨h.fresh, fun e he => ?_⟩
  obtain ⟨s, hfind, rfl⟩ := Option.map_eq_some_iff.mp (Option.mem_toList.mp he)
  exact h.there (name, s) (Keyed.mem_of_find? hfind)

end Sessions

open Sessions (Agree nameOf)

/-! ## Local handlers -/

/-- What happens concerns the session of one name only. -/
structure LocalTo (name : String) (handler : Serving α) : Prop where
  /-- It is decided by this session. -/
  inStep : ∀ sessions sessions', Agree name sessions sessions' →
    InStep (fun r r' => r.1 = r'.1 ∧ Agree name r.2 r'.2) (handler.run sessions)
      (handler.run sessions')
  /-- It leaves every other session alone. -/
  others : ∀ other, other ≠ name → ∀ sessions,
    EnsuresFrom (fun _ => True) (fun _ sessions' => Agree other sessions sessions') sessions handler

namespace LocalTo

theorem pure (value : α) : LocalTo name (pure value) :=
  ⟨fun _ _ h => .done ⟨rfl, h⟩, fun _ _ _ => ensuresFrom_pure.mpr (Agree.refl _ _)⟩

theorem lift (d : Dialogue α) : LocalTo name (liftM d : Serving α) := by
  constructor
  · intro sessions sessions' h
    refine InStep.bind (InStep.of_ensures (ensures_true d)) ?_
    rintro value _ ⟨rfl, -⟩
    exact .done ⟨rfl, h⟩
  · intro other _ sessions
    rw [ensuresFrom_lift]
    exact (ensures_true d).mono (fun _ hq => hq) fun _ _ => Agree.refl _ _

theorem bind {handler : Serving α} {f : α → Serving β} (h : LocalTo name handler)
    (hf : ∀ value, LocalTo name (f value)) : LocalTo name (handler >>= f) := by
  constructor
  · intro sessions sessions' hagree
    refine (h.inStep _ _ hagree).action_bind ?_
    rintro value t _ t' ⟨rfl, ht⟩
    exact (hf value).inStep t t' ht
  · intro other hne sessions
    rw [ensuresFrom_bind]
    refine (h.others other hne sessions).mono (fun _ hq => hq) fun value t ht => ?_
    exact ((hf value).others other hne t).mono (fun _ hq => hq) fun _ _ ht' => ht.trans ht'

/-- Whatever happens within a session is local to it. -/
theorem within (id : Option String) (action : Action α) :
    LocalTo (nameOf id) (Sessions.within id action) := by
  constructor
  · intro sessions sessions' h
    have hrun : ∀ t : Sessions, (Sessions.within id action).run t =
        t.getOrCreate id >>= fun session => action.run session >>= fun r =>
          done (r.1, t.insert (nameOf id) r.2) := by
      intro t
      unfold Sessions.within
      simp only [StateT.run_bind, StateT.run_get, StateT.run_set, StateT.run_pure, pure_eq,
        done_bind, StateT.run_monadLift, monadLift_self, bind_assoc]
    rw [hrun, hrun, h.getOrCreate_eq]
    refine InStep.bind (InStep.of_ensures (ensures_true _)) ?_
    rintro session _ ⟨rfl, -⟩
    refine InStep.bind (InStep.of_ensures (ensures_true _)) ?_
    rintro r _ ⟨rfl, -⟩
    exact .done ⟨rfl, h.insert r.2⟩
  · intro other hne sessions
    rw [Sessions.ensuresFrom_within]
    refine (ensures_true _).mono (fun _ hq => hq) fun session _ => ?_
    exact (ensuresFrom_true action session).mono (fun _ hq => hq) fun _ s _ =>
      Sessions.agree_insert hne sessions s

theorem within_bind {id : Option String} {action : Action α} {f : α → Serving β}
    (hf : ∀ value, LocalTo (nameOf id) (f value)) :
    LocalTo (nameOf id) (Sessions.within id action >>= f) :=
  (LocalTo.within id action).bind hf

/-- What it does to the session by itself, it does to it among others. -/
theorem among {handler : Serving α} {post : Sessions → Prop} (h : LocalTo name handler)
    (hpost : EnsuresFrom asks (fun _ t => post (t.alone name)) (sessions.alone name) handler) :
    EnsuresFrom asks (fun _ t => post (t.alone name)) sessions handler := by
  unfold EnsuresFrom at hpost ⊢
  have hstep := h.inStep _ _ (Sessions.agree_alone name sessions).symm
  refine (hstep.ensures hpost).mono (fun _ hq => hq) ?_
  rintro r' ⟨r, ⟨-, hagree⟩, hr⟩
  rwa [← hagree.alone_eq]

end LocalTo

namespace Service

/-! ## The session of a request -/

/-- The session that a body gives: that of the record that it is, or the one in its field if it is
no such record. -/
def idOf (shape : Json.RecordShape α) (start : α) (id : α → Option String) (body : Json) :
    Option String :=
  match decodeBody shape start body with
  | .ok request => id request
  | .error _ => body.textField? "sessionId"

/-- The name of the session that a request is for. -/
def Request.session : Request → String
  | .execute body => nameOf (body.textField? "sessionId")
  | .submit body => nameOf (idOf SubmitRequest.shape {} SubmitRequest.sessionId body)
  | .interpret body => nameOf (idOf InterpretRequest.shape {} InterpretRequest.sessionId body)
  | .upload body => nameOf (idOf UploadRequest.shape {} UploadRequest.sessionId body)
  | .listUploads id => nameOf id
  | .clearUploads id => nameOf id

theorem idOf_eq {shape : Json.RecordShape α} {start request : α} {body : Json}
    (h : decodeBody shape start body = .ok request) (id : α → Option String) :
    idOf shape start id body = id request := by
  unfold idOf
  rw [h]

theorem sessionId_of_ofBody {body : Json} {request : ExecuteRequest}
    (h : ExecuteRequest.ofBody body = .ok request) :
    request.sessionId = body.textField? "sessionId" := by
  unfold ExecuteRequest.ofBody at h
  split at h
  · cases h
  · split at h
    · cases h
    · cases h
      rfl

/-! ## Every request is local -/

theorem localTo_execute (body : Json) :
    LocalTo (Request.execute body).session (execute body) := by
  unfold execute
  split
  · exact LocalTo.pure _
  · rename_i request hrequest
    rw [Request.session, ← sessionId_of_ofBody hrequest]
    refine LocalTo.within_bind fun result => ?_
    split
    · exact LocalTo.pure _
    · exact LocalTo.pure _

theorem localTo_submit (service : Service) (body : Json) :
    LocalTo (Request.submit body).session (service.submit body) := by
  unfold submit
  split
  · exact LocalTo.pure _
  · rename_i request hrequest
    rw [Request.session, idOf_eq hrequest]
    exact LocalTo.within_bind fun _ => LocalTo.pure _

/-- Of all that can be asked of the assistant, only a hint looks into the session. -/
theorem localTo_answer (request : InterpretRequest) :
    LocalTo (nameOf request.sessionId) (answer request) := by
  unfold answer
  split
  · split
    · exact LocalTo.pure _
    · exact (LocalTo.lift _).bind fun _ => LocalTo.pure _
  · exact (LocalTo.lift _).bind fun _ => LocalTo.pure _
  · exact (LocalTo.lift _).bind fun _ => LocalTo.pure _
  · exact (LocalTo.lift _).bind fun _ => LocalTo.pure _
  · exact (LocalTo.lift _).bind fun _ => LocalTo.pure _
  · exact (LocalTo.lift _).bind fun _ => LocalTo.pure _
  · exact LocalTo.within_bind fun _ => LocalTo.pure _
  · exact LocalTo.pure _

theorem localTo_interpret (service : Service) (body : Json) :
    LocalTo (Request.interpret body).session (service.interpret body) := by
  unfold interpret
  split
  · exact LocalTo.pure _
  · rename_i request hrequest
    rw [Request.session, idOf_eq hrequest]
    split
    · exact (localTo_answer request).bind fun _ => LocalTo.pure _
    · exact LocalTo.pure _

theorem localTo_upload (body : Json) : LocalTo (Request.upload body).session (upload body) := by
  unfold upload
  split
  · exact LocalTo.pure _
  · rename_i request hrequest
    rw [Request.session, idOf_eq hrequest]
    split
    · exact LocalTo.pure _
    · refine LocalTo.within_bind fun stored => ?_
      split
      · exact LocalTo.pure _
      · exact LocalTo.pure _

/-- **A request is local to the session that it names.** -/
theorem localTo_serve (service : Service) (request : Request) :
    LocalTo request.session (service.serve request) := by
  cases request with
  | execute body => exact localTo_execute body
  | submit body => exact localTo_submit service body
  | interpret body => exact localTo_interpret service body
  | upload body => exact localTo_upload body
  | listUploads id => exact LocalTo.within_bind fun _ => LocalTo.pure _
  | clearUploads id => exact LocalTo.within_bind fun _ => LocalTo.pure _

/-! ## Runs -/

/-- Serves requests one after the other. Whoever answers does so for each request from a state of
its own. -/
def serveEach (service : Service) (answer : (q : Question) → σ → q.Answer × σ) :
    List (Request × σ) → Sessions → List (Request × Response) × Sessions
  | [], sessions => ([], sessions)
  | (request, state) :: rest, sessions =>
    let served := (((service.serve request).run sessions).run answer state).1
    let others := service.serveEach answer rest served.2
    ((request, served.1) :: others.1, others.2)

/-- A run like this is one that the service may make. -/
theorem mayReturn_serveEach (service : Service) (answer : (q : Question) → σ → q.Answer × σ)
    (run : List (Request × σ)) (sessions : Sessions) :
    ((service.serveAll (run.map Prod.fst)).run sessions).MayReturn
      ((service.serveEach answer run sessions).1.map Prod.snd,
        (service.serveEach answer run sessions).2) := by
  induction run generalizing sessions with
  | nil => exact .done
  | cons r rest ih =>
      rw [List.map_cons, serveAll, mayReturn_action_bind]
      refine ⟨_, _, mayReturn_run _ answer r.2, ?_⟩
      rw [mayReturn_action_bind]
      exact ⟨_, _, ih _, .done⟩

/-- The requests to one session do in a run by themselves what they do among the requests to
others. -/
theorem serveEach_filter (service : Service) (answer : (q : Question) → σ → q.Answer × σ)
    (run : List (Request × σ)) (h : Agree name sessions sessions') :
    (service.serveEach answer (run.filter fun r => r.1.session = name) sessions').1 =
        (service.serveEach answer run sessions).1.filter (fun r => r.1.session = name) ∧
      Agree name (service.serveEach answer run sessions).2
        (service.serveEach answer (run.filter fun r => r.1.session = name) sessions').2 := by
  induction run generalizing sessions sessions' with
  | nil => exact ⟨rfl, h⟩
  | cons r rest ih =>
      obtain ⟨request, state⟩ := r
      have hlocal := localTo_serve service request
      by_cases hname : request.session = name
      · -- Both runs serve this request, and it cannot tell them apart.
        rw [hname] at hlocal
        obtain ⟨hresponse, hagree⟩ := (hlocal.inStep _ _ h).run answer state
        obtain ⟨hrest, hend⟩ := ih hagree
        rw [List.filter_cons_of_pos (by simpa using hname)]
        unfold serveEach
        dsimp only
        rw [List.filter_cons_of_pos (by simpa using hname), hrest, hresponse]
        exact ⟨rfl, hend⟩
      · -- The run of the session waits while somebody else is served.
        have hother := hlocal.others name (fun heq => hname heq.symm) sessions
        unfold EnsuresFrom at hother
        obtain ⟨hrest, hend⟩ := ih ((hother.run answer state).symm.trans h)
        rw [List.filter_cons_of_neg (by simpa using hname)]
        rw [serveEach]
        dsimp only
        rw [List.filter_cons_of_neg (by simpa using hname)]
        exact ⟨hrest, hend⟩

end Service

/-! ## Circumstances -/

/-- What the clock and chance say, from one time that they are asked to the next. -/
structure Circumstances where
  clock : Nat → Timestamp
  /-- The numbers that chance draws. -/
  chance : Nat → Nat

namespace Circumstances

/-- The language model says the same to the same request and the real machine the same to the same
question, and for the rest it is as the circumstances have it. -/
def answered (model : CompletionRequest → Except ModelError String)
    (machine : (q : Question) → q.Answer) :
    (q : Question) → Circumstances → q.Answer × Circumstances
  | .runCommand call, c => (machine (.runCommand call), c)
  | .isDirectory path, c => (machine (.isDirectory path), c)
  | .listDirectory path, c => (machine (.listDirectory path), c)
  | .complete request, c => (model request, c)
  | .now, c => (c.clock 0, { c with clock := fun i => c.clock (i + 1) })
  | .pick last, c =>
    (⟨c.chance 0 % (last + 1), Nat.mod_lt _ last.succ_pos⟩,
      { c with chance := fun i => c.chance (i + 1) })

/-- Sets the clock to a first reading, before all others. -/
def afterReading (time : Timestamp) (c : Circumstances) : Circumstances :=
  { c with clock := fun i => i.casesOn time c.clock }

/-- Lets chance draw a first number, before all others. -/
def afterDrawing (number : Nat) (c : Circumstances) : Circumstances :=
  { c with chance := fun i => i.casesOn number c.chance }

variable {model : CompletionRequest → Except ModelError String}
  {answer : (q : Question) → σ → q.Answer × σ}

/-- Whoever answers a dialogue of the demo, with this model, answers as some circumstances have
it. -/
theorem exists_run_eq {d : Dialogue α} {post : α → Prop}
    (h : d.Ensures Mode.remoteDemo.Allows post)
    (hmodel : ∀ request state, (answer (.complete request) state).1 = model request) (state : σ) :
    ∃ c, ∀ machine, (d.run (answered model machine) c).1 = (d.run answer state).1 := by
  induction d generalizing state with
  | done value => exact ⟨⟨fun _ => ⟨0⟩, fun _ => 0⟩, fun _ => rfl⟩
  | ask q next ih =>
      obtain ⟨hq, hnext⟩ := ensures_ask.mp h
      obtain ⟨c, hc⟩ := ih _ (hnext (answer q state).1) (answer q state).2
      cases q with
      | runCommand call => cases hq
      | isDirectory path => cases hq
      | listDirectory path => cases hq
      | complete request =>
          refine ⟨c, fun machine => ?_⟩
          have hsame : (answered model machine (.complete request) c).1 =
            (answer (.complete request) state).1 := (hmodel request state).symm
          rw [run_ask, run_ask, hsame]
          exact hc machine
      | now => exact ⟨c.afterReading (answer .now state).1, hc⟩
      | pick last =>
          refine ⟨c.afterDrawing (Fin.val (n := last + 1) (answer (.pick last) state).1),
            fun machine => ?_⟩
          have hsame : (answered model machine (.pick last) (c.afterDrawing
              (Fin.val (n := last + 1) (answer (.pick last) state).1))).1 =
            (answer (.pick last) state).1 := Fin.ext (Nat.mod_eq_of_lt (Fin.isLt _))
          rw [run_ask, run_ask, hsame]
          exact hc machine

end Circumstances

namespace Service

variable {model : CompletionRequest → Except ModelError String}
  {answer : (q : Question) → σ → q.Answer × σ}

/-- A run of a service in the demo, whoever answers, is a run in some circumstances. -/
theorem exists_serveEach_eq (service : Service) (h : sessions.All (Ready .remoteDemo))
    (hmodel : ∀ request state, (answer (.complete request) state).1 = model request)
    (requests : List Request) (state : σ) :
    ∃ run : List (Request × Circumstances), run.map Prod.fst = requests ∧
      ∀ machine, service.serveEach (Circumstances.answered model machine) run sessions =
        (requests.zip (((service.serveAll requests).run sessions).run answer state).1.1,
          (((service.serveAll requests).run sessions).run answer state).1.2) := by
  induction requests generalizing sessions state with
  | nil => exact ⟨[], rfl, fun _ => rfl⟩
  | cons request rest ih =>
      have hserve := serve_keeps (ready_invariant _) h service request
        fun body _ => upload_keeps (fun _ u hs => hs.upload u) h body
      unfold EnsuresFrom at hserve
      obtain ⟨c, hc⟩ := Circumstances.exists_run_eq hserve hmodel state
      obtain ⟨run, hrun, heach⟩ := ih (hserve.run answer state).1
        (((service.serve request).run sessions).run answer state).2
      refine ⟨(request, c) :: run, by rw [List.map_cons, hrun], fun machine => ?_⟩
      rw [serveEach, hc machine, heach machine]
      rw [serveAll, StateT.run_bind, run_bind, StateT.run_bind, run_bind]
      rfl

/-- **Sessions are isolated**: whatever the circumstances, the requests to one session are answered
as in the run without all others, and leave the session as it is in that run. A run in some
circumstances is one that the service may make, and every run of the demo with a language model that
says the same to the same request is one in some circumstances. -/
theorem sessions_isolated (service : Service) (sessions : Sessions)
    (hmode : sessions.environment.mode = .remoteDemo) (hfresh : sessions.table = [])
    (hmodel : ∀ request state, (answer (.complete request) state).1 = model request) :
    (∀ (machine : (q : Question) → q.Answer) (run : List (Request × Circumstances))
        (name : String),
      let together := service.serveEach (Circumstances.answered model machine) run sessions
      let alone := service.serveEach (Circumstances.answered model machine)
        (run.filter fun r => r.1.session = name) sessions
      alone.1 = together.1.filter (fun r => r.1.session = name) ∧
        Keyed.find? alone.2.table name = Keyed.find? together.2.table name) ∧
    (∀ (machine : (q : Question) → q.Answer) (run : List (Request × Circumstances)),
      let held := service.serveEach (Circumstances.answered model machine) run sessions
      ((service.serveAll (run.map Prod.fst)).run sessions).MayReturn
        (held.1.map Prod.snd, held.2)) ∧
    ∀ (requests : List Request) (state : σ), ∃ run : List (Request × Circumstances),
      run.map Prod.fst = requests ∧
      ∀ machine, service.serveEach (Circumstances.answered model machine) run sessions =
        (requests.zip (((service.serveAll requests).run sessions).run answer state).1.1,
          (((service.serveAll requests).run sessions).run answer state).1.2) := by
  refine ⟨fun machine run name => ?_, fun machine run => ?_, fun requests state => ?_⟩
  · obtain ⟨hresponses, hagree⟩ := service.serveEach_filter
      (Circumstances.answered model machine) run (Agree.refl name sessions)
    exact ⟨hresponses, hagree.session.symm⟩
  · exact service.mayReturn_serveEach _ run sessions
  · have hready := ready_of_fresh hfresh
    rw [hmode] at hready
    exact service.exists_serveEach_eq hready hmodel requests state

/-- An outside where nothing is, the model says nothing and time stands still. -/
def standstill : (q : Question) → Circumstances → q.Answer × Circumstances :=
  Circumstances.answered (fun _ => .ok "") fun
    | .runCommand _ => CommandResult.ok ""
    | .isDirectory _ => false
    | .listDirectory _ => ([] : List String)
    | .complete _ => (.ok "" : Except ModelError String)
    | .now => (⟨0⟩ : Timestamp)
    | .pick last => (⟨0, last.succ_pos⟩ : Fin (last + 1))

/-- The session without a name, by each of its three names, and another one in between. -/
def visits : List (Request × Circumstances) :=
  [.execute (.ofMembers [("command", .string "cd /tmp")]),
    .execute (.ofMembers [("command", .string "cd /etc"), ("sessionId", .string "b")]),
    .listUploads (some ""), .clearUploads (some "default")].map
      fun request => (request, ⟨fun _ => ⟨0⟩, fun _ => 0⟩)

theorem sessions_isolated_visits :
    freshDemo.environment.mode = .remoteDemo ∧ freshDemo.table = [] ∧
      (∀ request state, (standstill (.complete request) state).1 = .ok "") ∧
      (visits.filter fun r => r.1.session = Sessions.defaultName).length = 3 ∧
      (plain.serveEach standstill
          (visits.filter fun r => r.1.session = Sessions.defaultName) freshDemo).1 =
        (plain.serveEach standstill visits freshDemo).1.filter
          (fun r => r.1.session = Sessions.defaultName) := by
  have hmodel : ∀ request state, (standstill (.complete request) state).1 = .ok "" :=
    fun _ _ => rfl
  have h := sessions_isolated plain freshDemo rfl rfl hmodel
  exact ⟨rfl, rfl, hmodel, by decide +kernel, (h.1 _ visits Sessions.defaultName).1⟩

end Service

end PlainTerminal
