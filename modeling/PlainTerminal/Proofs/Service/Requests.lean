import PlainTerminal.Proofs.Router.Commands
import PlainTerminal.Service

/-!
# Runs of a service

A run of the service is a list of requests served one after the other. Each is served in one session
at most, which is made if it is not there, so what every operation keeps in a session holds of all
sessions for as long as the service runs.

Of the operations, `execute` and `submit` are confined, uploads are the only ones that write without
looking where, and the others leave the sessions as they are but for the list of uploads. An
`Invariant` is a property of sessions that the harmless ones keep; whether an upload keeps it is a
question of its own.
-/

namespace PlainTerminal

open Dialogue Session

variable {α : Type} {asks : Question → Prop} {m : Mode} {P : Session → Prop} {sessions : Sessions}

namespace Sessions

/-- The property holds of every session, those to come included. -/
structure All (P : Session → Prop) (sessions : Sessions) : Prop where
  fresh : ∀ now, P (sessions.newSession now)
  there : ∀ e ∈ sessions.table, P e.2

theorem All.insert (h : sessions.All P) {s : Session} (hs : P s) (name : String) :
    (sessions.insert name s).All P := by
  refine ⟨h.fresh, fun e he => ?_⟩
  rcases Keyed.mem_insert he with rfl | he
  · exact hs
  · exact h.there e he

theorem All.getOrCreate (h : sessions.All P) (id : Option String) (hnow : asks .now) :
    (sessions.getOrCreate id).Ensures asks P := by
  unfold Sessions.getOrCreate
  split
  · rename_i session hfind
    exact ensures_done.mpr (h.there _ (Keyed.mem_of_find? hfind))
  · exact ensures_ask.mpr ⟨hnow, fun now => ensures_done.mpr (h.fresh now)⟩

/-- A request with this name finds this session: the one that is there, or a new one. -/
def Finds (sessions : Sessions) (id : Option String) (s : Session) : Prop :=
  Keyed.find? sessions.table (nameOf id) = some s ∨
    (Keyed.find? sessions.table (nameOf id) = none ∧ ∃ now, s = sessions.newSession now)

theorem finds_getOrCreate (sessions : Sessions) (id : Option String) :
    (sessions.getOrCreate id).Ensures (fun _ => True) (sessions.Finds id) := by
  unfold Sessions.getOrCreate
  split
  · exact ensures_done.mpr (Or.inl ‹_›)
  · exact ensures_ask.mpr ⟨trivial, fun now => ensures_done.mpr (Or.inr ⟨‹_›, now, rfl⟩)⟩

theorem All.finds (h : sessions.All P) {id : Option String} {s : Session}
    (hs : sessions.Finds id s) : P s := by
  rcases hs with hfind | ⟨-, now, rfl⟩
  · exact h.there _ (Keyed.mem_of_find? hfind)
  · exact h.fresh now

theorem ensuresFrom_within {id : Option String} {action : Action α} {post : α → Sessions → Prop} :
    EnsuresFrom asks post sessions (within id action) ↔
      (sessions.getOrCreate id).Ensures asks fun session =>
        EnsuresFrom asks (fun value s => post value (sessions.insert (nameOf id) s)) session
          action := by
  unfold Sessions.within
  rw [ensuresFrom_bind, ensuresFrom_get, ensuresFrom_bind, ensuresFrom_lift]
  refine ensures_congr fun session => ?_
  rw [ensuresFrom_bind, ensuresFrom_lift]
  unfold EnsuresFrom
  simp only [StateT.run_bind, StateT.run_set, StateT.run_pure, pure_eq, done_bind, ensures_done]

/-- What an action keeps in a session is kept in all of them. -/
theorem All.within {id : Option String} {action : Action α} {good : α → Prop} (h : sessions.All P)
    (hnow : asks .now)
    (haction : ∀ s, P s → EnsuresFrom asks (fun value s' => P s' ∧ good value) s action) :
    EnsuresFrom asks (fun value sessions' => sessions'.All P ∧ good value) sessions
      (within id action) := by
  rw [ensuresFrom_within]
  refine (h.getOrCreate id hnow).mono (fun _ hq => hq) fun s hs => ?_
  exact (haction s hs).mono (fun _ hq => hq) fun value s' hv => ⟨h.insert hv.1 _, hv.2⟩

theorem All.within_bind {β : Type} {id : Option String} {action : Action α}
    {f : α → Serving β} (h : sessions.All P) (hnow : asks .now)
    (haction : ∀ s, P s → EnsuresFrom asks (fun _ s' => P s') s action)
    (hf : ∀ value sessions', sessions'.All P →
      EnsuresFrom asks (fun _ sessions'' => sessions''.All P) sessions' (f value)) :
    EnsuresFrom asks (fun _ sessions' => sessions'.All P) sessions
      (Sessions.within id action >>= f) := by
  rw [ensuresFrom_bind, ensuresFrom_within]
  refine (h.getOrCreate id hnow).mono (fun _ hq => hq) fun s hs => ?_
  exact (haction s hs).mono (fun _ hq => hq) fun value s' hs' => hf value _ (h.insert hs' _)

end Sessions

namespace Service

/-! ## Requests -/

/-- What can be asked of a service. -/
inductive Request where
  | execute (body : Json)
  | submit (body : Json)
  | interpret (body : Json)
  | upload (body : Json)
  | listUploads (id : Option String)
  | clearUploads (id : Option String)

/-- Serves a request. -/
def serve (service : Service) : Request → Serving Response
  | .execute body => execute body
  | .submit body => service.submit body
  | .interpret body => service.interpret body
  | .upload body => upload body
  | .listUploads id => listUploads id
  | .clearUploads id => clearUploads id

/-- Serves requests one after the other. -/
def serveAll (service : Service) : List Request → Serving (List Response)
  | [] => return []
  | request :: rest => do
    let response ← service.serve request
    return response :: (← service.serveAll rest)

/-! ## What a response shows -/

/-- The body of a result, with its mark. -/
def ShowsMark (m : Mode) (body : Json) : Prop :=
  ∃ mark, body.member? "isSimulated" = some (.bool mark) ∧ m.Marks mark

/-- The body of a submission, every step with its mark. -/
def ShowsMarks (m : Mode) (body : Json) : Prop :=
  ∃ steps, body.member? "steps" = some (.array steps) ∧
    ∀ step ∈ steps, ∃ result, step.member? "result" = some result ∧ ShowsMark m result

/-- A response as it is to be: a command or a line of input is refused as a bad request or carried
out, and every result that is shown has its mark. -/
def Request.Answered (m : Mode) : Request → Response → Prop
  | .execute _, r => r.status = 400 ∨ (r.status = 200 ∧ ShowsMark m r.body)
  | .submit _, r => r.status = 400 ∨ (r.status = 200 ∧ ShowsMarks m r.body)
  | _, _ => True

theorem showsMark_ofResult {result : ExecutionResult} (h : m.Marks result.isSimulated) :
    ShowsMark m (Response.ofResult result) := by
  refine ⟨result.isSimulated, ?_, h⟩
  simp [Response.ofResult, Json.ofMembers, Json.member?, Keyed.ofList, Keyed.find?_insert]

theorem showsMarks_ofSubmission {submission : Submission}
    (h : ∀ step ∈ submission.steps, m.Marks step.result.isSimulated) :
    ShowsMarks m (Response.ofSubmission submission) := by
  refine ⟨submission.steps.map Response.ofStep, ?_, ?_⟩
  · simp [Response.ofSubmission, Json.ofMembers, Json.member?, Keyed.ofList,
      Keyed.find?_insert]
  · intro _ hstep
    obtain ⟨step, hmem, rfl⟩ := List.mem_map.mp hstep
    refine ⟨Response.ofResult step.result, ?_, showsMark_ofResult (h step hmem)⟩
    simp [Response.ofStep, Json.ofMembers, Json.member?, Keyed.ofList, Keyed.find?_insert]

/-- A body that is no record is a bad request. -/
theorem status_of_decodeBody {β : Type} {shape : Json.RecordShape β} {start : β} {body : Json}
    {e : RequestError} (h : decodeBody shape start body = .error e) : e.status = 400 := by
  unfold decodeBody at h
  cases hd : Json.decodeValue (shape.decoder .value start) body with
  | ok value => rw [hd] at h; cases h
  | error error => rw [hd] at h; cases h; rfl

/-- A property of sessions that commands keep, and that does not depend on the list of uploads. -/
structure Invariant (m : Mode) (P : Session → Prop) : Prop where
  ready : ∀ {s}, P s → Ready m s
  evolves : ∀ {s s'}, P s → s.Evolves s' → P s'
  clearUploads : ∀ {s}, P s → P s.clearUploads

theorem Invariant.confined (inv : Invariant m P) {action : Action α} {good : α → Prop}
    (h : Confined m action good) (s : Session) (hs : P s) :
    EnsuresFrom m.Allows (fun value s' => P s' ∧ good value) s action :=
  EnsuresFrom.mono (h s (inv.ready hs)) (fun _ hq => hq) fun _ _ hv =>
    ⟨inv.evolves hs hv.1, hv.2⟩

/-- A request to run a command is refused for one reason alone. -/
theorem ofBody_error {body : Json} {e : RequestError} (h : ExecuteRequest.ofBody body = .error e) :
    e = .missingCommand := by
  unfold ExecuteRequest.ofBody at h
  split at h
  · cases h
    rfl
  · split at h
    · cases h
      rfl
    · cases h

theorem execute_keeps (inv : Invariant m P) (h : sessions.All P) (body : Json) :
    EnsuresFrom m.Allows
      (fun r sessions' => sessions'.All P ∧ (Request.execute body).Answered m r) sessions
      (execute body) := by
  unfold execute
  split
  · rename_i e he
    obtain rfl := ofBody_error he
    exact ensuresFrom_pure.mpr ⟨h, Or.inl rfl⟩
  · rename_i request _
    rw [ensuresFrom_bind]
    refine EnsuresFrom.mono (h.within (Mode.allows_of_not_isReal rfl)
      (inv.confined (Router.confined_tryRoute _ _))) (fun _ hq => hq) ?_
    rintro _ sessions' ⟨h', result, rfl, hmark⟩
    exact ensuresFrom_pure.mpr ⟨h', Or.inr ⟨rfl, showsMark_ofResult hmark⟩⟩

theorem submit_keeps (inv : Invariant m P) (h : sessions.All P) (service : Service)
    (body : Json) :
    EnsuresFrom m.Allows
      (fun r sessions' => sessions'.All P ∧ (Request.submit body).Answered m r) sessions
      (service.submit body) := by
  unfold submit
  split
  · rename_i e he
    exact ensuresFrom_pure.mpr ⟨h, Or.inl (status_of_decodeBody he)⟩
  · rw [ensuresFrom_bind]
    refine EnsuresFrom.mono (h.within (Mode.allows_of_not_isReal rfl)
      (inv.confined (Router.confined_submit _ _))) (fun _ hq => hq) ?_
    rintro submission sessions' ⟨h', hmarks⟩
    exact ensuresFrom_pure.mpr ⟨h', Or.inr ⟨rfl, showsMarks_ofSubmission hmarks⟩⟩

/-- What is asked of the model changes no session. -/
theorem lift_keeps {β : Type} (h : sessions.All P) {d : Dialogue α}
    (hd : d.Ensures m.Allows fun _ => True) (f : α → β) :
    EnsuresFrom m.Allows (fun _ sessions' => sessions'.All P) sessions (do
      let value ← (d : Dialogue α)
      return f value) := by
  rw [ensuresFrom_bind, ensuresFrom_lift]
  exact hd.mono (fun _ hq => hq) fun _ _ => ensuresFrom_pure.mpr h

theorem answer_keeps (h : sessions.All P) (request : InterpretRequest) :
    EnsuresFrom m.Allows (fun _ sessions' => sessions'.All P) sessions (answer request) := by
  -- All requests but the one for a hint ask the model and no session.
  have hmodel : ∀ {β γ : Type} (r : CompletionRequest) (use : String → Except ModelError β)
      (fallback : β) (f : β → γ), EnsuresFrom m.Allows (fun _ sessions' => sessions'.All P) sessions
        (do
          let value ← (Assistant.withFallback (Assistant.attempt r use) fallback : Dialogue β)
          return f value) :=
    fun r use fallback f => lift_keeps h
      (Assistant.ensures_withFallback (Assistant.ensures_attempt r use) fallback) f
  unfold answer
  split
  · split
    · exact ensuresFrom_pure.mpr h
    · exact hmodel _ _ _ _
  · exact hmodel _ _ _ _
  · exact hmodel _ _ _ _
  · exact hmodel _ _ _ _
  · exact hmodel _ _ _ _
  · exact hmodel _ _ _ _
  · refine h.within_bind (Mode.allows_of_not_isReal rfl) (fun s hs => ?_)
      fun _ _ h' => ensuresFrom_pure.mpr h'
    rw [ensuresFrom_bind, ensuresFrom_get, ensuresFrom_lift]
    exact (Assistant.ensures_withFallback (Assistant.ensures_attempt _ _) _).mono
      (fun _ hq => hq) fun _ _ => hs
  · exact ensuresFrom_pure.mpr h

theorem interpret_keeps (h : sessions.All P) (service : Service) (body : Json) :
    EnsuresFrom m.Allows (fun _ sessions' => sessions'.All P) sessions
      (service.interpret body) := by
  unfold interpret
  split
  · exact ensuresFrom_pure.mpr h
  · split
    · rw [ensuresFrom_bind]
      exact (answer_keeps h _).mono (fun _ hq => hq) fun _ _ h' => ensuresFrom_pure.mpr h'
    · exact ensuresFrom_pure.mpr h

theorem listUploads_keeps (h : sessions.All P) (id : Option String) :
    EnsuresFrom m.Allows (fun _ sessions' => sessions'.All P) sessions (listUploads id) := by
  unfold listUploads
  refine h.within_bind (Mode.allows_of_not_isReal rfl) (fun s hs => ?_)
    fun _ _ h' => ensuresFrom_pure.mpr h'
  rw [ensuresFrom_bind, ensuresFrom_get, ensuresFrom_pure]
  exact hs

theorem clearUploads_keeps (hclear : ∀ s, P s → P s.clearUploads) (h : sessions.All P)
    (id : Option String) :
    EnsuresFrom m.Allows (fun _ sessions' => sessions'.All P) sessions (clearUploads id) := by
  unfold clearUploads
  refine h.within_bind (Mode.allows_of_not_isReal rfl) (fun s hs => ?_)
    fun _ _ h' => ensuresFrom_pure.mpr h'
  rw [ensuresFrom_modify]
  exact hclear s hs

/-! ### The parts of an upload, one after the other -/

section Parts

variable {path content : String} {part : UploadPart} {rest : List UploadPart}

/-- The file that a part of an upload becomes. -/
def fileOf (part : UploadPart) (content path : String) (now : Timestamp) : Upload :=
  ⟨part.name, content, path, part.kind, now⟩

theorem storeParts_error {e : RequestError} (h : part.decode = .error e) :
    storeParts path (part :: rest) = pure (.error e) := by
  rw [storeParts, h]

theorem storeParts_empty (h : part.decode = .ok "") :
    storeParts path (part :: rest) = storeParts path rest := by
  rw [storeParts, h]
  exact if_pos rfl

theorem storeParts_file (h : part.decode = .ok content) (hne : content ≠ "") :
    storeParts path (part :: rest) = (do
      let now ← (Dialogue.now : Dialogue Timestamp)
      let s ← get
      set (s.upload (fileOf part content path now)).2
      return (← storeParts path rest).map fun others =>
        if (s.upload (fileOf part content path now)).1 then
          fileOf part content path now :: others else others) := by
  rw [storeParts, h]
  dsimp only
  rw [if_neg hne]
  rfl

/-- A text that is not empty is uploaded, and the rest after it. -/
theorem ensuresFrom_storeParts_file {post : Except RequestError (List Upload) → Session → Prop}
    {s : Session} (hnow : Dialogue.now.Ensures asks fun _ => True)
    (hdecode : part.decode = .ok content) (hne : content ≠ "")
    (h : ∀ now, EnsuresFrom asks
      (fun r s' => ∀ stored : List Upload → List Upload, post (r.map stored) s')
      (s.upload (fileOf part content path now)).2 (storeParts path rest)) :
    EnsuresFrom asks post s (storeParts path (part :: rest)) := by
  rw [storeParts_file hdecode hne, ensuresFrom_bind, ensuresFrom_lift]
  refine hnow.mono (fun _ hq => hq) fun now _ => ?_
  rw [ensuresFrom_bind, ensuresFrom_get, ensuresFrom_bind, ensuresFrom_set, ensuresFrom_bind]
  exact (h now).mono (fun _ hq => hq) fun r s' hr => ensuresFrom_pure.mpr (hr _)

end Parts

theorem storeParts_keeps (hupload : ∀ s u, P s → P (s.upload u).2) (path : String)
    (parts : List UploadPart) {s : Session} (h : P s) :
    EnsuresFrom m.Allows (fun _ s' => P s') s (storeParts path parts) := by
  induction parts generalizing s with
  | nil => exact ensuresFrom_pure.mpr h
  | cons part rest ih =>
      cases hdecode : part.decode with
      | error e =>
          rw [storeParts_error hdecode]
          exact ensuresFrom_pure.mpr h
      | ok content =>
          by_cases hempty : content = ""
          · rw [storeParts_empty (hempty ▸ hdecode)]
            exact ih h
          · refine ensuresFrom_storeParts_file ensures_now hdecode hempty fun now => ?_
            exact (ih (hupload s _ h)).mono (fun _ hq => hq) fun _ _ h' _ => h'

/-- What every single upload keeps is kept by an upload of files. -/
theorem upload_keeps (hupload : ∀ s u, P s → P (s.upload u).2) (h : sessions.All P)
    (body : Json) :
    EnsuresFrom m.Allows (fun _ sessions' => sessions'.All P) sessions (upload body) := by
  unfold upload
  split
  · exact ensuresFrom_pure.mpr h
  · split
    · exact ensuresFrom_pure.mpr h
    · refine h.within_bind (Mode.allows_of_not_isReal rfl) (fun s hs => ?_) fun r _ h' => ?_
      · rw [ensuresFrom_bind, ensuresFrom_get]
        exact storeParts_keeps hupload _ _ hs
      · split
        · exact ensuresFrom_pure.mpr h'
        · exact ensuresFrom_pure.mpr h'

/-! ## Runs -/

/-- **Every request but an upload keeps an invariant**, and its response is as it is to be. -/
theorem serve_keeps (inv : Invariant m P) (h : sessions.All P) (service : Service)
    (request : Request)
    (hupload : ∀ body, request = .upload body →
      EnsuresFrom m.Allows (fun _ sessions' => sessions'.All P) sessions (upload body)) :
    EnsuresFrom m.Allows (fun r sessions' => sessions'.All P ∧ request.Answered m r) sessions
      (service.serve request) := by
  cases request with
  | execute body => exact execute_keeps inv h body
  | submit body => exact submit_keeps inv h service body
  | interpret body =>
      exact (interpret_keeps h service body).mono (fun _ hq => hq) fun _ _ h' => ⟨h', trivial⟩
  | upload body =>
      exact (hupload body rfl).mono (fun _ hq => hq) fun _ _ h' => ⟨h', trivial⟩
  | listUploads id =>
      exact (listUploads_keeps h id).mono (fun _ hq => hq) fun _ _ h' => ⟨h', trivial⟩
  | clearUploads id =>
      have hclear : ∀ s, P s → P s.clearUploads := fun _ hs => inv.clearUploads hs
      exact (clearUploads_keeps hclear h id).mono (fun _ hq => hq) fun _ _ h' => ⟨h', trivial⟩

end Service

end PlainTerminal
