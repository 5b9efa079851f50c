import PlainTerminal.Router
import PlainTerminal.Service.Response
import PlainTerminal.Sessions

/-!
# The service

The terminal for many users: each request names a session, and a session is there once a request has
named it. A request that is refused is answered with the reason.
-/

namespace PlainTerminal

/-- How a service is set up: its router, and whether its language model has a key. -/
structure Service where
  router : Router
  modelConfigured : Bool

/-- Something that happens in a service. -/
abbrev Serving (α : Type) := StateT Sessions Dialogue α

namespace Service

/-- Runs a command. -/
def execute (body : Json) : Serving Response := do
  match ExecuteRequest.ofBody body with
  | .error e => return .refusal e
  | .ok request =>
    match ← Sessions.within request.sessionId
        (Router.tryRoute request.command request.workingDirectory) with
    | .ok result => return .ok (Response.ofResult result)
    | .error result => return .internal result

/-- Takes a line of input. -/
def submit (service : Service) (body : Json) : Serving Response := do
  match decodeBody SubmitRequest.shape {} body with
  | .error e => return .refusal e
  | .ok request =>
    let submission ← Sessions.within request.sessionId (service.router.submit request.input)
    return .ok (Response.ofSubmission submission)

/-- The context that a request to interpret gives, if it gives one that is an object. -/
def contextOf (request : InterpretRequest) : Except RequestError (Option InterpretContext) :=
  match request.context with
  | some (.object members) =>
    (decodeBody InterpretContext.shape {} (.object members)).map some
  | _ => .ok none

/-- The situation that suggestions are asked for: the input, or without one a context that is a
text. -/
def situationOf (request : InterpretRequest) : String :=
  match request.context with
  | some (.string s) => if request.input = "" then s else request.input
  | _ => request.input

/-- The answer of the assistant to a request. -/
def answer (request : InterpretRequest) : Serving (Except RequestError Json) := do
  match request.action with
  | "interpret" =>
    match contextOf request with
    | .error e => return .error e
    | .ok context =>
      let i ← (Assistant.interpretOr request.input context .unavailable : Dialogue _)
      return .ok (Response.ofInterpretation i)
  | "explain" =>
    let explanation ← (Assistant.explain request.input : Dialogue _)
    return .ok (.ofMembers [("explanation", .string explanation)])
  | "suggest" =>
    let suggestions ← (Assistant.suggest (situationOf request) : Dialogue _)
    return .ok (.ofMembers [("suggestions", .ofTexts suggestions)])
  | "test" =>
    let (online, message) ← (Assistant.test : Dialogue _)
    return .ok (.ofMembers [
      ("status", .string (if online then "success" else "error")), ("message", .string message)])
  | "hack_challenge_intro" =>
    let introduction ← (Assistant.challengeIntro : Dialogue _)
    return .ok (.ofMembers [("intro", .string introduction)])
  | "hack_readme" =>
    let readme ← (Assistant.challengeReadme : Dialogue _)
    return .ok (.ofMembers [("readme", .string readme)])
  | "hack_hint" =>
    let hint ← Sessions.within request.sessionId do
      (Assistant.challengeHint (← get).progress : Dialogue _)
    return .ok (.ofMembers [("hint", .string hint)])
  | _ => return .error .invalidAction

/-- Asks the assistant. -/
def interpret (service : Service) (body : Json) : Serving Response := do
  match decodeBody InterpretRequest.shape {} body with
  | .error e => return .refusal e
  | .ok request =>
    if service.modelConfigured then return .ofExcept (← answer request)
    else return .refusal .missingKey

/-- Takes the files of an upload in, one after the other, up to the first one whose content cannot
be read; the files that were stored. -/
def storeParts (path : String) : List UploadPart → Action (Except RequestError (List Upload))
  | [] => return .ok []
  | part :: rest => do
    match part.decode with
    | .error e => return .error e
    | .ok content =>
      if content = "" then storeParts path rest
      else
        let now ← (Dialogue.now : Dialogue _)
        let u : Upload := ⟨part.name, content, path, part.kind, now⟩
        let (stored, s) := (← get).upload u
        set s
        return (← storeParts path rest).map fun others => if stored then u :: others else others

/-- The directory that an upload goes to: the one it names, else the home directory. -/
def uploadPath (request : UploadRequest) (s : Session) : String :=
  (request.path.filter fun p => !Text.isBlankText p).getD s.home

/-- Takes an upload in. -/
def upload (body : Json) : Serving Response := do
  match decodeBody UploadRequest.shape {} body with
  | .error e => return .refusal e
  | .ok request =>
    if request.files.isEmpty then return .refusal .noFiles
    else
      match ← Sessions.within request.sessionId do
          storeParts (uploadPath request (← get)) request.files with
      | .error e => return .refusal e
      | .ok stored =>
        return .ok (.ofMembers [
          ("success", .bool true),
          ("message", .string ("Uploaded " ++ toString stored.length ++ " file(s)")),
          ("files", .array (stored.map Response.ofStoredUpload))])

/-- Lists the uploads of a session. -/
def listUploads (id : Option String) : Serving Response := do
  let uploads ← Sessions.within id do return (← get).store.uploadedFiles
  return .ok (.ofMembers [("files", .array (uploads.map Response.ofListedUpload))])

/-- Forgets the uploads of a session. -/
def clearUploads (id : Option String) : Serving Response := do
  Sessions.within id (modify Session.clearUploads)
  return .ok (.ofMembers [
    ("success", .bool true), ("message", .string "All uploaded files cleared")])

end Service

end PlainTerminal
