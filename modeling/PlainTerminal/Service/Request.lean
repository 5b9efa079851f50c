import PlainTerminal.Base64
import PlainTerminal.Json.Decode
import PlainTerminal.Text.Blank
import PlainTerminal.Text.Utf8

/-!
# Requests to the service

The bodies of requests. A command is taken from its fields one by one; the other bodies are records
that are decoded as a whole, so a body with a wrong field is refused with the reason.
-/

namespace PlainTerminal

/-- Why a request is refused. -/
inductive RequestError where
  /-- There is no command, or a blank one. -/
  | missingCommand
  | invalidBody (error : Json.DecodeError)
  | invalidAction
  | noFiles
  | invalidContent (name : String) (error : Base64.DecodeError)
  /-- The language model has no key. -/
  | missingKey

namespace RequestError

/-- The wording of a refusal. -/
def message : RequestError → String
  | missingCommand => "Command is required and must be a string"
  | invalidBody error => "Invalid request body: " ++ error.message
  | invalidAction => "Invalid action"
  | noFiles => "No files provided"
  | invalidContent name error =>
    "Invalid base64 content for " ++ name ++ ": " ++ error.message
  | missingKey =>
    "OpenAI API key is not configured. Please add OPENAI_API_KEY to your .env.local file."

/-- The status of a refusal: the request is at fault, or the configuration. -/
def status : RequestError → Nat
  | missingKey => 500
  | _ => 400

end RequestError

/-- A request to run a command. -/
structure ExecuteRequest where
  command : String
  workingDirectory : Option String
  sessionId : Option String
deriving DecidableEq, Repr

/-- The text of a field of a body, if it has one. -/
def Json.textField? (body : Json) (name : String) : Option String :=
  (body.member? name).bind Json.text?

/-- Reads a request to run a command. -/
def ExecuteRequest.ofBody (body : Json) : Except RequestError ExecuteRequest :=
  match body.textField? "command" with
  | none => .error .missingCommand
  | some command =>
    if Text.isBlankText command then .error .missingCommand
    else .ok ⟨command, body.textField? "workingDirectory", body.textField? "sessionId"⟩

/-- Reads a body as a record. -/
def decodeBody {α : Type} (shape : Json.RecordShape α) (start : α) (body : Json) :
    Except RequestError α :=
  (Json.decodeValue (shape.decoder .value start) body).mapError .invalidBody

/-- A line of input. -/
structure SubmitRequest where
  input : String := ""
  sessionId : Option String := none

/-- A line of input as a JSON record. -/
def SubmitRequest.shape : Json.RecordShape SubmitRequest where
  name := "SubmitRequest"
  fields := [
    .mandatory "input" .string fun r v => { r with input := v },
    .optional "sessionId" (.optional .string) fun r v => { r with sessionId := v }]

/-- A request to the assistant. -/
structure InterpretRequest where
  action : String := ""
  input : String := ""
  context : Option Json := none
  sessionId : Option String := none

/-- A request to the assistant as a JSON record. -/
def InterpretRequest.shape : Json.RecordShape InterpretRequest where
  name := "InterpretRequest"
  fields := [
    .mandatory "action" .string fun r v => { r with action := v },
    .optional "input" .string fun r v => { r with input := v },
    .optional "context" (.optional .any) fun r v => { r with context := v },
    .optional "sessionId" (.optional .string) fun r v => { r with sessionId := v }]

/-- One file of an upload. -/
structure UploadPart where
  name : String := ""
  content : String := ""
  kind : String := ""
  encoding : Option String := none

namespace UploadPart

/-- One file of an upload as a JSON record. -/
def shape : Json.RecordShape UploadPart where
  name := "UploadPart"
  fields := [
    .optional "name" .string fun r v => { r with name := v },
    .optional "content" .string fun r v => { r with content := v },
    .optional "type" .string fun r v => { r with kind := v },
    .optional "encoding" (.optional .string) fun r v => { r with encoding := v }]

/-- The text of a file: its content as it stands, or what its content stands for in base64. -/
def decode (part : UploadPart) : Except RequestError String :=
  if part.encoding = some "base64" then
    match Base64.decode (Text.trim part.content).toUTF8.toList with
    | .ok bytes => .ok (Text.Utf8.decodeLossy bytes)
    | .error e => .error (.invalidContent part.name e)
  else .ok part.content

end UploadPart

/-- An upload of files. -/
structure UploadRequest where
  files : List UploadPart := []
  path : Option String := none
  sessionId : Option String := none

/-- An upload as a JSON record. -/
def UploadRequest.shape : Json.RecordShape UploadRequest where
  name := "UploadRequest"
  fields := [
    .optional "files" (.list (UploadPart.shape.decoder .value {})) fun r v =>
      { r with files := v },
    .optional "path" (.optional .string) fun r v => { r with path := v },
    .optional "sessionId" (.optional .string) fun r v => { r with sessionId := v }]

end PlainTerminal
