import PlainTerminal.Config
import PlainTerminal.Model.Request

/-!
# A language model behind a web service

A request to the model becomes one HTTP request with a JSON body; the text is taken from the first
choice of the answer. Who sends the request is left open: `complete` works with any way of posting.
-/

namespace PlainTerminal

/-- A request to a web service. -/
structure HttpRequest where
  url : String
  authorization : String
  contentType : String
  body : String
deriving DecidableEq, Repr

/-- The answer of a web service. -/
structure HttpResponse where
  status : Nat
  body : String
deriving DecidableEq, Repr

/-- A client of a model: its key, the address of the service, and the name of the model. -/
structure ChatClient where
  apiKey : Option String
  apiBase : String
  model : String
deriving DecidableEq, Repr

namespace ChatClient

/-- The client that a configuration describes. -/
def ofConfig (c : Config) : ChatClient := ⟨c.apiKey, Path.withoutEndSlashes c.apiBase, c.model⟩

/-- The client has a key. -/
def isConfigured (c : ChatClient) : Bool := c.apiKey.isSome

/-- A message of a conversation. -/
def message (role content : String) : Json :=
  .ofMembers [("role", .string role), ("content", .string content)]

/-- The body of a request. -/
def body (c : ChatClient) (r : CompletionRequest) : Json :=
  .ofMembers ([
    ("model", .string c.model),
    ("messages", .array [message "system" r.system, message "user" r.prompt]),
    ("temperature", .float r.temperature.toFloat),
    ("max_tokens", .nat r.maxTokens)] ++
    if r.wantsObject then
      [("response_format", .ofMembers [("type", .string "json_object")])]
    else [])

/-- The HTTP request for a request to the model. -/
def httpRequest (c : ChatClient) (key : String) (r : CompletionRequest) : HttpRequest where
  url := c.apiBase ++ "/chat/completions"
  authorization := "Bearer " ++ key
  contentType := "application/json"
  body := (c.body r).text

/-- A message in an answer. -/
structure AnswerMessage where
  content : Option String := none

/-- A message as a JSON record. -/
def AnswerMessage.shape : Json.RecordShape AnswerMessage where
  name := "ChatMessage"
  fields := [.placed "content" (.optional .string) fun r v => { r with content := v }]

/-- A choice in an answer. -/
structure AnswerChoice where
  message : AnswerMessage := {}

/-- A choice as a JSON record. -/
def AnswerChoice.shape : Json.RecordShape AnswerChoice where
  name := "ChatChoice"
  fields := [
    .mandatory "message" (AnswerMessage.shape.decoder .text {}) fun r v => { r with message := v }]

/-- An answer. -/
structure Answer where
  choices : List AnswerChoice := []

/-- An answer as a JSON record. -/
def Answer.shape : Json.RecordShape Answer where
  name := "ChatResponse"
  fields := [
    .mandatory "choices" (.list (AnswerChoice.shape.decoder .text {})) fun r v =>
      { r with choices := v }]

/-- The text of the first choice, if it says anything. -/
def Answer.content? (a : Answer) : Option String :=
  (a.choices.head?.bind fun c => c.message.content).filter fun text => !Text.isBlankText text

/-- Reads the body of an answer. -/
def readAnswer (body : String) : Except ModelError String :=
  match Json.decodeText (Answer.shape.decoder .text {}) body with
  | .error e => .error (.malformed (.undecodable e))
  | .ok answer =>
    match answer.content? with
    | some text => .ok text
    | none => .error (.malformed .noContent)

/-- What an exchange with the service comes to. -/
def readExchange (exchange : Except String HttpResponse) : Except ModelError String :=
  match exchange with
  | .error reason => .error (.transport reason)
  | .ok response =>
    if 200 ≤ response.status ∧ response.status < 300 then readAnswer response.body
    else .error (.status response.status)

/-- Sends a request to the model. -/
def complete {m : Type → Type} [Monad m] (c : ChatClient)
    (post : HttpRequest → m (Except String HttpResponse)) (r : CompletionRequest) :
    m (Except ModelError String) :=
  match c.apiKey with
  | none => pure (.error .missingCredential)
  | some key => readExchange <$> post (c.httpRequest key r)

end ChatClient

end PlainTerminal
