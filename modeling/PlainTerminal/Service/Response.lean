import PlainTerminal.Router.Result
import PlainTerminal.Service.Request
import PlainTerminal.Store

/-!
# Responses of the service

A response is a status and a JSON body. Results become bodies field by field.
-/

namespace PlainTerminal

/-- A status and a body. -/
structure Response where
  status : Nat
  body : Json

namespace Response

/-- The body of a result. -/
def ofResult (r : ExecutionResult) : Json :=
  .ofMembers [
    ("stdout", .string r.result.stdout),
    ("stderr", .string r.result.stderr),
    ("exitCode", .int r.result.exitCode),
    ("success", .bool r.result.success),
    ("currentWorkingDirectory", .string r.currentDirectory),
    ("isSimulated", .bool r.isSimulated)]

/-- The body of an interpretation. -/
def ofInterpretation (i : Interpretation) : Json :=
  .ofMembers [
    ("commands", .ofTexts i.commands),
    ("explanation", .string i.explanation),
    ("confidence", .float i.confidence),
    ("isComplex", .bool i.isComplex)]

/-- The body of a step. -/
def ofStep (s : Step) : Json :=
  .ofMembers [("command", .string s.command), ("result", ofResult s.result)]

/-- The body of a submission. -/
def ofSubmission (s : Submission) : Json :=
  .ofMembers [
    ("interpretation", (s.interpretation.map ofInterpretation).getD .null),
    ("steps", .array (s.steps.map ofStep))]

/-- The body of an upload that was taken in. -/
def ofStoredUpload (u : Upload) : Json :=
  .ofMembers [("name", .string u.name), ("size", .nat u.size), ("path", .string u.path)]

/-- The body of an upload in a list. -/
def ofListedUpload (u : Upload) : Json :=
  .ofMembers [
    ("name", .string u.name), ("path", .string u.path), ("size", .nat u.size),
    ("type", .string u.kind)]

/-- A response to a request that was carried out. -/
def ok (body : Json) : Response := ⟨200, body⟩

/-- A response that refuses a request. -/
def refusal (e : RequestError) : Response :=
  ⟨e.status, .ofMembers [("error", .string e.message)]⟩

/-- A response to a request that met something wrong inside the terminal: the result, and its
message once more. -/
def internal (r : ExecutionResult) : Response :=
  let body := match ofResult r with
    | .object members => .object (Keyed.insert members "error" (.string r.result.stderr))
    | body => body
  ⟨500, body⟩

/-- The response to a request that was carried out or refused. -/
def ofExcept (r : Except RequestError Json) : Response :=
  match r with
  | .ok body => ok body
  | .error e => refusal e

/-- The request was carried out. -/
def isSuccess (r : Response) : Bool := 200 ≤ r.status && r.status < 300

end Response

end PlainTerminal
