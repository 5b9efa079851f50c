import PlainTerminal.Json.Decode

/-!
# Talking to a language model

A request to a language model, and the ways in which it can stay without a usable answer. Some of
them may pass when the request is repeated, others will not.
-/

namespace PlainTerminal

/-- A request to a language model. -/
structure CompletionRequest where
  system : String
  prompt : String
  temperature : Float32 := 0.2
  maxTokens : Nat := 500
  /-- The answer has to be a JSON object. -/
  wantsObject : Bool := false

/-- What is wrong with an answer. -/
inductive ReplyFault where
  | noObject
  | noSuggestions
  | noContent
  | undecodable (error : Json.DecodeError)
  /-- A fault that the model's side reports in its own words. -/
  | reported (text : String)

/-- The wording of a fault. -/
def ReplyFault.message : ReplyFault → String
  | noObject => "no JSON object in reply"
  | noSuggestions => "no suggestions"
  | noContent => "no completion content"
  | undecodable error => error.message
  | reported text => text

/-- Why a request has no usable answer. -/
inductive ModelError where
  | missingCredential
  | transport (reason : String)
  | status (code : Nat)
  | malformed (fault : ReplyFault)

namespace ModelError

/-- The wording of an error. -/
def message : ModelError → String
  | missingCredential => "language model API key is not configured"
  | transport reason => "transport failure: " ++ reason
  | status code => "model service answered with status " ++ toString code
  | malformed fault => "malformed model response: " ++ fault.message

/-- A second attempt may succeed. -/
def isRetryable : ModelError → Bool
  | missingCredential => false
  | transport _ => true
  | status code => code == 429 || 500 ≤ code
  | malformed _ => true

end ModelError

end PlainTerminal
