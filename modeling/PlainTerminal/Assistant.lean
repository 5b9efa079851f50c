import PlainTerminal.Challenge.Story
import PlainTerminal.Dialogue
import PlainTerminal.Likeness.Repair
import PlainTerminal.Model.Interpretation
import PlainTerminal.Model.Prompts
import PlainTerminal.Model.Suggestions

/-!
# The assistant

Everything the terminal asks of the language model. Each action sends one request; if that fails in
a way that may pass, it sends the same request once more; and if there is still no usable answer, it
falls back to a fixed one. So an action always has an outcome.
-/

namespace PlainTerminal.Assistant

/-- Makes an attempt, a second one if the first failed in a way that may pass, and settles for the
fallback when neither succeeds. -/
def withFallback {α : Type} (attempt : Dialogue (Except ModelError α)) (fallback : α) : Dialogue α := do
  match ← attempt with
  | .ok value => return value
  | .error first =>
    if !first.isRetryable then return fallback
    match ← attempt with
    | .ok value => return value
    | .error _ => return fallback

/-- A request and what is made of its answer. -/
def attempt {α : Type} (request : CompletionRequest) (use : String → Except ModelError α) :
    Dialogue (Except ModelError α) := do
  match ← Dialogue.complete request with
  | .ok reply => return use reply
  | .error e => return .error e

/-- A request that is answered by a text, blanks around it aside. -/
def generate (request : CompletionRequest) : Dialogue (Except ModelError String) :=
  attempt request fun reply => .ok (Text.trim reply)

/-- The request to interpret an input. -/
def interpretRequest (input : String) (context : Option InterpretContext) : CompletionRequest :=
  { system := Prompts.interpret
    prompt := Prompts.interpretRequest input (context.map InterpretContext.text)
    maxTokens := 1000
    wantsObject := true }

/-- An interpretation whose file names are put right. -/
def repaired (context : Option InterpretContext) (i : Interpretation) : Interpretation :=
  match context with
  | none => i
  | some c =>
    { i with commands := i.commands.map fun command => Likeness.repair command c.directoryContents }

/-- One attempt to interpret an input. -/
def tryInterpret (input : String) (context : Option InterpretContext) :
    Dialogue (Except ModelError Interpretation) :=
  attempt (interpretRequest input context) fun reply =>
    (Interpretation.parse reply).map (repaired context)

/-- Interprets an input, with a fallback of one's own. -/
def interpretOr (input : String) (context : Option InterpretContext) (fallback : Interpretation) :
    Dialogue Interpretation :=
  withFallback (tryInterpret input context) fallback

/-- Interprets an input; with no help from the model it runs as it was typed. -/
def interpret (input : String) (context : Option InterpretContext) : Dialogue Interpretation :=
  interpretOr input context (.direct input)

/-- The explanation given when the model gives none. -/
def explainFallback : String :=
  "I couldn't explain that command right now. Try searching online or using 'man <command>' in " ++
    "your terminal."

/-- Explains a command. -/
def explain (command : String) : Dialogue String :=
  withFallback
    (generate
      { system := Prompts.explain
        prompt := "Explain this terminal command: \"" ++ command ++ "\"" })
    explainFallback

/-- Suggests commands for a situation. -/
def suggest (situation : String) : Dialogue (List String) :=
  withFallback
    (attempt
      { system := Prompts.suggest
        prompt := "Based on this context, suggest useful terminal commands: \"" ++ situation ++
          "\""
        temperature := 0.3
        maxTokens := 200 }
      fun reply =>
        match Suggestions.ofText (Text.trim reply) with
        | [] => .error (.malformed .noSuggestions)
        | suggestions => .ok suggestions)
    Suggestions.defaults

/-- What is shown when the model cannot be reached. -/
def offlineMessage : String := "Berto is offline. Check your OpenAI API key configuration."

/-- Tries the connection: whether the model answers, and what. -/
def test : Dialogue (Bool × String) :=
  withFallback
    (attempt { system := Prompts.test, prompt := "Test the connection", maxTokens := 50 }
      fun reply => .ok (true, Text.trim reply))
    (false, offlineMessage)

/-- The opening of the challenge. -/
def challengeIntro : Dialogue String :=
  withFallback
    (generate
      { system := Prompts.challengeIntro
        prompt := "Write the intro."
        temperature := 0.8
        maxTokens := 200 })
    Challenge.fallbackIntro

/-- The instructions of the challenge. -/
def challengeReadme : Dialogue String :=
  withFallback
    (generate
      { system := Prompts.challengeReadme
        prompt := "Write the README."
        temperature := 0.7
        maxTokens := 600 })
    Challenge.instructions

/-- A hint for a player. -/
def challengeHint (progress : Challenge.Progress) : Dialogue String :=
  withFallback
    (generate
      { system := Prompts.challengeHint
        prompt := "Current objective: " ++ progress.objective ++ "\nCodes found: " ++
          toString progress.found.length
        temperature := 0.7
        maxTokens := 120 })
    progress.fallbackHint

end PlainTerminal.Assistant
