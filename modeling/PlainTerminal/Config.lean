import PlainTerminal.Environment
import PlainTerminal.Json.Decode
import PlainTerminal.Path

/-!
# Configuration

The settings of the terminal, from the variables of a process or from a JSON text. A variable that
is not set, or not readable as what it should be, leaves its setting as it is; a JSON text with a
wrong setting is refused.
-/

namespace PlainTerminal

/-- The settings of the terminal. -/
structure Config where
  apiKey : Option String := none
  apiBase : String := "https://api.openai.com/v1"
  model : String := "gpt-4.1-2025-04-14"
  homeDirectory : String := "/home/user"
  commandTimeoutMs : Nat := 30000
  maxOutputBytes : Nat := 1048576
  recentCommands : Nat := 5
  mode : Option Mode := none

namespace Config

/-- The largest number that a numeric setting can have. -/
def maxNumber : Nat := UInt64.size - 1

/-- A number as settings write it: digits, with a plus sign or without. -/
def parseNumber? (text : String) : Option Nat :=
  let digits := match text.toList with
    | '+' :: rest => rest
    | s => s
  if digits ≠ [] ∧ digits.all Char.isDigit = true then
    let n := Json.Numeral.digitsValue digits
    if n ≤ maxNumber then some n else none
  else none

/-- The settings that the variables of a process make. -/
def ofVariables (env : Variables) : Config :=
  let base : Config := {}
  { apiKey := (env "OPENAI_API_KEY").filter fun k => !Text.isBlankText k
    apiBase := ((env "OPENAI_BASE_URL").map Path.withoutEndSlashes).getD base.apiBase
    model := (env "VIBE_MODEL").getD base.model
    homeDirectory := (env "VIBE_HOME").getD base.homeDirectory
    commandTimeoutMs :=
      ((env "VIBE_TIMEOUT_MS").bind parseNumber?).getD base.commandTimeoutMs
    maxOutputBytes := ((env "VIBE_MAX_OUTPUT").bind parseNumber?).getD base.maxOutputBytes
    recentCommands := base.recentCommands
    mode := (env "VIBE_MODE").bind Mode.ofSetting? }

/-- The settings as a JSON record. -/
def shape : Json.RecordShape Config where
  name := "Config"
  fields := [
    .optional "apiKey" (.optional .string) fun c v => { c with apiKey := v },
    .optional "apiBase" .string fun c v => { c with apiBase := v },
    .optional "model" .string fun c v => { c with model := v },
    .optional "homeDir" .string fun c v => { c with homeDirectory := v },
    .optional "commandTimeoutMs" (.natural "u64") fun c v => { c with commandTimeoutMs := v },
    .optional "maxOutputBytes" (.natural "usize") fun c v => { c with maxOutputBytes := v },
    .optional "recentCommands" (.natural "usize") fun c v => { c with recentCommands := v },
    .optional "mode"
      (.optional (.oneOf [("local", Mode.localMachine), ("remote", Mode.remoteDemo)]))
      fun c v => { c with mode := v }]

/-- The settings that a JSON text makes; a blank text leaves all of them as they are. -/
def ofText (text : String) : Except Json.DecodeError Config :=
  if Text.isBlankText text then .ok {}
  else Json.decodeText (shape.decoder .text {}) text

end Config

end PlainTerminal
