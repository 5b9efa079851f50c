import PlainTerminal.CommandLine
import PlainTerminal.Machine.Supervise
import PlainTerminal.Model.ChatClient
import Std.Time.DateTime.Timestamp

/-!
# The program

Talks with a user line by line. The real shell runs on a machine that is kept in memory, and there is
no way to a web service, so that plain English is taken as it is typed.
-/

namespace PlainTerminal.Main

/-- What the questions of the terminal are answered from. -/
structure Outside where
  host : Host
  client : ChatClient
  now : Timestamp
  luck : Nat

/-- There is no way to a web service. -/
def post (_ : HttpRequest) : Id (Except String HttpResponse) := .error "no connection"

/-- Answers a question. -/
def answer (q : Question) (o : Outside) : q.Answer × Outside :=
  match q with
  | .runCommand call =>
    let (result, host) := o.host.run call
    (result, { o with host })
  | .isDirectory path => (o.host.isDirectory path, o)
  | .listDirectory path => (o.host.listDirectory path, o)
  | .complete request => ((o.client.complete post request).run, o)
  | .now => (o.now, o)
  | .pick last => (Fin.ofNat (last + 1) o.luck, { o with luck := o.luck / (last + 1) })

/-- The variables that matter. -/
def variableNames : List String :=
  ["HOME", "OPENAI_API_KEY", "OPENAI_BASE_URL", "VIBE_MODEL", "VIBE_HOME", "VIBE_TIMEOUT_MS",
    "VIBE_MAX_OUTPUT", "VIBE_MODE", "VERCEL", "VERCEL_ENV", "NODE_ENV"]

/-- The variables of the process. -/
def readVariables : IO (List (String × String)) := do
  let values ← variableNames.mapM fun name => do return (name, ← IO.getEnv name)
  return values.filterMap fun (name, value) => value.map fun value => (name, value)

/-- The time, and some luck. -/
def refresh (o : Outside) : IO Outside := do
  let now ← Std.Time.Timestamp.now
  return { o with now := ⟨now.toSecondsSinceUnixEpoch.val⟩, luck := ← IO.rand 0 1000000000 }

/-- Prints on both streams. -/
def print (output : CommandLine.Output) : IO Unit := do
  (← IO.getStdout).putStr output.stdout
  (← IO.getStdout).flush
  (← IO.getStderr).putStr output.stderr

/-- Prompts, reads and answers until the input ends or the user leaves. -/
partial def converse (router : Router) (s : Session) (o : Outside) : IO UInt32 := do
  print (CommandLine.promptOf s)
  match ← (do return some (← (← IO.getStdin).getLine) : IO (Option String)).catchExceptions
      fun _ => return none with
  | none =>
    print CommandLine.notText
    return 1
  | some "" =>
    print (CommandLine.line "")
    return 0
  | some line =>
    let o ← refresh o
    let ((output, s), o) := ((CommandLine.respond router line).run s).run answer o
    match output with
    | none => return 0
    | some output =>
      print output
      converse router s o

end PlainTerminal.Main

open PlainTerminal PlainTerminal.Main in
/-- Greets the user and talks. -/
def main : IO UInt32 := do
  let given ← readVariables
  let env : Variables := fun name => given.lookup name
  let config := Config.ofVariables env
  let o ← refresh
    { host := .usual given, client := .ofConfig config, now := ⟨0⟩, luck := 0 : Outside }
  let (router, session) := CommandLine.start config env ⟨"/", env "HOME"⟩ o.now
  print { stdout := Texts.banner }
  converse router session o
