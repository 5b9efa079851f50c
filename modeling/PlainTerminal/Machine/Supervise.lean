import PlainTerminal.Dialogue
import PlainTerminal.Machine.Kernel
import PlainTerminal.Shell.Evaluation

/-!
# Running a command of the real shell

A shell is started for the command in a group of its own, with nothing to read and with both streams
captured. Every ten milliseconds somebody looks whether it has ended, has printed more than the limit
allows, or has run out of time; in the last two cases the whole group is killed. Tasks that got away
may still hold the streams, so those are waited for only for a while.

The machine, the shell on it and its programs stand in for the real ones where the terminal is run:
`Main` answers the questions of the terminal from them. Nothing that is proved of the terminal rests
on how they behave. There the questions may be answered in any way.
-/

namespace PlainTerminal

/-- The machine as it is between two commands: its files, and the variables that a shell starts
with. -/
structure Host where
  files : Files
  environment : Keyed String

namespace Machine

/-- The number of the shell. -/
def shellNumber : Nat := 1000

/-- A machine on which an activity is about to start, in a directory and with captured streams. -/
def boot (files : Files) (directory : String) (limit : Nat) (a : Activity) : Machine :=
  let m : Machine :=
    { files, stdout := .start limit, stderr := .start limit, nextNumber := shellNumber + 1 }
  let (input, m) := m.withFile { channel := .device .null, mode := .read }
  let (output, m) := m.withFile { channel := .output .stdout, mode := .write }
  let (errors, m) := m.withFile { channel := .output .stderr, mode := .write }
  m.withTask
    { number := shellNumber, parent := 0, group := shellNumber, directory
      descriptors := [(0, input), (1, output), (2, errors)], state := .running a }

/-- How the shell ended, if it did. -/
def ending? (m : Machine) : Option Ending :=
  match (m.task? shellNumber).map Task.state with
  | some (.ended how) => some how
  | _ => none

/-- One of the streams went beyond its limit. -/
def isOverfull (m : Machine) : Bool := m.stdout.isOverfull || m.stderr.isOverfull

/-- What made the watching end. -/
inductive Verdict where
  | exited (code : Nat)
  | timedOut
  | overfull
deriving DecidableEq, Repr

/-- The time between two looks, in microseconds. -/
def lookInterval : Nat := 10000

/-- Looks at the machine from time to time, at most so many times, until there is a verdict. -/
def watch (deadline : Nat) : Nat → Machine → Verdict × Machine
  | 0, m => (.timedOut, m)
  | looks + 1, m =>
    match m.ending? with
    | some (.exited code) => (.exited code, m)
    | some (.killed _) => (.exited 1, m)
    | none =>
      if m.isOverfull then (.overfull, m)
      else if deadline ≤ m.clock then (.timedOut, m)
      else watch deadline looks (m.runUntil (m.clock + lookInterval))

/-- Some task can still write to a stream, and somebody reads it. -/
def isOpen (m : Machine) (s : Stream) : Bool :=
  let c := match s with
    | .stdout => m.stdout
    | .stderr => m.stderr
  !c.isOverfull && m.isHeld (.output s)

/-- Waits until a stream is closed, in so many steps of five milliseconds at most. -/
def settle (s : Stream) : Nat → Machine → Machine
  | 0, m => m
  | steps + 1, m => if m.isOpen s then settle s steps (m.runUntil (m.clock + 5000)) else m

/-- Runs an activity within limits, and comes to its outcome and the files it leaves. -/
def supervise (files : Files) (directory : String) (limits : Limits) (a : Activity) :
    CommandResult × Files :=
  let deadline := limits.timeoutMs * 1000
  let (verdict, m) := (boot files directory limits.maxOutputBytes a).watch deadline
    (deadline / lookInterval + 2)
  let (m, steps) := match verdict with
    | .exited _ => (m, 200)
    | _ => (m.deliverGroup shellNumber Signal.kill, 20)
  let m := m.settle .stdout steps
  let stdout := m.stdout.text
  let m := m.settle .stderr steps
  let stderr := m.stderr.text
  let overfull : CommandResult :=
    { CommandResult.failure "stdout maxBuffer length exceeded" 1 with stdout }
  let result : CommandResult := match verdict with
    | .exited code =>
      if m.isOverfull then overfull
      else { stdout, stderr, exitCode := code, success := code = 0 }
    | .timedOut =>
      { CommandResult.failure ("Command timed out after " ++ toString limits.timeoutMs ++ "ms")
          CommandResult.timeoutCode with stdout }
    | .overfull => overfull
  (result, m.files)

end Machine

namespace Host

/-- A machine on which nobody has done anything yet, with the variables that a shell starts with. -/
def usual (environment : List (String × String)) : Host :=
  ⟨Shell.Builtin.programs.foldl Files.withProgram Files.usual,
    Keyed.ofList (("PATH", "/usr/local/bin:/usr/bin:/bin") :: environment)⟩

/-- The longest command that a shell can be started with, in bytes. -/
def longestCommand : Nat := 131071

/-- Runs a command. It cannot be started when its text is none that a program can be given, or when
its directory is not there. -/
def run (h : Host) (c : ShellCall) : CommandResult × Host :=
  if c.command.toList.contains '\x00' || c.directory.toList.contains '\x00' then
    (.failure "nul byte found in provided data" 1, h)
  else
    match h.files.look "/" c.directory with
    | .error fault => (.failure fault.report 1, h)
    | .ok (place, .directory) =>
      if longestCommand < c.command.utf8ByteSize then
        (.failure "Argument list too long (os error 7)" 1, h)
      else
        let (result, files) := Machine.supervise h.files place c.limits
          (Shell.activityOf c.command h.environment)
        (result, { h with files })
    | .ok _ => (.failure Fault.notDirectory.report 1, h)

/-- There is a directory at a path. -/
def isDirectory (h : Host) (path : String) : Bool := h.files.leadsToDirectory path

/-- The names in the directory at a path. -/
def listDirectory (h : Host) (path : String) : List String :=
  match h.files.look "/" path with
  | .ok (place, .directory) => h.files.children place
  | _ => []

end Host

end PlainTerminal
