import PlainTerminal.Calendar
import PlainTerminal.Machine.Files

/-!
# What a task does

A task on the machine computes for itself and now and then calls the machine: to read or write, to
wait, to look at files, to start another task. An `Activity` is such a task as a value: it ends, or
makes one call and goes on with the answer, or starts another activity beside itself. What lies
between two calls takes no steps of the machine, so endless loops have to call `work`.

A `Routine` is a part of an activity that comes to a value, and can be put together with others.
-/

namespace PlainTerminal

/-- Numbers of signals. -/
abbrev Signal := Nat

namespace Signal

/-- Ends a task that cannot prevent it. -/
def kill : Signal := 9

/-- Ends a task that writes what nobody can read. -/
def brokenPipe : Signal := 13

/-- Asks a task to end. -/
def terminate : Signal := 15

/-- The names of the signals, without the `SIG` in front. -/
def names : List (Signal × String) :=
  [(1, "HUP"), (2, "INT"), (3, "QUIT"), (4, "ILL"), (5, "TRAP"), (6, "ABRT"), (7, "BUS"),
    (8, "FPE"), (9, "KILL"), (10, "USR1"), (11, "SEGV"), (12, "USR2"), (13, "PIPE"), (14, "ALRM"),
    (15, "TERM"), (16, "STKFLT"), (17, "CHLD"), (18, "CONT"), (19, "STOP"), (20, "TSTP"),
    (21, "TTIN"), (22, "TTOU"), (23, "URG"), (24, "XCPU"), (25, "XFSZ"), (26, "VTALRM"),
    (27, "PROF"), (28, "WINCH"), (29, "IO"), (30, "PWR"), (31, "SYS"), (32, "32"), (33, "33"),
    (34, "RTMIN")] ++
  (List.range 15).map (fun i => (35 + i, "RTMIN+" ++ toString (i + 1))) ++
  (List.range 14).map (fun i => (50 + i, "RTMAX-" ++ toString (14 - i))) ++ [(64, "RTMAX")]

/-- The largest number of a signal. -/
def last : Signal := 64

/-- Signals that do nothing to a task that has no plans for them. -/
def harmless : List Signal := [17, 18, 19, 20, 21, 22, 23, 28]

/-- What is said of a task that a signal ended. -/
def epitaph (s : Signal) : String :=
  match s with
  | 1 => "Hangup"
  | 3 => "Quit"
  | 4 => "Illegal instruction"
  | 5 => "Trace/breakpoint trap"
  | 6 => "Aborted"
  | 7 => "Bus error"
  | 8 => "Floating point exception"
  | 9 => "Killed"
  | 10 => "User defined signal 1"
  | 11 => "Segmentation fault"
  | 12 => "User defined signal 2"
  | 14 => "Alarm clock"
  | 15 => "Terminated"
  | 16 => "Stack fault"
  | 24 => "CPU time limit exceeded"
  | 25 => "File size limit exceeded"
  | 26 => "Virtual timer expired"
  | 27 => "Profiling timer expired"
  | 29 => "I/O possible"
  | 30 => "Power failure"
  | 31 => "Bad system call"
  | n => if 34 ≤ n then "Real-time signal " ++ toString (n - 34) else "Unknown signal " ++ toString n

end Signal

/-- What a task does about a signal. -/
inductive Disposition where
  /-- Ends, unless the signal is harmless. -/
  | usual
  /-- Nothing. -/
  | ignore
  /-- Keeps it in mind until it looks for it. -/
  | note
deriving DecidableEq, Repr

/-- How a task ended. -/
inductive Ending where
  | exited (code : Nat)
  | killed (signal : Signal)
deriving DecidableEq, Repr

/-- What waiting for a task comes to. -/
inductive WaitResult where
  | ended (how : Ending)
  /-- A noted signal came first. -/
  | interrupted
  /-- There is no such task. -/
  | nobody
deriving DecidableEq, Repr

/-- What a file is opened for. -/
inductive OpenMode where
  | read
  | write
  | append
  | readWrite
deriving DecidableEq, Repr

/-- What can be asked of the machine. -/
inductive Call where
  /-- Takes up a moment. -/
  | work
  /-- Reads at most so many bytes; none are read at the end. -/
  | read (descriptor limit : Nat)
  | write (descriptor : Nat) (bytes : List UInt8)
  | openFile (path : String) (mode : OpenMode)
  /-- Makes the second descriptor stand for what the first one stands for. -/
  | duplicate (source target : Nat)
  /-- The same with a descriptor that is not in use and is closed when a program begins. -/
  | preserve (source : Nat)
  | close (descriptor : Nat)
  /-- Makes a pipe and answers with its end to read from and its end to write to. -/
  | makePipe
  | sleep (micros : Nat)
  | waitFor (child : Nat) (isInterruptible : Bool)
  /-- Whether a task that was started here still runs. -/
  | isRunning (child : Nat)
  /-- Sends a signal to a task, or with a number that is not positive to a group. -/
  | send (target : Int) (signal : Signal)
  | dispose (signal : Signal) (disposition : Disposition)
  /-- The first signal that was noted and not yet looked at. -/
  | noted
  /-- Leaves its group for one of its own. -/
  | newGroup
  /-- Forgets what only the program before it knew. -/
  | beginProgram
  | ownNumber
  | directory
  | enterDirectory (path : String)
  | look (path : String)
  | list (path : String)
  | makeDirectory (path : String)
  | removeDirectory (path : String)
  | remove (path : String)
  | rename (source target : String)
  /-- The time in microseconds since the machine was started. -/
  | clock
deriving DecidableEq, Repr

/-- What the answer to a call is. -/
def Call.Answer : Call → Type
  | work => Unit
  | read _ _ => Except Fault (List UInt8)
  | write _ _ => Except Fault Unit
  | openFile _ _ => Except Fault Nat
  | duplicate _ _ => Except Fault Unit
  | preserve _ => Except Fault Nat
  | close _ => Unit
  | makePipe => Nat × Nat
  | sleep _ => Unit
  | waitFor _ _ => WaitResult
  | isRunning _ => Bool
  | send _ _ => Bool
  | dispose _ _ => Unit
  | noted => Option Signal
  | newGroup => Unit
  | beginProgram => Unit
  | ownNumber => Nat
  | directory => String
  | enterDirectory _ => Except Fault Unit
  | look _ => Except Fault Entry
  | list _ => Except Fault (List String)
  | makeDirectory _ => Except Fault Unit
  | removeDirectory _ => Except Fault Unit
  | remove _ => Except Fault Unit
  | rename _ _ => Except Fault Unit
  | clock => Nat

/-- What a task does from some moment on. -/
inductive Activity where
  | exit (code : Nat)
  | call (c : Call) (next : c.Answer → Activity)
  /-- Starts another activity and goes on with its number. -/
  | start (other : Unit → Activity) (next : Nat → Activity)

instance : Inhabited Activity := ⟨.exit 0⟩

/-- A part of an activity that comes to a value: told how things go on from the value, it is a whole
activity. -/
def Routine (α : Type) : Type := (α → Activity) → Activity

namespace Routine

variable {α σ : Type}

instance : Monad Routine where
  pure a := fun next => next a
  bind r f := fun next => r fun a => f a next

instance : Inhabited (Routine α) := ⟨fun _ => .exit 0⟩

/-- Makes one call. -/
def perform (c : Call) : Routine c.Answer := fun next => .call c next

/-- Ends the task. -/
def finish (code : Nat) : Routine α := fun _ => .exit code

/-- A routine as a whole activity: its value is the exit code. -/
def activity (r : Routine Nat) : Activity := r .exit

/-- Starts a task beside this one and comes to its number. -/
def spawn (other : Routine Nat) : Routine Nat := fun next => .start (fun _ => other .exit) next

/-- Repeats a step until it comes to a value, but no more than `limit` times. -/
def iterate (step : σ → Routine (σ ⊕ α)) : Nat → σ → Routine α
  | 0, _ => finish 70
  | limit + 1, s => do
    perform .work
    match ← step s with
    | .inl s => iterate step limit s
    | .inr a => return a

/-- A number of repetitions that nobody will see the end of: each takes a microsecond of the machine's
time, and all together take more than thirty years. -/
def endless : Nat := Nat.pow 10 15

/-- Repeats a step until it comes to a value. -/
def repeatUntil (step : σ → Routine (σ ⊕ α)) (s : σ) : Routine α := iterate step endless s

/-- The number of bytes that are read at a time. -/
def blockSize : Nat := 65536

/-- The bytes of a text. -/
def bytesOf (text : String) : List UInt8 := text.toUTF8.toList

/-- Writes bytes. -/
def emitBytes (descriptor : Nat) (bytes : List UInt8) : Routine Bool := do
  if bytes = [] then return true
  match ← perform (.write descriptor bytes) with
  | .ok _ => return true
  | .error _ => return false

/-- Writes a text. -/
def emit (descriptor : Nat) (text : String) : Routine Bool := emitBytes descriptor (bytesOf text)

/-- Writes a text to the first stream. -/
def say (text : String) : Routine Unit := do discard (emit 1 text)

/-- Writes a line to the second stream. -/
def complain (text : String) : Routine Unit := do discard (emit 2 (text ++ "\n"))

/-- Feeds all that can be read to a step, piece by piece. -/
def consume (descriptor : Nat) (step : σ → List UInt8 → Routine σ) (s : σ) :
    Routine (Except Fault σ) :=
  repeatUntil (fun s => do
    match ← perform (.read descriptor blockSize) with
    | .error fault => return .inr (.error fault)
    | .ok [] => return .inr (.ok s)
    | .ok bytes => return .inl (← step s bytes)) s

/-- Reads all that can be read. -/
def readAll (descriptor : Nat) : Routine (Except Fault (List UInt8)) := do
  let pieces ← consume descriptor (fun pieces bytes => return bytes :: pieces) []
  return pieces.map fun pieces => pieces.reverse.flatten

end Routine

end PlainTerminal
