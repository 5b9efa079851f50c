import PlainTerminal.Capture
import PlainTerminal.Machine.Activity

/-!
# The machine

Tasks take turns on the machine, one call at a time. Each has its own descriptors, which stand for
open files; an open file, with its offset, may be shared by several descriptors and tasks. Pipes hold
what was written and not yet read. What is written to the two outputs of the machine is captured at
once.

A call that has to wait (for input, for room in a pipe, for another task) simply finds the task not
ready. Time passes by one microsecond for every call; when no task is ready it passes to the moment
at which one wakes up.
-/

namespace PlainTerminal

/-- The two outputs of the machine. -/
inductive Stream where
  | stdout
  | stderr
deriving DecidableEq, Repr

/-- What an open file gives access to. -/
inductive Channel where
  | output (stream : Stream)
  | pipeEntrance (pipe : Nat)
  | pipeExit (pipe : Nat)
  | file (path : String)
  | directory (path : String)
  | device (which : Device)
deriving DecidableEq, Repr

/-- An open file. -/
structure OpenFile where
  channel : Channel
  mode : OpenMode
  offset : Nat := 0
deriving DecidableEq, Repr

/-- A pipe: how many bytes it holds, and the pieces that were written, first one first. -/
structure Pipe where
  size : Nat := 0
  pieces : List (List UInt8) := []
deriving DecidableEq, Repr

namespace Pipe

/-- The number of bytes from which on a pipe is full. -/
def capacity : Nat := 65536

/-- Puts bytes into a pipe. -/
def put (p : Pipe) (bytes : List UInt8) : Pipe :=
  ⟨p.size + bytes.length, p.pieces ++ [bytes]⟩

/-- Takes at most `limit` bytes from the front of some pieces. -/
def takeFrom : List (List UInt8) → Nat → List UInt8 × List (List UInt8)
  | [], _ => ([], [])
  | piece :: rest, limit =>
    if limit = 0 then ([], piece :: rest)
    else if piece.length ≤ limit then
      let (taken, left) := takeFrom rest (limit - piece.length)
      (piece ++ taken, left)
    else (piece.take limit, piece.drop limit :: rest)

/-- Takes at most `limit` bytes out of a pipe. -/
def take (p : Pipe) (limit : Nat) : List UInt8 × Pipe :=
  let (taken, left) := takeFrom p.pieces limit
  (taken, ⟨p.size - taken.length, left⟩)

end Pipe

/-- Where a task stands. -/
inductive TaskState where
  | running (activity : Activity)
  | ended (how : Ending)

/-- A task on the machine. -/
structure Task where
  number : Nat
  parent : Nat
  group : Nat
  descriptors : List (Nat × Nat)
  directory : String
  dispositions : List (Signal × Disposition) := []
  noted : List Signal := []
  wakesAt : Nat := 0
  state : TaskState

namespace Task

/-- What a descriptor stands for. -/
def file? (t : Task) (descriptor : Nat) : Option Nat := t.descriptors.lookup descriptor

/-- The first number, from `least` on, that is no descriptor. -/
def freeDescriptor (t : Task) (least : Nat) : Nat :=
  ((List.range (t.descriptors.length + 1)).find? fun n => (t.file? (least + n)).isNone).elim least
    (least + ·)

/-- Makes a descriptor stand for an open file. -/
def opened (t : Task) (descriptor file : Nat) : Task :=
  { t with descriptors := (descriptor, file) :: t.descriptors.filter (·.1 ≠ descriptor) }

/-- Makes a descriptor stand for nothing. -/
def closed (t : Task) (descriptor : Nat) : Task :=
  { t with descriptors := t.descriptors.filter (·.1 ≠ descriptor) }

/-- What the task does about a signal. -/
def disposition (t : Task) (s : Signal) : Disposition := (t.dispositions.lookup s).getD .usual

/-- The task still runs. -/
def isRunning (t : Task) : Bool :=
  match t.state with
  | .running _ => true
  | .ended _ => false

end Task

/-- The machine: its tasks in the order of their turns, what they opened, its files, its outputs
and its time in microseconds. -/
structure Machine where
  tasks : List Task := []
  openFiles : List (Nat × OpenFile) := []
  pipes : List (Nat × Pipe) := []
  files : Files
  stdout : Capture
  stderr : Capture
  clock : Nat := 0
  nextNumber : Nat
  nextFile : Nat := 0
  nextPipe : Nat := 0

namespace Machine

/-! ## Tasks -/

/-- The task with a number. -/
def task? (m : Machine) (number : Nat) : Option Task := m.tasks.find? (·.number = number)

/-- Changes the task with a number. -/
def update (m : Machine) (number : Nat) (f : Task → Task) : Machine :=
  { m with tasks := m.tasks.map fun t => if t.number = number then f t else t }

/-- Ends a task. It lets go of all it has opened, and stays only for a parent that may wait for it;
those whose parent it was stay no longer. -/
def endTask (m : Machine) (number : Nat) (how : Ending) : Machine :=
  let isOrphan (t : Task) : Bool :=
    t.parent = number || (t.number = number && t.parent ≠ 0 &&
      !((m.task? t.parent).elim false Task.isRunning))
  let m := m.update number fun t => { t with descriptors := [], state := .ended how }
  { m with tasks := m.tasks.filter fun t => t.isRunning || !isOrphan t }

/-- Sends a signal to one task. -/
def deliver (m : Machine) (t : Task) (s : Signal) : Machine :=
  if !t.isRunning || s = 0 then m
  else if s = Signal.kill then m.endTask t.number (.killed s)
  else match t.disposition s with
    | .ignore => m
    | .note => m.update t.number fun t => { t with noted := t.noted ++ [s] }
    | .usual => if Signal.harmless.contains s then m else m.endTask t.number (.killed s)

/-- Sends a signal to all tasks of a group. -/
def deliverGroup (m : Machine) (group : Nat) (s : Signal) : Machine :=
  (m.tasks.filter (·.group = group)).foldl (fun m t => m.deliver t s) m

/-- Adds a task. -/
def withTask (m : Machine) (t : Task) : Machine := { m with tasks := m.tasks ++ [t] }

/-! ## Open files -/

/-- Adds an open file. -/
def withFile (m : Machine) (f : OpenFile) : Nat × Machine :=
  (m.nextFile, { m with openFiles := (m.nextFile, f) :: m.openFiles, nextFile := m.nextFile + 1 })

/-- The open file that a descriptor of a task stands for. -/
def file? (m : Machine) (t : Task) (descriptor : Nat) : Option (Nat × OpenFile) := do
  let n ← t.file? descriptor
  return (n, ← m.openFiles.lookup n)

/-- Some task can reach a channel. -/
def isHeld (m : Machine) (c : Channel) : Bool :=
  m.tasks.any fun t => t.descriptors.any fun d =>
    (m.openFiles.lookup d.2).any fun f => f.channel = c

/-- Replaces the value of a number in a list of numbered things. -/
def replaced {α : Type} (things : List (Nat × α)) (n : Nat) (value : α) : List (Nat × α) :=
  things.map fun x => if x.1 = n then (n, value) else x

/-- Moves the offset of an open file. -/
def moved (m : Machine) (n : Nat) (f : OpenFile) (offset : Nat) : Machine :=
  { m with openFiles := replaced m.openFiles n { f with offset } }

/-- The bytes of the file at a canonical path. -/
def content (m : Machine) (path : String) : List UInt8 :=
  match m.files.entry? path with
  | some (.file bytes) => bytes
  | _ => []

/-- Bytes with others written over or after them from an offset on. -/
def overwritten (old bytes : List UInt8) (offset : Nat) : List UInt8 :=
  old.take offset ++ List.replicate (offset - old.length) 0 ++ bytes ++
    old.drop (offset + bytes.length)

/-! ## Calls

The answer to a call of a task, and the machine afterwards; nothing while the task has to wait. -/

/-- Reads. -/
def read (m : Machine) (t : Task) (descriptor limit : Nat) :
    Option (Except Fault (List UInt8) × Machine) :=
  match m.file? t descriptor with
  | none => some (.error .badDescriptor, m)
  | some (n, f) =>
    match f.channel with
    | .output _ | .pipeEntrance _ => some (.error .badDescriptor, m)
    | .directory _ => some (.error .isDirectory, m)
    | .device .null => some (.ok [], m)
    | .device _ => some (.ok (List.replicate (min limit 4096) 0), m)
    | .file path =>
      if f.mode = .write ∨ f.mode = .append then some (.error .badDescriptor, m)
      else
        let bytes := ((m.content path).drop f.offset).take limit
        some (.ok bytes, m.moved n f (f.offset + bytes.length))
    | .pipeExit pipe =>
      match m.pipes.lookup pipe with
      | none => some (.ok [], m)
      | some p =>
        if p.size = 0 then
          if m.isHeld (.pipeEntrance pipe) then none else some (.ok [], m)
        else
          let (bytes, p) := p.take limit
          some (.ok bytes, { m with pipes := replaced m.pipes pipe p })

/-- A task writes what nobody will read. -/
def refuse (m : Machine) (t : Task) : Option (Except Fault Unit × Machine) :=
  some (.error .brokenPipe, m.deliver t Signal.brokenPipe)

/-- Writes. -/
def write (m : Machine) (t : Task) (descriptor : Nat) (bytes : List UInt8) :
    Option (Except Fault Unit × Machine) :=
  match m.file? t descriptor with
  | none => some (.error .badDescriptor, m)
  | some (n, f) =>
    match f.channel with
    | .pipeExit _ | .directory _ => some (.error .badDescriptor, m)
    | .device .full => some (.error .noSpace, m)
    | .device _ => some (.ok (), m)
    | .output .stdout =>
      if m.stdout.isOverfull then m.refuse t
      else some (.ok (), { m with stdout := m.stdout.drain (Capture.readings bytes) })
    | .output .stderr =>
      if m.stderr.isOverfull then m.refuse t
      else some (.ok (), { m with stderr := m.stderr.drain (Capture.readings bytes) })
    | .file path =>
      if f.mode = .read then some (.error .badDescriptor, m)
      else
        let old := m.content path
        let offset := if f.mode = .append then old.length else f.offset
        let m := { m with files := m.files.put path (.file (overwritten old bytes offset)) }
        some (.ok (), m.moved n f (offset + bytes.length))
    | .pipeEntrance pipe =>
      if !m.isHeld (.pipeExit pipe) then m.refuse t
      else match m.pipes.lookup pipe with
        | none => m.refuse t
        | some p =>
          if Pipe.capacity ≤ p.size then none
          else some (.ok (), { m with pipes := replaced m.pipes pipe (p.put bytes) })

/-- The descriptor that a path in `/dev` names. -/
def descriptorAt? (path : String) : Option Nat :=
  if path = "/dev/stdin" then some 0
  else if path = "/dev/stdout" then some 1
  else if path = "/dev/stderr" then some 2
  else if "/dev/fd/".toList.isPrefixOf path.toList then
    (String.ofList (path.toList.drop 8)).toNat?
  else none

/-- What opening a path gives access to, and the files afterwards: a file that is written is made
if it is not there, and emptied unless it is added to. -/
def channelAt (files : Files) (directory path : String) (mode : OpenMode) :
    Except Fault (Channel × Files) := do
  let place ← files.locate directory path
  match files.entry? place, mode with
  | none, .read => throw .notFound
  | none, _ => return (.file place, files.put place (.file []))
  | some .directory, .read => return (.directory place, files)
  | some .directory, _ => throw .isDirectory
  | some (.device d), _ => return (.device d, files)
  | some (.file _), .write => return (.file place, files.put place (.file []))
  | some (.file _), _ => return (.file place, files)

/-- Opens a file. -/
def openFile (m : Machine) (t : Task) (path : String) (mode : OpenMode) :
    Except Fault Nat × Machine :=
  let descriptor := t.freeDescriptor 0
  match descriptorAt? path with
  | some source =>
    match t.file? source with
    | none => (.error .notFound, m)
    | some n => (.ok descriptor, m.update t.number (·.opened descriptor n))
  | none =>
    match channelAt m.files t.directory path mode with
    | .error fault => (.error fault, m)
    | .ok (channel, files) =>
      let (n, m) := { m with files }.withFile { channel, mode }
      (.ok descriptor, m.update t.number (·.opened descriptor n))

/-- Makes a pipe. -/
def makePipe (m : Machine) (t : Task) : (Nat × Nat) × Machine :=
  let pipe := m.nextPipe
  let m := { m with pipes := (pipe, {}) :: m.pipes, nextPipe := pipe + 1 }
  let (exit, m) := m.withFile { channel := .pipeExit pipe, mode := .read }
  let (entrance, m) := m.withFile { channel := .pipeEntrance pipe, mode := .write }
  let front := t.freeDescriptor 0
  let back := (t.opened front exit).freeDescriptor 0
  ((front, back), m.update t.number fun t => (t.opened front exit).opened back entrance)

/-- Waits for a child. -/
def waitFor (m : Machine) (t : Task) (child : Nat) (isInterruptible : Bool) :
    Option (WaitResult × Machine) :=
  match m.tasks.find? fun c => c.number = child && c.parent = t.number with
  | none => some (.nobody, m)
  | some c =>
    match c.state with
    | .ended how =>
      some (.ended how, { m with tasks := m.tasks.filter (·.number ≠ child) })
    | .running _ => if isInterruptible && t.noted ≠ [] then some (.interrupted, m) else none

/-- Sends a signal to a task or a group. -/
def send (m : Machine) (t : Task) (target : Int) (s : Signal) : Bool × Machine :=
  if 0 < target then
    match m.task? target.toNat with
    | none => (false, m)
    | some other => (true, m.deliver other s)
  else
    let group := if target = 0 then t.group else target.natAbs
    if m.tasks.any fun other => other.group = group && other.isRunning then
      (true, m.deliverGroup group s)
    else (false, m)

/-- Changes the files if that is possible. -/
def changeFiles (m : Machine) (result : Except Fault Files) : Except Fault Unit × Machine :=
  match result with
  | .ok files => (.ok (), { m with files })
  | .error fault => (.error fault, m)

/-- Answers a call of a task. -/
def answer (m : Machine) (t : Task) (c : Call) : Option (c.Answer × Machine) :=
  let adjust (f : Task → Task) : Machine := m.update t.number f
  match c with
  | .work => some ((), m)
  | .read descriptor limit => m.read t descriptor limit
  | .write descriptor bytes => m.write t descriptor bytes
  | .openFile path mode => some (m.openFile t path mode)
  | .duplicate source target =>
    match t.file? source with
    | none => some (Except.error Fault.badDescriptor, m)
    | some n => some (Except.ok (), adjust (·.opened target n))
  | .preserve source =>
    match t.file? source with
    | none => some (Except.error Fault.badDescriptor, m)
    | some n =>
      let descriptor := t.freeDescriptor 10
      some (Except.ok descriptor, adjust (·.opened descriptor n))
  | .close descriptor => some ((), adjust (·.closed descriptor))
  | .makePipe => some (m.makePipe t)
  | .sleep micros => some ((), adjust fun t => { t with wakesAt := m.clock + micros })
  | .waitFor child isInterruptible => m.waitFor t child isInterruptible
  | .isRunning child =>
    some (m.tasks.any fun c => c.number = child && c.parent = t.number && c.isRunning, m)
  | .send target s => some (m.send t target s)
  | .dispose s disposition =>
    some ((), adjust fun t =>
      { t with dispositions := (s, disposition) :: t.dispositions.filter (·.1 ≠ s) })
  | .noted => some (t.noted.head?, adjust fun t => { t with noted := t.noted.tail })
  | .newGroup => some ((), adjust fun t => { t with group := t.number })
  | .beginProgram =>
    some ((), adjust fun t =>
      { t with
        descriptors := t.descriptors.filter (·.1 < 10)
        dispositions := t.dispositions.filter (·.2 = .ignore) })
  | .ownNumber => some (t.number, m)
  | .directory => some (t.directory, m)
  | .enterDirectory path =>
    match m.files.look t.directory path with
    | .error fault => some (Except.error fault, m)
    | .ok (place, .directory) =>
      some (Except.ok (), adjust fun t => { t with directory := place })
    | .ok _ => some (Except.error Fault.notDirectory, m)
  | .look path => some ((m.files.look t.directory path).map Prod.snd, m)
  | .list path =>
    match m.files.look t.directory path with
    | .error fault => some (Except.error fault, m)
    | .ok (place, .directory) => some (Except.ok (m.files.children place), m)
    | .ok _ => some (Except.error Fault.notDirectory, m)
  | .makeDirectory path => some (m.changeFiles (m.files.makeDirectory t.directory path))
  | .removeDirectory path => some (m.changeFiles (m.files.removeDirectory t.directory path))
  | .remove path => some (m.changeFiles (m.files.remove t.directory path))
  | .rename source target => some (m.changeFiles (m.files.rename t.directory source target))
  | .clock => some (m.clock, m)

/-! ## Turns -/

/-- A task goes on with an activity, unless it was ended. -/
def resume (m : Machine) (number : Nat) (a : Activity) : Machine :=
  m.update number fun t => if t.isRunning then { t with state := .running a } else t

/-- One turn of a task; nothing while it has to wait. -/
def turn (m : Machine) (t : Task) : Option Machine :=
  match t.state with
  | .ended _ => none
  | .running a =>
    if m.clock < t.wakesAt then none
    else match a with
      | .exit code => some (m.endTask t.number (.exited (code % 256)))
      | .start other next =>
        let number := m.nextNumber
        let child : Task :=
          { t with number, parent := t.number, noted := [], state := .running (other ()) }
        some (({ m with nextNumber := number + 1 }.resume t.number (next number)).withTask child)
      | .call c next => (m.answer t c).map fun (a, m) => m.resume t.number (next a)

/-- Puts a task behind all others. -/
def toBack (m : Machine) (number : Nat) : Machine :=
  let (back, front) := m.tasks.partition (·.number = number)
  { m with tasks := front ++ back }

/-- The turn of the first task that is ready; nothing if none is. -/
def nextTurn (m : Machine) : Option Machine :=
  m.tasks.findSome? fun t => (m.turn t).map fun m => m.toBack t.number

/-- The moment at which the next task wakes up. -/
def nextWaking (m : Machine) : Option Nat :=
  (m.tasks.filterMap fun t =>
    if t.isRunning && m.clock < t.wakesAt then some t.wakesAt else none).min?

/-- One turn, or the passing of time while no task is ready, but not beyond a moment. -/
def advance (m : Machine) (moment : Nat) : Machine :=
  match m.nextTurn with
  | some m => { m with clock := m.clock + 1 }
  | none => { m with clock := min moment (m.nextWaking.getD moment) }

/-- At most so many turns, but none from a moment on. -/
def runTurns (moment : Nat) : Nat → Machine → Machine
  | 0, m => m
  | turns + 1, m => if moment ≤ m.clock then m else runTurns moment turns (m.advance moment)

/-- Lets the machine run up to a moment; every turn takes at least a microsecond. -/
def runUntil (m : Machine) (moment : Nat) : Machine := runTurns moment (moment - m.clock) m

end Machine

end PlainTerminal
