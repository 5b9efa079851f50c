import PlainTerminal.Calendar
import PlainTerminal.Command.Result
import PlainTerminal.Model.Request

/-!
# Asking the outside

All that the terminal does is computed, except for a few questions that only the world outside can
answer: what a command of the real shell does, whether a real directory is there and what it holds,
what the language model says, what time it is, and which of several things chance picks.

A `Dialogue` is a computation that asks such questions one after the other. It is a value: what it
asks, and how it goes on after each possible answer, can be read off it, whoever answers. `run`
lets somebody answer. Two dialogues are equal only if they ask the same and end in the same way
whatever they are told.
-/

namespace PlainTerminal

/-- How long a command may run and how much it may print on either stream. -/
structure Limits where
  timeoutMs : Nat
  maxOutputBytes : Nat
deriving DecidableEq, Repr

/-- A command for the real shell. -/
structure ShellCall where
  command : String
  directory : String
  limits : Limits
deriving DecidableEq, Repr

/-- What can be asked. -/
inductive Question where
  /-- Run a command in the real shell. -/
  | runCommand (call : ShellCall)
  /-- Is there a real directory at this path? -/
  | isDirectory (path : String)
  /-- Which names does the real directory at this path hold? -/
  | listDirectory (path : String)
  /-- What does the language model say? -/
  | complete (request : CompletionRequest)
  /-- What time is it? -/
  | now
  /-- Which of the things numbered from zero to `last` is it? -/
  | pick (last : Nat)

/-- What the answer to a question is. -/
def Question.Answer : Question → Type
  | runCommand _ => CommandResult
  | isDirectory _ => Bool
  | listDirectory _ => List String
  | complete _ => Except ModelError String
  | now => Timestamp
  | pick last => Fin (last + 1)

/-- A computation that asks the outside. -/
inductive Dialogue (α : Type) where
  | done (value : α)
  | ask (question : Question) (next : question.Answer → Dialogue α)

namespace Dialogue

variable {α β γ σ : Type}

/-- Goes on with another dialogue. -/
def bind (d : Dialogue α) (f : α → Dialogue β) : Dialogue β :=
  match d with
  | done value => f value
  | ask question next => ask question fun answer => (next answer).bind f

instance : Monad Dialogue where
  pure := done
  bind := bind

@[simp] theorem pure_eq (value : α) : (pure value : Dialogue α) = done value := rfl

@[simp] theorem done_bind (value : α) (f : α → Dialogue β) : done value >>= f = f value := rfl

@[simp] theorem ask_bind (question : Question) (next : question.Answer → Dialogue α)
    (f : α → Dialogue β) :
    ask question next >>= f = ask question fun answer => next answer >>= f := rfl

theorem bind_done (d : Dialogue α) : d >>= done = d := by
  induction d with
  | done value => rfl
  | ask question next ih => exact congrArg (ask question) (funext ih)

theorem bind_assoc (d : Dialogue α) (f : α → Dialogue β) (g : β → Dialogue γ) :
    d >>= f >>= g = d >>= fun value => f value >>= g := by
  induction d with
  | done value => rfl
  | ask question next ih => exact congrArg (ask question) (funext ih)

instance : LawfulMonad Dialogue :=
  LawfulMonad.mk' Dialogue bind_done (fun _ _ => rfl) bind_assoc

/-- Asks one question. -/
def question (q : Question) : Dialogue q.Answer := ask q done

/-- Runs a command in the real shell. -/
def runCommand (call : ShellCall) : Dialogue CommandResult := question (.runCommand call)

/-- Asks whether there is a real directory at a path. -/
def isDirectory (path : String) : Dialogue Bool := question (.isDirectory path)

/-- Asks for the names in a real directory. -/
def listDirectory (path : String) : Dialogue (List String) := question (.listDirectory path)

/-- Asks the language model. -/
def complete (request : CompletionRequest) : Dialogue (Except ModelError String) :=
  question (.complete request)

/-- Asks for the time. -/
def now : Dialogue Timestamp := question .now

/-- Lets chance pick from a list; the default stands for the pick from an empty one. -/
def choose (things : List String) : Dialogue String := do
  let i ← question (.pick (things.length - 1))
  return things.getD (Fin.val i) ""

/-- Holds a dialogue with somebody who answers every question and may change by it. -/
def run (answer : (q : Question) → σ → q.Answer × σ) : Dialogue α → σ → α × σ
  | done value, s => (value, s)
  | ask question next, s =>
    let (a, s) := answer question s
    (next a).run answer s

end Dialogue

end PlainTerminal
