import PlainTerminal.Proofs.Router.Calls

/-!
# Real commands and the virtual directory

The directories of the challenge exist in the virtual tree alone: no process can be started in one.
But the executor knows one working directory only, and while the player is inside the challenge that
is a directory of the challenge. Whatever a command hands to the real shell from there is to be run
where nothing can run.

Both halves of the answer are at hand. Every call is one of the executor, from where it stands; and
from inside the virtual tree a command makes a call exactly if it hands something over. So the calls
that go astray are all the calls that are made inside the challenge, and the commands that make them
are those with a free operand, and the writes that pass.
-/

namespace PlainTerminal

open Dialogue

/-- A command is to be run in a directory of the challenge. -/
def Question.isStranded : Question → Bool
  | .runCommand call => Challenge.contains call.directory
  | _ => false

theorem Question.not_isStranded {q : Question} (h : ¬ q.isRun = true) : ¬ q.isStranded = true := by
  cases q with
  | runCommand call => exact absurd rfl h
  | _ => exact nofun

namespace Session

/-- On the user's own machine, the terminal stands inside the challenge. -/
structure InChallenge (s : Session) : Prop where
  notSimulated : s.store.isSimulated = false
  inside : Challenge.contains s.cwd = true

theorem inChallenge_iff {s : Session} (hlocal : s.store.isSimulated = false) :
    s.InChallenge ↔ Challenge.contains s.cwd = true :=
  ⟨InChallenge.inside, fun hinside => ⟨hlocal, hinside⟩⟩

/-- On the user's own machine, the challenge is all there is of the virtual tree. -/
theorem inVirtualTree_iff {s : Session} (hlocal : s.store.isSimulated = false) :
    s.inVirtualTree = true ↔ s.InChallenge := by
  rw [inChallenge_iff hlocal]
  unfold Session.inVirtualTree
  rw [hlocal, Bool.false_or]

theorem InChallenge.inVirtualTree {s : Session} (h : s.InChallenge) : s.inVirtualTree = true :=
  (inVirtualTree_iff h.notSimulated).mpr h

/-- Inside the challenge, every call that is admitted goes astray. -/
theorem InChallenge.isStranded {s : Session} (h : s.InChallenge) {q : Question} (hq : s.Admits q)
    (hrun : q.isRun = true) : q.isStranded = true := by
  cases q with
  | runCommand call =>
      obtain ⟨-, hmakes⟩ := hq call rfl
      show Challenge.contains call.directory = true
      rw [hmakes.directory]
      exact h.inside
  | _ => cases hrun

/-- In the demo no call is admitted. -/
theorem Admits.not_isRun {s : Session} {q : Question} (hq : s.Admits q)
    (hremote : ¬ s.store.isSimulated = false) : ¬ q.isRun = true := by
  cases q with
  | runCommand call => exact absurd (hq call rfl).1 hremote
  | _ => exact nofun

/-- Elsewhere no admitted call goes astray. -/
theorem inChallenge_of_isStranded {s : Session} {q : Question} (hq : s.Admits q)
    (hstranded : q.isStranded = true) : s.InChallenge := by
  cases q with
  | runCommand call =>
      obtain ⟨hlocal, hmakes⟩ := hq call rfl
      refine ⟨hlocal, ?_⟩
      have hinside : Challenge.contains call.directory = true := hstranded
      rwa [hmakes.directory] at hinside
  | _ => cases hstranded

end Session

namespace Router

variable {s : Session}

theorem runs_route_inside (command : String) {workingDirectory : Option String}
    (hin : (entering s workingDirectory).InChallenge) :
    Runs (fun _ => True) s (route command workingDirectory)
      (HandsOver (entering s workingDirectory) (Text.trim command)) :=
  runs_route_of_dispatch (runs_dispatch_virtual hin.notSimulated hin.inVirtualTree _)

/-- A command that hands something over inside the challenge has it run there. -/
theorem reachesFrom_isStranded {command : String} {workingDirectory : Option String}
    (hin : (entering s workingDirectory).InChallenge)
    (hover : HandsOver (entering s workingDirectory) (Text.trim command)) :
    ReachesFrom (fun q => q.isStranded = true) s (route command workingDirectory) := by
  have hruns := (runs_route_inside command hin).reached hover
  have hadmitted := admitted_route s command workingDirectory
  exact hruns.of_ensures hadmitted fun q hq hrun => hin.isStranded hq hrun

/-- **Real commands are run in a virtual directory exactly** if a local session is inside the
challenge and the command hands something to the real shell from there: a `cat`, `ls`, `mkdir` or
`touch` with a free operand, or a write that passes. -/
theorem avoids_isStranded_iff (s : Session) (command : String) (workingDirectory : Option String) :
    ((route command workingDirectory).run s).Avoids (fun q => q.isStranded = true) ↔
      ¬ ((entering s workingDirectory).InChallenge ∧
        HandsOver (entering s workingDirectory) (Text.trim command)) := by
  constructor
  · rintro havoids ⟨hin, hover⟩
    exact (reachesFrom_isStranded hin hover).not_avoids havoids
  · intro hnot
    by_cases hin : (entering s workingDirectory).InChallenge
    · -- Inside the challenge nothing runs at all, since nothing is handed over.
      have hquiet := (runs_route_inside command hin).avoided fun hover => hnot ⟨hin, hover⟩
      exact (hquiet.mono (fun _ hq => Question.not_isStranded hq) fun _ _ _ => trivial).avoids
    · -- Elsewhere whatever runs does so where the terminal stands.
      have hadmitted := admitted_route s command workingDirectory
      refine EnsuresFrom.avoids (hadmitted.mono (fun q hq hstranded => hin ?_)
        fun _ _ hend => hend)
      exact Session.inChallenge_of_isStranded hq hstranded

/-- To read a file of the machine from inside the challenge is to run `cat` in `/var/games`. -/
theorem hosts_stranded :
    ¬ ((route "cat /etc/hosts" (some "/var/games")).run ownMachine).Avoids
      (fun q => q.isStranded = true) := by
  have hin : (entering ownMachine (some "/var/games")).InChallenge :=
    ⟨rfl, by decide +kernel⟩
  have hover : HandsOver (entering ownMachine (some "/var/games")) (Text.trim "cat /etc/hosts") :=
    Or.inl ⟨"/etc/hosts", by decide +kernel, by decide +kernel⟩
  exact (reachesFrom_isStranded hin hover).not_avoids

end Router

end PlainTerminal
