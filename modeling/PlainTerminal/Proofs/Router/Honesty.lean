import PlainTerminal.Proofs.Dialogue.Course
import PlainTerminal.Proofs.Router.Inside

/-!
# Is a simulated result simulated?

A result says whether it was simulated. It is *honest* if nothing was run in the real shell whenever
it says so. The mark is set by each command for itself, from the place where the terminal stands or
from the place that was asked for, while the decision to run something is taken further down, from
the mode alone.

In the demo nothing is ever run. On the user's own machine `Veiled` says, of a part of a command,
when it runs something and hides it: always if the condition holds, and if it does not, then either
nothing is run or the mark is not set. From outside the challenge that never happens, and a write or
a single file that is read tell what they did from anywhere. What is left are `ls`, `mkdir`, `touch`
and a `cat` of several files, inside the challenge, with a free operand.
-/

namespace PlainTerminal

open Dialogue Session

variable {α β : Type} {s : Session}

/-! ## Marks -/

/-- Whoever answers, the action ends in a value of which this holds. -/
def EndsIn (s : Session) (action : Action α) (post : α → Prop) : Prop :=
  EnsuresFrom (fun _ => True) (fun value _ => post value) s action

namespace EndsIn

variable {post : α → Prop} {action : Action α}

theorem pure {value : α} (h : post value) : EndsIn s (pure value) post := ensuresFrom_pure.mpr h

theorem get_bind {f : Session → Action α} (h : EndsIn s (f s) post) :
    EndsIn s (get >>= f) post := by
  unfold EndsIn
  rw [ensuresFrom_bind, ensuresFrom_get]
  exact h

/-- The end of an action shows, whatever came before. -/
theorem bind {post : β → Prop} {f : α → Action β} (hf : ∀ value s', EndsIn s' (f value) post) :
    EndsIn s (action >>= f) post := by
  unfold EndsIn
  rw [ensuresFrom_bind]
  exact (ensuresFrom_true action s).mono (fun _ hq => hq) fun value s' _ => hf value s'

theorem map {f : α → β} {post' : β → Prop} (h : EndsIn s action post)
    (hf : ∀ value, post value → post' (f value)) :
    EndsIn s (do return f (← action)) post' := by
  unfold EndsIn
  rw [ensuresFrom_bind]
  exact EnsuresFrom.mono h (fun _ hq => hq) fun value _ hvalue =>
    ensuresFrom_pure.mpr (hf value hvalue)

end EndsIn

/-- On the user's own machine the action runs something and sets the mark if the condition holds;
if it does not, then nothing is run or the mark is not set. -/
structure Veiled (s : Session) (action : Action α) (marked : α → Prop) (condition : Prop) :
    Prop where
  hidden : condition →
    ReachesFrom (fun q => q.isRun = true) s action ∧ EndsIn s action marked
  plain : ¬ condition →
    EnsuresFrom (fun q => ¬ q.isRun = true) (fun _ _ => True) s action ∨
      EndsIn s action fun value => ¬ marked value

namespace Veiled

variable {action : Action α} {marked : α → Prop} {condition condition' : Prop}

/-- Where the mark is always set, it hides all that is run. -/
theorem of_marked {kept : Session → Prop} (h : Runs kept s action condition)
    (hmarked : EndsIn s action marked) : Veiled s action marked condition :=
  ⟨fun hc => ⟨h.reached hc, hmarked⟩, fun hc => Or.inl (h.forget.avoided hc)⟩

theorem of_idle {kept : Session → Prop} (h : Runs kept s action False) (hc : ¬ condition) :
    Veiled s action marked condition :=
  ⟨fun hcond => absurd hcond hc, fun _ => Or.inl (h.forget.avoided id)⟩

theorem of_unmarked (h : EndsIn s action fun value => ¬ marked value) (hc : ¬ condition) :
    Veiled s action marked condition :=
  ⟨fun hcond => absurd hcond hc, fun _ => Or.inr h⟩

theorem congr (h : Veiled s action marked condition) (hiff : condition ↔ condition') :
    Veiled s action marked condition' :=
  ⟨fun hc => h.hidden (hiff.mpr hc), fun hc => h.plain fun hc' => hc (hiff.mp hc')⟩

theorem get_bind {f : Session → Action α} (h : Veiled s (f s) marked condition) :
    Veiled s (get >>= f) marked condition := by
  refine ⟨fun hc => ⟨?_, EndsIn.get_bind (h.hidden hc).2⟩, fun hc => ?_⟩
  · exact ReachesFrom.get_bind (h.hidden hc).1
  · rcases h.plain hc with hidle | hunmarked
    · refine Or.inl ?_
      rw [ensuresFrom_bind, ensuresFrom_get]
      exact hidle
    · exact Or.inr (EndsIn.get_bind hunmarked)

/-- What is done with the value at the end keeps the mark. -/
theorem map {f : α → β} {marked' : β → Prop} (h : Veiled s action marked condition)
    (hf : ∀ value, marked' (f value) ↔ marked value) :
    Veiled s (do return f (← action)) marked' condition := by
  refine ⟨fun hc => ?_, fun hc => ?_⟩
  · obtain ⟨hruns, hmarked⟩ := h.hidden hc
    exact ⟨hruns.bind, hmarked.map fun value => (hf value).mpr⟩
  · rcases h.plain hc with hidle | hunmarked
    · refine Or.inl ?_
      rw [ensuresFrom_bind]
      exact hidle.mono (fun _ hq => hq) fun _ _ _ => ensuresFrom_pure.mpr trivial
    · exact Or.inr (hunmarked.map fun value hvalue hmarked => hvalue ((hf value).mp hmarked))

end Veiled

namespace Router

/-! ## Reading and listing -/

theorem endsIn_contentOf (hlocal : s.store.isSimulated = false) (path : String) :
    EndsIn s (contentOf path) fun r => r.isSimulated = false := by
  unfold contentOf
  refine EndsIn.get_bind ?_
  rw [if_neg (by rw [hlocal]; decide)]
  exact EndsIn.bind fun _ _ => EndsIn.pure rfl

/-- A single file that is read tells what it did. -/
theorem veiled_catOne (hlocal : s.store.isSimulated = false) (path : String) :
    Veiled s (catOne path) (fun o => o.isSimulated = true) False := by
  unfold catOne
  refine Veiled.get_bind ?_
  dsimp only
  split
  · exact Veiled.of_idle (Runs.of_quiet (quiet_catChallenge _ _)) id
  · refine Veiled.of_unmarked ?_ id
    refine (endsIn_contentOf hlocal path).map fun r hr => ?_
    rw [hr]
    exact Bool.false_ne_true

theorem endsIn_cat_virtual (hvirtual : s.inVirtualTree = true) {rest : String}
    (hseveral : ¬ ∃ path, Text.words rest = [path]) :
    EndsIn s (cat rest) fun o => o.isSimulated = true := by
  unfold cat
  refine EndsIn.get_bind ?_
  split
  · exact EndsIn.pure hvirtual
  · rename_i path hone
    exact absurd ⟨path, hone⟩ hseveral
  · rw [if_pos hvirtual]
    refine EndsIn.bind fun r _ => ?_
    dsimp only
    split
    · exact EndsIn.pure rfl
    · exact EndsIn.pure rfl

theorem veiled_cat (hlocal : s.store.isSimulated = false) (rest : String) :
    Veiled s (cat rest) (fun o => o.isSimulated = true)
      (s.InChallenge ∧ (¬ ∃ path, Text.words rest = [path]) ∧
        ∃ x ∈ Text.words rest, FreeOperand s x) := by
  by_cases hone : ∃ path, Text.words rest = [path]
  · -- A single file bears the mark of what read it.
    obtain ⟨path, hpath⟩ := hone
    unfold cat
    refine Veiled.get_bind ?_
    rw [hpath]
    exact (veiled_catOne hlocal path).congr (iff_of_false id fun h => h.2.1 ⟨path, rfl⟩)
  · by_cases hvirtual : s.inVirtualTree = true
    · -- Several files are marked together, whatever read each of them.
      have hinside := (inVirtualTree_iff hlocal).mp hvirtual
      refine (Veiled.of_marked (runs_cat_virtual hlocal hvirtual rest)
        (endsIn_cat_virtual hvirtual hone)).congr ?_
      rw [and_iff_right hinside, and_iff_right hone]
    · -- Elsewhere they are left to the real shell, and no mark is set.
      have houtside := mt (inVirtualTree_iff hlocal).mpr hvirtual
      refine Veiled.of_unmarked ?_ fun h => houtside h.1
      unfold cat
      refine EndsIn.get_bind ?_
      split
      · exact EndsIn.pure hvirtual
      · rename_i path hpath
        exact absurd ⟨path, hpath⟩ hone
      · rw [if_neg hvirtual]
        exact EndsIn.bind fun _ _ => EndsIn.pure Bool.false_ne_true

/-- A listing is marked wherever it comes from, once the terminal stands inside the challenge. -/
theorem veiled_listing (hlocal : s.store.isSimulated = false) (rest : String) :
    Veiled s (listing rest) (fun o => o.isSimulated = true)
      (s.InChallenge ∧ FreeOperand s (listedOperand rest)) := by
  by_cases hvirtual : s.inVirtualTree = true
  · have hinside := (inVirtualTree_iff hlocal).mp hvirtual
    refine (Veiled.of_marked (runs_listing_virtual hlocal hvirtual rest) ?_).congr
      (and_iff_right hinside).symm
    unfold listing
    refine EndsIn.get_bind ?_
    dsimp only
    split
    · exact EnsuresFrom.mono (quiet_challengeListing _ _ _ _) (fun _ _ => trivial) fun _ _ ho => ho.2
    · exact EndsIn.bind fun _ _ => EndsIn.pure rfl
  · have houtside := mt (inVirtualTree_iff hlocal).mpr hvirtual
    unfold listing
    refine Veiled.get_bind ?_
    dsimp only
    split
    · exact Veiled.of_idle (Runs.of_quiet (quiet_challengeListing _ _ _ _)) fun h => houtside h.1
    · exact Veiled.of_unmarked (EndsIn.bind fun _ _ => EndsIn.pure Bool.false_ne_true)
        fun h => houtside h.1

/-! ## Writing -/

/-- A write tells what it did, from anywhere. -/
theorem veiled_redirect (hlocal : s.store.isSimulated = false) (command : String)
    (write : Redirect.Write) :
    Veiled s (redirect command write) (fun o => o.isSimulated = true) False := by
  unfold redirect
  refine Veiled.get_bind ?_
  split
  · -- What would go into the challenge is refused: that is marked, but nothing runs.
    exact Veiled.of_idle (Runs.pure (Still.refl s)) id
  · dsimp only
    rw [if_neg (by rw [hlocal]; decide)]
    refine Veiled.of_unmarked ?_ id
    split
    · exact EndsIn.bind fun _ _ => EndsIn.pure Bool.false_ne_true
    · exact EndsIn.bind fun _ _ => EndsIn.pure Bool.false_ne_true

/-! ## Commands of the virtual machine -/

theorem endsIn_runVirtual (program rest command : String) :
    EndsIn s (runVirtual program rest command) fun o => o.isSimulated = true := by
  unfold runVirtual
  split
  · exact EndsIn.bind fun _ _ => EndsIn.pure rfl
  · split
    · exact EndsIn.pure rfl
    · exact EndsIn.get_bind (EndsIn.pure rfl)

/-- The mark that the result of routing will bear. -/
def marked : Except RouteError Outcome → Prop
  | .ok outcome => outcome.isSimulated = true
  | .error _ => False

theorem isSimulated_resultAt (s : Session) (r : Except RouteError Outcome) :
    (resultAt s r).isSimulated = true ↔ marked r := by
  cases r with
  | ok outcome => exact Iff.rfl
  | error e => exact iff_of_false Bool.false_ne_true id

/-- Inside the challenge, what a program of the virtual machine does to its operands is hidden. -/
theorem veiled_dispatchProgram (hlocal : s.store.isSimulated = false)
    (program rest command : String) :
    Veiled s (dispatchProgram program rest command) marked
      (s.InChallenge ∧ program ∈ makers ∧
        ∃ x ∈ Text.words rest, Likeness.isFlag x = false ∧ FreeOperand s x) := by
  unfold dispatchProgram
  split
  · exact Veiled.of_idle (Runs.pure (Still.refl s)) (by simp [makers])
  · exact Veiled.of_idle (Runs.pure (Still.refl s)) (by simp [makers])
  · exact Veiled.of_idle (Runs.of_quiet quiet_hint).bind_pure (by simp [makers])
  · exact Veiled.of_idle runs_hack (by simp [makers])
  · exact Veiled.of_idle (Runs.of_quiet (quiet_amuse _)).bind_pure (by simp [makers])
  · exact Veiled.of_idle (Runs.of_quiet (quiet_amuse _)).bind_pure (by simp [makers])
  · refine Veiled.get_bind ?_
    split
    · rename_i hvirtual
      have hinside := (inVirtualTree_iff hlocal).mp hvirtual
      refine ((Veiled.of_marked (runs_runVirtual hlocal program rest command)
        (endsIn_runVirtual program rest command)).map fun _ => Iff.rfl).congr ?_
      exact (and_iff_right hinside).symm
    · rename_i hvirtual
      have houtside := mt (inVirtualTree_iff hlocal).mpr hvirtual
      exact Veiled.of_unmarked (EndsIn.bind fun _ _ => EndsIn.pure Bool.false_ne_true)
        fun h => houtside h.1

/-! ## Routing -/

/-- The command reads a single file. -/
def ReadsOne (command : String) : Prop :=
  (Text.splitAtBlank command).1 = "cat" ∧ ∃ path, operandsOf command = [path]

/-- Inside the challenge the command runs something for a free operand, and does not tell. -/
def Hides (s : Session) (command : String) : Prop :=
  s.InChallenge ∧ ¬ ReadsOne command ∧
    ∃ x ∈ operandsOf command, FreeOperand s x

theorem veiled_dispatch (hlocal : s.store.isSimulated = false) (command : String) :
    Veiled s (dispatch command) marked (Hides s command) := by
  unfold Hides ReadsOne operandsOf
  cases hsplit : Text.splitAtBlank command with
  | mk program rest =>
      dsimp only
      by_cases hcat : program = "cat"
      · subst hcat
        rw [dispatch_cat hsplit]
        refine ((veiled_cat hlocal rest).map fun _ => Iff.rfl).congr ?_
        simp
      · by_cases hls : program = "ls"
        · subst hls
          rw [dispatch_ls hsplit]
          -- The one operand of a listing is the empty word if none is named.
          refine ((veiled_listing hlocal rest).map fun _ => Iff.rfl).congr ?_
          simp
        · by_cases hcd : program = "cd"
          · subst hcd
            rw [dispatch_cd hsplit]
            exact Veiled.of_idle (runs_cd hlocal rest).bind_pure (by simp [makers])
          · cases hparse : Redirect.parse? command with
            | some write =>
                -- A write takes no operands one by one, so there is nothing that it could hide.
                have hecho : program = "echo" := by
                  rw [← Redirect.program_of_parse? hparse, hsplit]
                subst hecho
                rw [dispatch_redirect hparse]
                refine ((veiled_redirect hlocal command write).map fun _ => Iff.rfl).congr ?_
                simp [makers]
            | none =>
                rw [dispatch_other hsplit hcat hls hcd hparse]
                refine (veiled_dispatchProgram hlocal program rest command).congr ?_
                rw [if_neg hcat, if_neg hls]
                by_cases hmaker : program ∈ makers <;> simp [hcat, hmaker, and_assoc]

/-- Whoever answers: if the result of the command is marked as simulated, then nothing was run in
the real shell on its way. -/
def HonestRoute (s : Session) (command : String) (workingDirectory : Option String) : Prop :=
  ∀ asked result s', ((route command workingDirectory).run s).Course asked (result, s') →
    result.isSimulated = true → ∀ q ∈ asked, ¬ q.isRun = true

variable {command : String} {workingDirectory : Option String}

theorem honestRoute_of_idle (h : EnsuresFrom (fun q => ¬ q.isRun = true) (fun _ _ => True) s
    (route command workingDirectory)) : HonestRoute s command workingDirectory :=
  fun asked result s' hcourse _ => avoids_iff_course.mp h.avoids asked (result, s') hcourse

theorem honestRoute_of_unmarked (h : EndsIn s (route command workingDirectory)
    fun r => ¬ r.isSimulated = true) : HonestRoute s command workingDirectory := by
  intro asked result s' hcourse hmarked
  unfold EndsIn EnsuresFrom at h
  exact absurd hmarked (h.of_course hcourse).2

/-- A route that runs something and is marked whoever answers is not honest. -/
theorem not_honestRoute
    (hruns : ReachesFrom (fun q => q.isRun = true) s (route command workingDirectory))
    (hmarked : EndsIn s (route command workingDirectory) fun r => r.isSimulated = true) :
    ¬ HonestRoute s command workingDirectory := by
  intro hhonest
  unfold ReachesFrom at hruns
  unfold EndsIn EnsuresFrom at hmarked
  obtain ⟨asked, ⟨result, s'⟩, hcourse⟩ := exists_course ((route command workingDirectory).run s)
  obtain ⟨q, hq, hrun⟩ := hruns.of_course hcourse
  exact hhonest asked result s' hcourse (hmarked.of_course hcourse).2 q hq hrun

/-- What routing ends in is told from what dispatching ends in. -/
theorem endsIn_route {post : Except RouteError Outcome → Prop} {post' : ExecutionResult → Prop}
    (h : EndsIn (entering s workingDirectory) (dispatch (Text.trim command)) post)
    (hpost : ∀ s' r, post r → post' (resultAt s' r)) :
    EndsIn s (route command workingDirectory) post' :=
  ensuresFrom_route_entering.mpr (EnsuresFrom.mono h (fun _ hq => hq) fun r s' => hpost s' r)

theorem not_honestRoute_of_hides (h : Hides (entering s workingDirectory) (Text.trim command)) :
    ¬ HonestRoute s command workingDirectory := by
  have hveiled := veiled_dispatch h.1.notSimulated (Text.trim command)
  obtain ⟨hruns, hmarked⟩ := hveiled.hidden h
  exact not_honestRoute (reachesFrom_route hruns)
    (endsIn_route hmarked fun s' r => (isSimulated_resultAt s' r).mpr)

/-- **A result is honest exactly** unless the command hides what it runs: it is an `ls`, `mkdir` or
`touch`, or a `cat` of several files, given inside the challenge on the user's own machine, with an
operand that is free. -/
theorem honestRoute_iff (s : Session) (command : String) (workingDirectory : Option String) :
    HonestRoute s command workingDirectory ↔
      ¬ Hides (entering s workingDirectory) (Text.trim command) := by
  constructor
  · exact fun hhonest hhides => not_honestRoute_of_hides hhides hhonest
  · intro hplain
    by_cases hlocal : (entering s workingDirectory).store.isSimulated = false
    · rcases (veiled_dispatch hlocal (Text.trim command)).plain hplain with hidle | hunmarked
      · exact honestRoute_of_idle (ensuresFrom_route_entering.mpr hidle)
      · exact honestRoute_of_unmarked
          (endsIn_route hunmarked fun s' r => mt (isSimulated_resultAt s' r).mp)
    · -- In the demo there is no call, so every result is honest.
      have hadmitted := admitted_route s command workingDirectory
      exact honestRoute_of_idle (hadmitted.mono (fun q hq => hq.not_isRun hlocal)
        fun _ _ hend => hend)

/-- To list a directory of the machine from inside the challenge is marked as simulated. -/
theorem listing_not_honest : ¬ HonestRoute ownMachine "ls /etc" (some "/var/games") := by
  refine not_honestRoute_of_hides ⟨⟨rfl, by decide +kernel⟩, ?_, "/etc", ?_, ?_⟩
  · rintro ⟨hcat, -⟩
    exact absurd hcat (by decide +kernel)
  · decide +kernel
  · decide +kernel

end Router

end PlainTerminal
