import PlainTerminal.Proofs.Dialogue.Reliance
import PlainTerminal.Proofs.Router.RealShell

/-!
# Who keeps the working directory

The shell that runs a command is gone when the command is done, and with it the directory that a
`cd` would have changed. So the executor keeps the working directory itself: a command whose first
word is `cd` is for the executor to carry out, and whatever else is run leaves the directory alone.

A command is told to be a `cd` by the two letters and a space. A first word ends at any blank,
though, and a `cd` that ends at another one than a space slips through to the shell. Without such
commands the working directory after a run is told by the commands and their results alone.
-/

namespace PlainTerminal

open Dialogue

/-- The real directories are those that `isDir` says. -/
def Question.ToldBy (isDir : String → Bool) : (q : Question) → q.Answer → Prop
  | .isDirectory path, there => there = isDir path
  | _, _ => True

namespace Executor

variable {e : Executor} {command : String} {options : RunOptions}

/-- The first word of the command is `cd`. -/
def IsCd (command : String) : Prop := (Text.words command).head? = some "cd"

instance : DecidablePred IsCd := fun _ => inferInstanceAs (Decidable (_ = _))

/-- What is typed behind the first word. -/
def operand (command : String) : String := (Text.splitAtBlank (Text.trim command)).2

/-- Where a `cd` leads as seen from `base`: home, or where its operand does. -/
def goalFrom (base home command : String) : String :=
  if operand command = "" then Path.normalize base home
  else resolveFrom base home (operand command)

/-- Where a `cd` with these options leads. -/
def goal (e : Executor) (command : String) (options : RunOptions) : String :=
  goalFrom (options.workingDirectory.getD e.cwd) e.homeDirectory command

/-- The two letters are followed by a blank that is no space. -/
def Slips (command : String) : Prop :=
  ∃ blank rest, (Text.trim command).toList = 'c' :: 'd' :: blank :: rest ∧
    Text.isBlank blank = true ∧ blank ≠ ' '

/-- Unless the command is refused, the executor carries it out itself if it is a `cd`, and keeps its
working directory if it is something else. -/
structure OwnsCd (e : Executor) (command : String) (options : RunOptions) : Prop where
  /-- Nothing is run for a `cd`. -/
  not_run : Policy.violation? command = none → IsCd command →
    (e.execute command options).Avoids fun q => q.isRun = true
  /-- It leads to its goal if there is a directory, and else it fails. -/
  leads : Policy.violation? command = none → IsCd command → ∀ isDir : String → Bool,
    (e.execute command options).EnsuresIf (Question.ToldBy isDir) fun r =>
      if isDir (e.goal command options) then
        r.1.success = true ∧ r.2.cwd = e.goal command options
      else r.1.exitCode = 1 ∧ r.2.cwd = e.cwd
  /-- Nothing else changes the working directory. -/
  stays : Policy.violation? command = none → ¬ IsCd command →
    (e.execute command options).Ensures (fun _ => True) fun r => r.2.cwd = e.cwd

/-! ## What is a `cd` -/

/-- The two forms of a `cd`. -/
theorem IsCd.cases (h : IsCd command) :
    ((Text.trim command).toList = ['c', 'd'] ∧ operand command = "") ∨
      ∃ blank rest, Text.isBlank blank = true ∧
        (Text.trim command).toList = 'c' :: 'd' :: blank :: rest ∧
        operand command = Text.trim (String.ofList rest) := by
  have hfirst : (Text.splitAtBlank (Text.trim command)).1 = "cd" := by
    rw [← Text.headD_words, List.headD_eq_head?_getD, h]
    rfl
  unfold operand
  rcases (Text.splitAtBlank_cases (Text.trim command)).2 with ⟨hall, hrest⟩ |
    ⟨blank, rest, hblank, htext, hrest⟩
  · rw [hfirst] at hall
    exact .inl ⟨by rw [hall]; rfl, hrest⟩
  · rw [hfirst] at htext
    exact .inr ⟨blank, rest, hblank, htext, hrest⟩

/-- A `cd` that does not slip is the executor's. -/
theorem IsCd.cdTarget? (h : IsCd command) (hnot : ¬ Slips command) :
    cdTarget? (Text.trim command) = some (operand command) := by
  unfold Executor.cdTarget?
  rcases h.cases with ⟨htext, hoperand⟩ | ⟨blank, rest, hblank, htext, hoperand⟩
  · rw [htext, hoperand]
    rfl
  · obtain rfl : blank = ' ' := by
      by_contra hother
      exact hnot ⟨blank, rest, htext, hblank, hother⟩
    rw [htext, hoperand]
    rfl

theorem cdTarget?_of_not_isCd (h : ¬ IsCd command) : cdTarget? (Text.trim command) = none := by
  refine cdTarget?_of_program fun hfirst => h ?_
  rw [← Text.headD_words] at hfirst
  cases hwords : Text.words command with
  | nil =>
      rw [hwords] at hfirst
      exact absurd hfirst (by decide)
  | cons first others =>
      rw [hwords] at hfirst
      unfold IsCd
      rw [hwords]
      exact congrArg some hfirst

/-- What slips is a `cd`, and not taken for one. -/
theorem Slips.isCd (h : Slips command) : IsCd command := by
  obtain ⟨blank, rest, htext, hblank, -⟩ := h
  have htrim : Text.trim command = String.ofList (['c', 'd'] ++ blank :: rest) := by
    rw [← String.ofList_toList (s := Text.trim command), htext]
    rfl
  have hwords := Text.wordsOf_append_cons ['c', 'd'] rest hblank
  unfold IsCd
  rw [← Text.words_trim, htrim, Text.words, String.toList_ofList, hwords]
  rfl

theorem Slips.cdTarget? (h : Slips command) : cdTarget? (Text.trim command) = none := by
  obtain ⟨blank, rest, htext, -, hother⟩ := h
  unfold Executor.cdTarget?
  rw [htext]
  split
  · rename_i heq
    cases heq
  · rename_i heq
    have hspace : blank = ' ' := (List.cons.inj (List.cons.inj (List.cons.inj heq).2).2).1
    exact absurd hspace hother
  · rfl

/-! ## One command -/

/-- What comes of a `cd`, once it is known whether its goal is there. -/
def arrive (e : Executor) (command : String) (options : RunOptions) (there : Bool) :
    CommandResult × Executor :=
  if there then (.ok "", { e with cwd := e.goal command options })
  else
    (.failure ("cd: " ++ (if operand command = "" then "~" else operand command) ++
      ": No such file or directory") 1, e)

/-- A `cd` as the executor carries it out. -/
theorem execute_cd (hpasses : Policy.violation? command = none) (hcd : IsCd command)
    (hnot : ¬ Slips command) (e : Executor) (options : RunOptions) :
    e.execute command options = ask (.isDirectory (e.goal command options))
      fun there => done (e.arrive command options there) := by
  have hplace : e.goal command options =
      resolveFrom (options.workingDirectory.getD e.cwd) e.homeDirectory
        (if operand command = "" then "~" else operand command) := by
    unfold goal goalFrom
    split
    · rfl
    · rfl
  unfold execute arrive
  rw [hpasses]
  dsimp only
  rw [hcd.cdTarget? hnot, hplace]
  refine congrArg (ask _) (funext fun there => ?_)
  cases there with
  | true => rfl
  | false => rfl

/-- Everything else as the executor has it run. -/
theorem execute_other (hpasses : Policy.violation? command = none)
    (hother : cdTarget? (Text.trim command) = none) (e : Executor) (options : RunOptions) :
    e.execute command options =
      ask (.runCommand ⟨Text.trim command, options.workingDirectory.getD e.cwd, options.limits⟩)
        fun result => done (result, e) := by
  unfold execute
  rw [hpasses]
  dsimp only
  rw [hother]
  rfl

theorem ownsCd_iff (e : Executor) (command : String) (options : RunOptions) :
    e.OwnsCd command options ↔ (Policy.violation? command = none → ¬ Slips command) := by
  constructor
  · intro howns hpasses hslips
    -- The shell is asked, which it must not be.
    have hnot := howns.not_run hpasses hslips.isCd
    rw [execute_other hpasses hslips.cdTarget?] at hnot
    exact (ensures_ask.mp hnot).1 rfl
  · intro hnot
    refine ⟨fun hpasses hcd => ?_, fun hpasses hcd isDir => ?_, fun hpasses hother => ?_⟩
    · rw [execute_cd hpasses hcd (hnot hpasses)]
      exact ensures_ask.mpr ⟨nofun, fun _ => ensures_done.mpr trivial⟩
    · rw [execute_cd hpasses hcd (hnot hpasses), ensuresIf_ask]
      intro there htold
      obtain rfl : there = isDir (e.goal command options) := htold
      rw [ensuresIf_done]
      unfold arrive
      generalize e.goal command options = place
      split
      · exact ⟨rfl, rfl⟩
      · exact ⟨rfl, rfl⟩
    · rw [execute_other hpasses (cdTarget?_of_not_isCd hother)]
      exact ensures_ask.mpr ⟨trivial, fun _ => ensures_done.mpr rfl⟩

/-! ## A run -/

/-- Executes commands one after the other. -/
def executeAll (e : Executor) :
    List (String × RunOptions) → Dialogue (List CommandResult × Executor)
  | [] => return ([], e)
  | (command, options) :: rest => do
    let (result, e) ← e.execute command options
    let (results, e) ← e.executeAll rest
    return (result :: results, e)

/-- Where a command leads that had this result: a `cd` that succeeded to its goal, and
everything else nowhere. -/
def follow (home cwd : String) (executed : (String × RunOptions) × CommandResult) : String :=
  if IsCd executed.1.1 ∧ executed.2.success = true then
    goalFrom (executed.1.2.workingDirectory.getD cwd) home executed.1.1
  else cwd

/-- Where a command that does not slip leads, its result tells. -/
theorem ensures_execute_follow (hnot : Policy.violation? command = none → ¬ Slips command)
    (e : Executor) (options : RunOptions) :
    (e.execute command options).Ensures (fun _ => True) fun r =>
      r.2 = { e with cwd := follow e.homeDirectory e.cwd ((command, options), r.1) } := by
  unfold follow
  cases hpolicy : Policy.violation? command with
  | some violation =>
      -- A refusal is no success.
      unfold execute
      rw [hpolicy]
      refine ensures_done.mpr ?_
      rw [if_neg fun h => Bool.false_ne_true h.2]
  | none =>
      by_cases hcd : IsCd command
      · rw [execute_cd hpolicy hcd (hnot hpolicy)]
        refine ensures_ask.mpr ⟨trivial, fun there => ensures_done.mpr ?_⟩
        cases there with
        | true =>
            rw [if_pos ⟨hcd, rfl⟩]
            rfl
        | false =>
            rw [if_neg fun h => Bool.false_ne_true h.2]
            rfl
      · rw [execute_other hpolicy (cdTarget?_of_not_isCd hcd)]
        refine ensures_ask.mpr ⟨trivial, fun result => ensures_done.mpr ?_⟩
        rw [if_neg fun h => hcd h.1]

theorem ensures_executeAll_follow {commands : List (String × RunOptions)}
    (hnot : ∀ c ∈ commands, Policy.violation? c.1 = none → ¬ Slips c.1) (e : Executor) :
    (e.executeAll commands).Ensures (fun _ => True) fun r =>
      r.2.cwd = (commands.zip r.1).foldl (follow e.homeDirectory) e.cwd := by
  induction commands generalizing e with
  | nil => exact ensures_done.mpr rfl
  | cons c rest ih =>
      obtain ⟨command, options⟩ := c
      obtain ⟨hfirst, hrest⟩ := List.forall_mem_cons.mp hnot
      rw [executeAll, ensures_bind]
      refine (ensures_execute_follow hfirst e options).mono (fun _ hq => hq) fun r hr => ?_
      rw [ensures_bind]
      refine (ih hrest r.2).mono (fun _ hq => hq) fun rs hrs => ensures_done.mpr ?_
      rw [hrs, hr, List.zip_cons_cons, List.foldl_cons]
      rfl

/-- The executor owns the `cd`s of a run: it owns each of them from wherever it stands, and after
the run it stands where the successful ones have led, one after the other. -/
structure OwnsCds (e : Executor) (commands : List (String × RunOptions)) : Prop where
  each : ∀ c ∈ commands, ∀ cwd, { e with cwd := cwd }.OwnsCd c.1 c.2
  run : (e.executeAll commands).Ensures (fun _ => True) fun r =>
    r.2.cwd = (commands.zip r.1).foldl (follow e.homeDirectory) e.cwd

/-- **The executor owns the `cd`s of a run exactly if none of them slips.** -/
theorem ownsCds_iff (e : Executor) (commands : List (String × RunOptions)) :
    e.OwnsCds commands ↔
      ∀ c ∈ commands, Policy.violation? c.1 = none → ¬ Slips c.1 := by
  constructor
  · intro howns c hc
    exact (ownsCd_iff _ _ _).mp (howns.each c hc e.cwd)
  · intro hnot
    exact ⟨fun c hc _ => (ownsCd_iff _ _ _).mpr (hnot c hc), ensures_executeAll_follow hnot e⟩

/-- A `cd` with a tab behind it is run by the shell, and leads nowhere. -/
theorem tab_slips :
    ¬ (new "/home/user" "/home/user" ⟨30000, 1048576⟩).OwnsCds
      [("cd\t/tmp", { limits := ⟨30000, 1048576⟩ })] := by
  rw [ownsCds_iff]
  intro hnot
  refine hnot _ List.mem_cons_self (by decide +kernel) ⟨'\t', "/tmp".toList, ?_, ?_, ?_⟩
  · decide
  · decide
  · decide

end Executor

end PlainTerminal
