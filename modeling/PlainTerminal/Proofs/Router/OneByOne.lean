import PlainTerminal.Proofs.Router.Builtins
import PlainTerminal.Proofs.Router.Submission

/-!
# Several operands are one after the other

In the demo, `cat`, `mkdir` and `touch` do to each of their operands what they do to a single one,
from the first to the last. So a command with several operands is worth as many commands with one:
the same is asked and the same session is left, whoever answers, and what is told is the single
results put together.

The operands may have to do with each other. A directory is made and then one inside of it, or the
last code opens what the next operand names. That is why the statement is about whole actions from
one session, and the induction along the operands is over every session in the demo.
-/

namespace PlainTerminal

open Dialogue

namespace CommandResult

/-- The errors of the results that are failures, in order. -/
def errors (results : List CommandResult) : List String :=
  (results.filter fun r => !r.success).map stderr

/-- Results put together: what they printed in a row, and the errors of the failures, each on a line
of its own. It is a success if all of them are, and else the exit code is one. -/
def merge (results : List CommandResult) : CommandResult where
  stdout := String.join (results.map stdout)
  stderr := "\n".intercalate (errors results)
  exitCode := if results.all success then 0 else 1
  success := results.all success

theorem all_success_eq (results : List CommandResult) :
    results.all success = decide (errors results = []) := by
  unfold errors
  rw [Bool.eq_iff_iff, decide_eq_true_iff, List.all_eq_true, List.map_eq_nil_iff,
    List.filter_eq_nil_iff]
  simp only [Bool.not_eq_true', Bool.not_eq_false]

theorem merge_eq (results : List CommandResult) :
    merge results =
      if errors results = [] then ok (String.join (results.map stdout))
      else { failure ("\n".intercalate (errors results)) 1 with
        stdout := String.join (results.map stdout) } := by
  unfold merge
  rw [all_success_eq]
  by_cases h : errors results = []
  · rw [if_pos h, h]
    rfl
  · rw [if_neg h, decide_eq_false h]
    rfl

/-- A result with text if it succeeded and with an error if it failed, and never with both. -/
def IsPlain (r : CommandResult) : Prop :=
  (∃ text, r = ok text) ∨ ∃ error, r = failure error 1

theorem IsPlain.merge_singleton {r : CommandResult} (h : r.IsPlain) : merge [r] = r := by
  rcases h with ⟨text, rfl⟩ | ⟨error, rfl⟩
  · simp [merge, errors, ok]
  · simp [merge, errors, failure]

/-- What is told of something that prints nothing: the error, if there was one. -/
def told : Option String → CommandResult
  | none => ok ""
  | some error => failure error 1

theorem isPlain_told (error : Option String) : (told error).IsPlain := by
  cases error with
  | none => exact Or.inl ⟨"", rfl⟩
  | some error => exact Or.inr ⟨error, rfl⟩

theorem join_map_stdout_told (outcomes : List (Option String)) :
    String.join ((outcomes.map told).map stdout) = "" := by
  induction outcomes with
  | nil => rfl
  | cons outcome rest ih =>
      rw [List.map_cons, List.map_cons, String.join_cons, ih]
      cases outcome with
      | none => rfl
      | some error => rfl

theorem errors_map_told (outcomes : List (Option String)) :
    errors (outcomes.map told) = outcomes.filterMap id := by
  unfold errors
  induction outcomes with
  | nil => rfl
  | cons outcome rest ih =>
      rw [List.map_cons]
      cases outcome with
      | none =>
          rw [List.filter_cons_of_neg (by decide), ih]
          rfl
      | some error =>
          rw [List.filter_cons_of_pos rfl, List.map_cons, ih]
          rfl

/-- Where nothing is printed, the errors are all there is to put together. -/
theorem merge_map_told (outcomes : List (Option String)) :
    merge (outcomes.map told) =
      if outcomes.filterMap id = [] then ok ""
      else failure ("\n".intercalate (outcomes.filterMap id)) 1 := by
  rw [merge_eq, errors_map_told, join_map_stdout_told]
  rfl

end CommandResult

open CommandResult

/-! ## One operand -/

/-- The programs that do the same to each of their operands. -/
inductive OperandProgram where
  | cat
  | mkdir
  | touch
deriving DecidableEq, Repr

namespace OperandProgram

/-- The word for a program. -/
def name : OperandProgram → String
  | cat => "cat"
  | mkdir => "mkdir"
  | touch => "touch"

/-- What a program does to one operand. -/
def one : OperandProgram → String → Action CommandResult
  | cat, operand => do return (← Router.catOne operand).result
  | mkdir, operand => do return told (← Router.mkdirOne operand)
  | touch, operand => do return told (← Router.touchOne operand)

/-- The word is an operand to the program: `mkdir` and `touch` pass over options. -/
def takes : OperandProgram → String → Bool
  | cat, _ => true
  | mkdir, word => !Likeness.isFlag word
  | touch, word => !Likeness.isFlag word

/-- The command that names one operand. -/
def line (p : OperandProgram) (operand : String) : String := p.name ++ " " ++ operand

theorem words_line (p : OperandProgram) {operand : String} (h : Text.IsWord operand.toList) :
    Text.words (p.line operand) = [p.name, operand] := by
  have hname : Text.words p.name = [p.name] := by
    cases p with
    | cat => decide +kernel
    | mkdir => decide +kernel
    | touch => decide +kernel
  have hoperand := Text.words_word h
  rw [String.ofList_toList] at hoperand
  have hwords := Text.words_intercalate [p.name, operand]
  rw [List.flatMap_cons, List.flatMap_singleton, hname, hoperand] at hwords
  exact hwords

end OperandProgram

namespace Router

variable {s : Session}

/-- The outcome of a command in the demo that does one thing. -/
def Plain (outcome : Outcome) : Prop := outcome.isSimulated = true ∧ outcome.result.IsPlain

theorem plain_ok (text : String) : Plain (.ok text) := ⟨rfl, Or.inl ⟨text, rfl⟩⟩

theorem plain_failure (error : String) : Plain (.failure error 1) := ⟨rfl, Or.inr ⟨error, rfl⟩⟩

theorem plain_catChallenge (path place : String) :
    EnsuresFrom (fun _ => True) (fun outcome _ => Plain outcome) s (catChallenge path place) := by
  unfold catChallenge
  rw [ensuresFrom_bind, ensuresFrom_get]
  split
  · -- the lock is in the way
    exact ensuresFrom_pure.mpr (plain_failure _)
  · split
    · rw [ensuresFrom_bind]
      exact (ensuresFrom_true _ s).mono (fun _ hq => hq) fun text _ _ =>
        ensuresFrom_pure.mpr (plain_ok text)
    · split
      · -- the last file shows the ending or the codes that are missing
        dsimp only
        rw [ensuresFrom_bind, ensuresFrom_set]
        split
        · exact ensuresFrom_pure.mpr (plain_ok _)
        · exact ensuresFrom_pure.mpr (plain_failure _)
      · split
        · exact ensuresFrom_pure.mpr (plain_failure _)
        · exact ensuresFrom_pure.mpr (plain_failure _)
        · split
          · exact ensuresFrom_pure.mpr (plain_ok _)
          · dsimp only
            rw [ensuresFrom_bind, ensuresFrom_set]
            exact ensuresFrom_pure.mpr (plain_ok _)

theorem plain_catOne (hsim : s.store.isSimulated = true) (path : String) :
    EnsuresFrom (fun _ => True) (fun outcome _ => Plain outcome) s (catOne path) := by
  by_cases hin : Challenge.contains (s.placeOf path) = true
  · unfold catOne
    rw [ensuresFrom_bind, ensuresFrom_get]
    dsimp only
    rw [if_pos hin]
    exact plain_catChallenge path _
  · rw [ensuresFrom_of_run (run_catOne hsim (Bool.not_eq_true _ ▸ hin))]
    unfold Store.read
    split
    · exact plain_ok _
    · exact plain_failure _

/-- One operand leaves a plain result, and the session in the demo. -/
theorem plain_one (p : OperandProgram) (hsim : s.store.isSimulated = true) (operand : String) :
    EnsuresFrom (fun _ => True) (fun r s' => r.IsPlain ∧ s'.store.isSimulated = true) s
      (p.one operand) := by
  have htold : ∀ action : Action (Option String), SteadyFrom s action →
      EnsuresFrom (fun _ => True) (fun r s' => r.IsPlain ∧ s'.store.isSimulated = true) s
        (do return told (← action)) := by
    intro action hsteady
    rw [ensuresFrom_bind]
    refine EnsuresFrom.mono hsteady (fun _ hq => hq) ?_
    rintro error _ ⟨tree, rfl⟩
    exact ensuresFrom_pure.mpr ⟨isPlain_told error, hsim⟩
  cases p with
  | cat =>
      unfold OperandProgram.one
      rw [ensuresFrom_bind]
      refine ((plain_catOne hsim operand).and (ensuresFrom_catOne operand)).mono
        (fun _ hq => hq) ?_
      rintro outcome _ ⟨hplain, rfl⟩
      exact ensuresFrom_pure.mpr ⟨hplain.2, hsim⟩
  | mkdir => exact htold _ (steady_mkdirOne operand)
  | touch => exact htold _ (steady_touchOne operand)

/-! ## All operands of a command -/

theorem catAll_eq (paths : List String) : catAll paths = (do
    let parts ← paths.mapM OperandProgram.cat.one
    return (parts.map stdout, errors parts)) := by
  induction paths with
  | nil => rfl
  | cons path rest ih =>
      unfold catAll
      rw [ih, List.mapM_cons]
      unfold OperandProgram.one
      simp only [LawfulMonad.bind_assoc, pure_bind]
      refine bind_congr fun outcome => bind_congr fun parts => ?_
      -- the first part adds its error only if it is a failure
      unfold errors
      rw [List.map_cons]
      cases hsuccess : outcome.result.success with
      | true =>
          rw [List.filter_cons_of_neg (by rw [hsuccess]; decide)]
          rfl
      | false =>
          rw [List.filter_cons_of_pos (by rw [hsuccess]; rfl)]
          rfl

/-- What `cat` does in the demo. A single file is not read by the loop, so its result is put
together from itself alone. -/
theorem run_cat (hsim : s.store.isSimulated = true) {rest : String} (hne : Text.words rest ≠ []) :
    (cat rest).run s = (do
      let parts ← (Text.words rest).mapM OperandProgram.cat.one
      return Outcome.simulated (merge parts) : Action Outcome).run s := by
  have hvirtual : s.inVirtualTree = true := inVirtualTree_of_isSimulated hsim
  unfold cat
  rw [run_get_bind]
  match hwords : Text.words rest with
  | [] => exact absurd hwords hne
  | [path] =>
      -- a plain result put together from itself alone is the same, and in the demo it is plain
      have hmerged := (plain_catOne hsim path).run_bind_congr (f := pure)
        (g := fun outcome => pure (Outcome.simulated (merge [outcome.result]))) <| by
          rintro ⟨result, isSimulated⟩ s' ⟨rfl, hplain⟩
          rw [hplain.merge_singleton]
          rfl
      rw [bind_pure] at hmerged
      rw [List.mapM_cons, List.mapM_nil]
      unfold OperandProgram.one
      simp only [LawfulMonad.bind_assoc, pure_bind]
      exact hmerged
  | first :: second :: others =>
      dsimp only
      -- the loop keeps texts and errors apart, and they are put together at its end
      rw [if_pos hvirtual, catAll_eq, LawfulMonad.bind_assoc]
      refine congrFun (congrArg StateT.run (bind_congr fun parts => ?_)) s
      rw [pure_bind, merge_eq]
      dsimp only
      split
      · rfl
      · rfl

theorem mapM_told (one : String → Action (Option String)) (operands : List String) :
    (operands.mapM fun operand => do return told (← one operand)) = (do
      return (← operands.mapM one).map told) := by
  induction operands with
  | nil => rfl
  | cons operand rest ih =>
      rw [List.mapM_cons, List.mapM_cons, ih]
      simp only [LawfulMonad.bind_assoc, pure_bind]
      rfl

theorem forOperands_eq {rest : String} {one : String → Action (Option String)} (program : String)
    (hne : Text.words rest ≠ [])
    (htakes : ∀ word ∈ Text.words rest, (!Likeness.isFlag word) = true) :
    forOperands program rest one = (do
      return merge (← (Text.words rest).mapM fun operand => do
        return told (← one operand))) := by
  unfold forOperands
  rw [List.filter_eq_self.mpr htakes, mapM_told, LawfulMonad.bind_assoc]
  cases hwords : Text.words rest with
  | nil => exact absurd hwords hne
  | cons first others =>
      dsimp only
      refine bind_congr fun outcomes => ?_
      rw [pure_bind, merge_map_told]
      split
      · rfl
      · rfl

/-- A program of the virtual machine is carried out there. -/
theorem run_dispatch_builtin (hvirtual : s.inVirtualTree = true) {command program rest : String}
    (hsplit : Text.splitAtBlank command = (program, rest))
    (hother : program ∉ ["cat", "ls", "cd", "echo"]) (hprogram : program ∉ builtins)
    {action : Action CommandResult} (haction : simulatedBuiltin? program rest = some action) :
    (dispatch command).run s = (do
      return .ok (.simulated (← action)) : Action (Except RouteError Outcome)).run s := by
  simp only [List.mem_cons, List.not_mem_nil, or_false, not_or] at hother
  obtain ⟨hcat, hls, hcd, hecho⟩ := hother
  have hparse := Redirect.parse?_eq_none_of_program hsplit hecho
  rw [dispatch_other hsplit hcat hls hcd hparse, dispatchProgram_of_not_mem hprogram, run_get_bind,
    if_pos hvirtual]
  unfold runVirtual
  rw [haction]
  dsimp only
  rw [LawfulMonad.bind_assoc]
  rfl

variable {p : OperandProgram} {command : String} {operands : List String}

/-- Dispatching a command with operands comes to what it does to each of them, put together. -/
theorem run_dispatch (hsim : s.store.isSimulated = true)
    (hwords : Text.words command = p.name :: operands) (hne : operands ≠ [])
    (htakes : ∀ operand ∈ operands, p.takes operand = true) :
    (dispatch (Text.trim command)).run s = (do
      let parts ← operands.mapM p.one
      return .ok (.simulated (merge parts)) : Action (Except RouteError Outcome)).run s := by
  obtain ⟨rest, hsplit, rfl⟩ := Text.splitAtBlank_of_words hwords
  have hvirtual : s.inVirtualTree = true := inVirtualTree_of_isSimulated hsim
  cases p with
  | cat =>
      rw [dispatch_cat hsplit, run_bind_left (run_cat hsim hne), LawfulMonad.bind_assoc]
      rfl
  | mkdir =>
      rw [run_dispatch_builtin hvirtual hsplit (by decide) (by decide) rfl,
        forOperands_eq "mkdir" hne htakes, LawfulMonad.bind_assoc]
      rfl
  | touch =>
      rw [run_dispatch_builtin hvirtual hsplit (by decide) (by decide) rfl,
        forOperands_eq "touch" hne htakes, LawfulMonad.bind_assoc]
      rfl

/-- Routing it tells just that, and where the terminal stands afterwards. -/
theorem run_route_operands (hsim : s.store.isSimulated = true)
    (hwords : Text.words command = p.name :: operands) (hne : operands ≠ [])
    (htakes : ∀ operand ∈ operands, p.takes operand = true) :
    (route command none).run s = (do
      let parts ← operands.mapM p.one
      return ⟨merge parts, (← get).cwd, true⟩ : Action ExecutionResult).run s := by
  rw [route_eq, run_bind_left (run_dispatch hsim hwords hne htakes), LawfulMonad.bind_assoc]
  rfl

theorem run_route_line (hsim : s.store.isSimulated = true) {operand : String}
    (hword : Text.IsWord operand.toList) (htakes : p.takes operand = true) :
    (route (p.line operand) none).run s = (do
      let part ← p.one operand
      return ⟨part, (← get).cwd, true⟩ : Action ExecutionResult).run s := by
  rw [run_route_operands hsim (p.words_line hword) (List.cons_ne_nil _ _)
    (List.forall_mem_singleton.mpr htakes), List.mapM_cons, List.mapM_nil]
  simp only [LawfulMonad.bind_assoc, pure_bind]
  refine (plain_one p hsim operand).run_bind_congr ?_
  rintro part s' ⟨hplain, -⟩
  rw [hplain.merge_singleton]

/-- One by one, the commands come to what the program does to the operands. Each of them starts from
what those before it have left, which is still a session in the demo. -/
theorem run_routeAll_lines (hsim : s.store.isSimulated = true)
    (hwords : ∀ operand ∈ operands, Text.IsWord operand.toList)
    (htakes : ∀ operand ∈ operands, p.takes operand = true) :
    (do
      let results ← routeAll (operands.map p.line)
      return results.map ExecutionResult.result : Action (List CommandResult)).run s =
      (operands.mapM p.one).run s := by
  induction operands generalizing s with
  | nil => rfl
  | cons operand rest ih =>
      obtain ⟨hword, hwords'⟩ := List.forall_mem_cons.mp hwords
      obtain ⟨htake, htakes'⟩ := List.forall_mem_cons.mp htakes
      unfold routeAll at ih ⊢
      rw [List.map_cons, List.mapM_cons, List.mapM_cons, LawfulMonad.bind_assoc,
        run_bind_left (run_route_line hsim hword htake), LawfulMonad.bind_assoc]
      -- wherever the first command has led, the induction takes over from there
      refine (plain_one p hsim operand).run_bind_congr ?_
      rintro part s' ⟨-, hsim'⟩
      simp only [LawfulMonad.bind_assoc, pure_bind]
      rw [run_get_bind, ← run_bind_left (ih hsim' hwords' htakes')]
      simp only [LawfulMonad.bind_assoc, pure_bind]
      rfl

/-- **Several operands are one after the other.** In the demo, a command that names operands to
`cat`, `mkdir` or `touch`, with any blanks between them, is the commands that name one operand each,
in order: it asks the same and leaves the same session, whoever answers, and it tells their results
put together. -/
theorem run_route_eq_one_by_one (p : OperandProgram) (s : Session)
    (hsim : s.store.isSimulated = true) {command : String} {operands : List String}
    (hwords : Text.words command = p.name :: operands) (hne : operands ≠ [])
    (htakes : ∀ operand ∈ operands, p.takes operand = true) :
    (route command none).run s = (do
      let results ← routeAll (operands.map p.line)
      return ⟨merge (results.map ExecutionResult.result), (← get).cwd, true⟩ :
        Action ExecutionResult).run s := by
  have hwords' : ∀ operand ∈ operands, Text.IsWord operand.toList := by
    intro operand hoperand
    have hmem : operand ∈ Text.words command := by
      rw [hwords]
      exact List.mem_cons_of_mem _ hoperand
    exact Text.isWord_of_mem_words hmem
  rw [run_route_operands hsim hwords hne htakes,
    ← run_bind_left (run_routeAll_lines hsim hwords' htakes), LawfulMonad.bind_assoc]
  rfl

/-- A directory and one inside of it, in one command or in two. -/
theorem mkdir_one_by_one : demo.store.isSimulated = true ∧
    Text.words "mkdir a  a/b" = ["mkdir", "a", "a/b"] ∧
    (∀ operand ∈ ["a", "a/b"], OperandProgram.mkdir.takes operand = true) ∧
    (route "mkdir a  a/b" none).run demo = (do
      let results ← routeAll ["mkdir a", "mkdir a/b"]
      return ⟨merge (results.map ExecutionResult.result), (← get).cwd, true⟩ :
        Action ExecutionResult).run demo := by
  have hsim : demo.store.isSimulated = true := by decide +kernel
  have hwords : Text.words "mkdir a  a/b" = ["mkdir", "a", "a/b"] := by decide +kernel
  have htakes : ∀ operand ∈ ["a", "a/b"], OperandProgram.mkdir.takes operand = true := by decide
  exact ⟨hsim, hwords, htakes,
    run_route_eq_one_by_one .mkdir demo hsim hwords (by decide) htakes⟩

end Router

end PlainTerminal
