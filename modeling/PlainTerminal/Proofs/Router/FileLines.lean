import PlainTerminal.Proofs.Router.Calls
import PlainTerminal.Proofs.Shell.Reading

/-!
# The lines that files are handled by

On the user's own machine every operation on a file is one line for the real shell, in which what
the user typed stands in double quotes. The shell takes such a line for the command that was meant,
with the path and the content as words of their own, whatever characters are in them: quoting is
undone exactly, and the shell reads what is quoted just as it was quoted.
-/

namespace PlainTerminal

open Dialogue Shell

namespace Executor

/-- The executor runs a command from where it stands, without the blanks around it. -/
theorem ensures_command (e : Executor) (text : String) :
    (e.safeExecute text).Ensures (fun q => ∀ call, q = .runCommand call →
      call.command = Text.trim text ∧ call.directory = e.cwd) fun _ => True := by
  unfold safeExecute execute
  split
  · exact ensures_done.mpr trivial
  · dsimp only
    split
    · -- a `cd` is not run
      exact e.ensures_changeDirectory _ _ fun _ => nofun
    · refine ensures_ask.mpr ⟨fun call hcall => ?_, fun _ => ensures_done.mpr trivial⟩
      obtain rfl := Question.runCommand.inj hcall
      exact ⟨rfl, rfl⟩

end Executor

namespace Session

/-- What is done to files. -/
inductive FileOperation where
  | read (path : String)
  | list (path : String) (showHidden : Bool)
  | write (path content : String)
  | makeDirectory (path : String)

namespace FileOperation

/-- The action of a session that does it. -/
def action : FileOperation → Action FileResult
  | read path => contentOf path
  | list path showHidden => listDirectory path showHidden
  | write path content => createFile path content
  | makeDirectory path => createDirectory path

/-- The line that does it in the real shell. -/
def line : FileOperation → String
  | read path => "cat " ++ Quoted.quote path
  | list path showHidden =>
    "ls " ++ (if showHidden then "-la" else "-l") ++ " "
      ++ Quoted.quote (if path = "" then "." else path)
  | write path content => "echo " ++ Quoted.quote content ++ " > " ++ Quoted.quote path
  | makeDirectory path => "mkdir -p " ++ Quoted.quote path

/-- The words that the line is to have. -/
def words : FileOperation → List Word
  | read path => [[.text false "cat".toList], [.text true path.toList]]
  | list path showHidden =>
    [[.text false "ls".toList], [.text false (if showHidden then "-la" else "-l").toList],
      [.text true (if path = "" then "." else path).toList]]
  | write _ content => [[.text false "echo".toList], [.text true content.toList]]
  | makeDirectory path =>
    [[.text false "mkdir".toList], [.text false "-p".toList], [.text true path.toList]]

/-- Where the output is to go: a written text to the file, and nothing else anywhere. -/
def redirections : FileOperation → List Redirection
  | write path _ => [.mk 1 .output [.text true path.toList]]
  | _ => []

/-- The line as it is written down word by word. -/
theorem exists_written (op : FileOperation) : ∃ program operands file,
    op.line.toList = Reader.lineChars program operands file ∧ Reader.IsProgram program ∧
      (∀ w ∈ operands, w.Sound) ∧ (∀ w ∈ file, w.Sound) ∧
      op.words = (Reader.Written.bare program :: operands).map Reader.Written.word ∧
      op.redirections = file.toList.map Reader.toFile := by
  have hprogram : ∀ program ∈ ["cat", "ls", "echo", "mkdir"], Reader.IsProgram program.toList := by
    intro program hmem
    simp only [List.mem_cons, List.not_mem_nil, or_false] at hmem
    rcases hmem with rfl | rfl | rfl | rfl <;>
      exact ⟨by decide, List.all_iff_forall_prop.mp (by decide), by decide⟩
  cases op with
  | read path =>
      refine ⟨"cat".toList, [.quoted path.toList], none, ?_, hprogram _ (by decide), ?_, ?_, rfl,
        rfl⟩
      · simp [line, Quoted.quote, Reader.lineChars, Reader.operandChars, Reader.Written.chars]
      · simp [Reader.Written.Sound]
      · simp
  | list path showHidden =>
      refine ⟨"ls".toList, [.bare (if showHidden then "-la" else "-l").toList,
        .quoted (if path = "" then "." else path).toList], none, ?_, hprogram _ (by decide), ?_, ?_,
        rfl, rfl⟩
      · simp [line, Quoted.quote, Reader.lineChars, Reader.operandChars, Reader.Written.chars]
      · have hflags : (Reader.Written.bare (if showHidden then "-la" else "-l").toList).Sound := by
          cases showHidden <;> exact ⟨by decide, List.all_iff_forall_prop.mp (by decide)⟩
        simpa [Reader.Written.Sound] using hflags
      · simp
  | write path content =>
      refine ⟨"echo".toList, [.quoted content.toList], some (.quoted path.toList), ?_,
        hprogram _ (by decide), ?_, ?_, rfl, rfl⟩
      · simp [line, Quoted.quote, Reader.lineChars, Reader.operandChars, Reader.Written.chars]
      · simp [Reader.Written.Sound]
      · simp [Reader.Written.Sound]
  | makeDirectory path =>
      refine ⟨"mkdir".toList, [.bare "-p".toList, .quoted path.toList], none, ?_,
        hprogram _ (by decide), ?_, ?_, rfl, rfl⟩
      · simp [line, Quoted.quote, Reader.lineChars, Reader.operandChars, Reader.Written.chars]
      · have hflag : (Reader.Written.bare "-p".toList).Sound :=
          ⟨by decide, List.all_iff_forall_prop.mp (by decide)⟩
        simpa [Reader.Written.Sound] using hflag
      · simp

/-- The shell takes the line for the words that were meant. -/
theorem takenAs_line (op : FileOperation) : TakenAs op.line op.words op.redirections := by
  obtain ⟨program, operands, file, hline, hprogram, hoperands, hfile, hwords, hredirections⟩ :=
    op.exists_written
  rw [hwords, hredirections]
  exact takenAs_of_toList hline hprogram hoperands hfile

/-- Nothing is trimmed from the line: it begins with a letter and ends with a quote. -/
theorem trim_line (op : FileOperation) : Text.trim op.line = op.line := by
  have hhead : ∀ c, op.line.toList.head? = some c → c ∈ ['c', 'l', 'e', 'm'] := by
    cases op <;> simp [line]
  have hend : ∃ before last, op.line = before ++ Quoted.quote last := by
    cases op <;> exact ⟨_, _, rfl⟩
  have hlast : op.line.toList.getLast? = some '\x22' := by
    obtain ⟨before, last, hline⟩ := hend
    rw [hline, String.toList_append, Quoted.quote, String.toList_ofList, List.getLast?_append,
      Quoted.getLast?_quoteChars, Option.some_or]
  rw [Text.trim, Text.stripChars_eq_self, String.ofList_toList]
  · intro c hc
    have hletters : ∀ c ∈ ['c', 'l', 'e', 'm'], Text.isBlank c = false :=
      List.all_iff_forall_prop.mp (by decide)
    exact hletters c (hhead c hc)
  · intro c hc
    obtain rfl : '\x22' = c := Option.some.inj (hlast.symm.trans hc)
    decide

theorem cdTarget?_line (op : FileOperation) : Executor.cdTarget? (Text.trim op.line) = none := by
  cases op with
  | read path => exact cdTarget?_catQuoted path
  | list path showHidden => exact cdTarget?_lsQuoted showHidden _
  | write path content => exact cdTarget?_echoQuoted content path
  | makeDirectory path => exact cdTarget?_mkdirQuoted path

/-- On the user's own machine the operation is to run its line. -/
theorem run_action {s : Session} (hlocal : s.store.isSimulated = false) (op : FileOperation) :
    op.action.run s
      = (do return FileResult.ofCommand (← safeExecute op.line) : Action _).run s := by
  have hnot : ¬ s.store.isSimulated = true := Bool.eq_false_iff.mp hlocal
  cases op with
  | read path =>
      unfold action contentOf
      rw [StateT.run_bind, StateT.run_get, pure_bind, if_neg hnot]
      rfl
  | list path showHidden =>
      unfold action listDirectory
      rw [StateT.run_bind, StateT.run_get, pure_bind, if_neg hnot]
      rfl
  | write path content =>
      unfold action createFile
      rw [StateT.run_bind, StateT.run_get, pure_bind, if_neg hnot]
      rfl
  | makeDirectory path =>
      unfold action createDirectory
      rw [StateT.run_bind, StateT.run_get, pure_bind, if_neg hnot]
      rfl

theorem admitted_action (op : FileOperation) (s : Session) : Admitted s.Stays s op.action := by
  cases op with
  | read path => exact admitted_contentOf path
  | list path showHidden => exact admitted_listDirectory path showHidden
  | write path content => exact admitted_createFile path content
  | makeDirectory path => exact admitted_createDirectory path

/-- Whatever the operation runs is its line, from where the session stands. -/
theorem ensures_line (op : FileOperation) (s : Session) :
    EnsuresFrom (fun q => ∀ call, q = .runCommand call →
      call.command = op.line ∧ call.directory = s.cwd) (fun _ _ => True) s op.action := by
  by_cases hlocal : s.store.isSimulated = false
  · have hline : EnsuresFrom (fun q => ∀ call, q = .runCommand call →
        call.command = op.line ∧ call.directory = s.cwd) (fun _ _ => True) s
        (do return FileResult.ofCommand (← safeExecute op.line)) := by
      rw [ensuresFrom_bind, ensuresFrom_safeExecute]
      refine (s.executor.ensures_command op.line).mono (fun q hq call hcall => ?_)
        fun _ _ => ensuresFrom_pure.mpr trivial
      have hmade := hq call hcall
      rw [op.trim_line] at hmade
      exact hmade
    unfold EnsuresFrom at hline ⊢
    rwa [run_action hlocal]
  · -- in the demo nothing is run at all
    refine (op.admitted_action s).mono (fun q hq call hcall => ?_) fun _ _ _ => trivial
    exact absurd (hq call hcall).1 hlocal

/-- On the user's own machine the line is run unless the policy refuses it. -/
theorem runs_action {s : Session} (hlocal : s.store.isSimulated = false) (op : FileOperation) :
    Runs s.Still s op.action (Policy.violation? op.line = none) := by
  have hruns : Runs s.Still s (do return FileResult.ofCommand (← safeExecute op.line))
      (Policy.violation? op.line = none) := (runs_safeExecute op.cdTarget?_line).bind_pure
  obtain ⟨hreached, havoided⟩ := hruns
  refine ⟨fun h => ?_, fun h => ?_⟩
  · have hline := hreached h
    unfold ReachesFrom at hline ⊢
    rwa [run_action hlocal]
  · have hline := havoided h
    unfold EnsuresFrom at hline ⊢
    rwa [run_action hlocal]

end FileOperation

/-- **Quoting is exact, and nothing escapes from the quotes**: whatever follows it, a quoted text is
read up to its closing quote as the text that it is, without an expansion. So the shell takes the
line of an operation on files for one command of the words that were meant; nothing else is ever
run for the operation, and on the user's own machine that is run unless the policy refuses it. -/
theorem quoting_exact :
    (∀ text after : List Char,
      Quoted.readQuoted (Quoted.quoteChars text ++ after) = some (text, after)) ∧
    ∀ op : FileOperation, TakenAs op.line op.words op.redirections ∧
      ∀ s : Session,
        EnsuresFrom (fun q => ∀ call, q = .runCommand call →
          call.command = op.line ∧ call.directory = s.cwd) (fun _ _ => True) s op.action ∧
        (s.store.isSimulated = false →
          Runs s.Still s op.action (Policy.violation? op.line = none)) :=
  ⟨Quoted.readQuoted_quoteChars, fun op => ⟨op.takenAs_line, fun s =>
    ⟨op.ensures_line s, fun hlocal => op.runs_action hlocal⟩⟩⟩

/-- A path may look like the end of its own quotes and like an expansion. -/
theorem quoting_exact_expansion :
    Router.ownMachine.store.isSimulated = false ∧
      (FileOperation.read "\x22; $(id) \x60id\x60 \x5c").line
        = "cat \x22\x5c\x22; \x5c$(id) \x5c\x60id\x5c\x60 \x5c\x5c\x22" ∧
      ReachesFrom (fun q => q.isRun = true) Router.ownMachine
        (FileOperation.read "\x22; $(id) \x60id\x60 \x5c").action := by
  have hpasses : Policy.violation? (FileOperation.read "\x22; $(id) \x60id\x60 \x5c").line
      = none := by
    decide
  have hruns := ((quoting_exact.2 (.read "\x22; $(id) \x60id\x60 \x5c")).2 Router.ownMachine).2 rfl
  exact ⟨rfl, by decide, hruns.reached hpasses⟩

end Session

end PlainTerminal
