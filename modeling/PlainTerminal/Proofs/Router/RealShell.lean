import PlainTerminal.Proofs.Command.Policy
import PlainTerminal.Proofs.Router.Commands

/-!
# What leads to the real shell

`Runs` says of an action when it runs something in the real shell: always if the condition holds,
and never if it does not. It is put together along an action like `EnsuresFrom`.

On the user's own machine files are read and written by commands that are made of their paths in
double quotes. Quoting has no say in whether a command is refused, so such a command runs exactly if
the policy lets the path pass by itself.
-/

namespace PlainTerminal

open Dialogue

/-- A command is to be run in the real shell. -/
def Question.isRun : Question → Bool
  | .runCommand _ => true
  | _ => false

theorem Question.not_isRun {q : Question} (h : Mode.remoteDemo.Allows q) : ¬ q.isRun = true := by
  cases q with
  | runCommand call => cases h
  | _ => exact nofun

open Session

/-- Whoever answers, the action runs something in the real shell if the condition holds, and nothing
if it does not; then it leaves the session in a kept state. -/
structure Runs {α : Type} (kept : Session → Prop) (s : Session) (action : Action α)
    (condition : Prop) : Prop where
  reached : condition → ReachesFrom (fun q => q.isRun = true) s action
  avoided : ¬ condition → EnsuresFrom (fun q => ¬ q.isRun = true) (fun _ s' => kept s') s action

namespace Runs

variable {α β : Type} {kept : Session → Prop} {s : Session} {action : Action α}
  {condition condition' : Prop}

theorem of_ensures (h : EnsuresFrom (fun q => ¬ q.isRun = true) (fun _ s' => kept s') s action) :
    Runs kept s action False :=
  ⟨False.elim, fun _ => h⟩

theorem pure {value : α} (h : kept s) : Runs kept s (pure value) False :=
  of_ensures (ensuresFrom_pure.mpr h)

theorem of_quiet {action : Action Outcome} (h : Quiet s action) : Runs s.Still s action False :=
  of_ensures (EnsuresFrom.mono h (fun _ => Question.not_isRun) fun _ _ ho => ho.1)

/-- Whoever is asked outside the real shell, nothing runs there. -/
theorem lift {d : Dialogue α} (h : d.Ensures Mode.remoteDemo.Allows fun _ => True) :
    Runs s.Still s (liftM d : Action α) False := by
  refine of_ensures ?_
  rw [ensuresFrom_lift]
  exact h.mono (fun _ => Question.not_isRun) fun _ _ => Still.refl s

theorem congr (h : Runs kept s action condition) (hiff : condition ↔ condition') :
    Runs kept s action condition' :=
  ⟨fun hc => h.reached (hiff.mpr hc), fun hc => h.avoided fun hc' => hc (hiff.mp hc')⟩

theorem idle (h : Runs kept s action False) (hc : ¬ condition) : Runs kept s action condition :=
  h.congr (iff_of_false id hc)

theorem weaken {kept' : Session → Prop} (h : Runs kept s action condition)
    (himp : ∀ s', kept s' → kept' s') : Runs kept' s action condition :=
  ⟨h.reached, fun hc => (h.avoided hc).mono (fun _ hq => hq) fun _ s' hs' => himp s' hs'⟩

/-- What becomes of the session need not be told. -/
theorem forget (h : Runs kept s action condition) : Runs (fun _ => True) s action condition :=
  h.weaken fun _ _ => trivial

theorem get_bind {f : Session → Action α} (h : Runs kept s (f s) condition) :
    Runs kept s (get >>= f) condition := by
  refine ⟨fun hc => ReachesFrom.get_bind (h.reached hc), fun hc => ?_⟩
  rw [ensuresFrom_bind, ensuresFrom_get]
  exact h.avoided hc

/-- One action after another runs something if one of them does. -/
theorem bind {f : α → Action β} (h : Runs s.Still s action condition)
    (hf : ∀ value s', s.Still s' → Runs kept s' (f value) condition') :
    Runs kept s (action >>= f) (condition ∨ condition') := by
  refine ⟨fun hor => ?_, fun hor => ?_⟩
  · by_cases hc : condition
    · exact (h.reached hc).bind
    · refine EnsuresFrom.reachesFrom_bind ((h.avoided hc).mono (fun _ hq => hq) ?_)
      exact fun value s' hs' => (hf value s' hs').reached (hor.resolve_left hc)
  · rw [ensuresFrom_bind]
    refine (h.avoided fun hc => hor (Or.inl hc)).mono (fun _ hq => hq) fun value s' hs' => ?_
    exact (hf value s' hs').avoided fun hc => hor (Or.inr hc)

/-- What comes after an action does not count if nothing runs there. -/
theorem bind_idle {kept' : Session → Prop} {f : α → Action β} (h : Runs kept s action condition)
    (hf : ∀ value s', kept s' → Runs kept' s' (f value) False) :
    Runs kept' s (action >>= f) condition := by
  refine ⟨fun hc => (h.reached hc).bind, fun hc => ?_⟩
  rw [ensuresFrom_bind]
  exact (h.avoided hc).mono (fun _ hq => hq) fun value s' hs' => (hf value s' hs').avoided id

theorem bind_pure {f : α → β} (h : Runs kept s action condition) :
    Runs kept s (do return f (← action)) condition :=
  h.bind_idle fun _ _ hs' => pure hs'

theorem avoids_iff (h : Runs kept s action condition) :
    (action.run s).Avoids (fun q => q.isRun = true) ↔ ¬ condition := by
  constructor
  · intro havoids hc
    exact (h.reached hc).not_avoids havoids
  · intro hc
    exact (h.avoided hc).avoids

end Runs

/-! ## The real shell -/

namespace Executor

variable {e : Executor} {text : String}

theorem safeExecute_refused (h : Policy.violation? text ≠ none) :
    (e.safeExecute text).Ensures (fun q => ¬ q.isRun = true) fun r => r.2 = e := by
  obtain ⟨violation, hviolation⟩ := Option.ne_none_iff_exists'.mp h
  unfold safeExecute execute
  rw [hviolation]
  exact ensures_done.mpr rfl

theorem safeExecute_runs (h : Policy.violation? text = none)
    (hcd : cdTarget? (Text.trim text) = none) :
    (e.safeExecute text).Reaches fun q => q.isRun = true := by
  unfold safeExecute execute
  rw [h]
  dsimp only
  rw [hcd]
  exact reaches_ask.mpr (Or.inl rfl)

/-- To change the directory is to ask whether it is there, and nothing else. -/
theorem ensures_changeDirectory {asks : Question → Prop} (e : Executor) (target base : String)
    (hasks : ∀ path, asks (.isDirectory path)) :
    (e.changeDirectory target base).Ensures asks fun _ => True := by
  unfold changeDirectory
  refine ensures_ask.mpr ⟨hasks _, fun there => ?_⟩
  cases there with
  | true => exact ensures_done.mpr trivial
  | false => exact ensures_done.mpr trivial

/-- A call of the real shell as the executor makes it. -/
structure Makes (e : Executor) (call : ShellCall) : Prop where
  trimmed : Text.trim call.command = call.command
  passes : Policy.violation? call.command = none
  /-- The command changes no directory. -/
  stays : cdTarget? call.command = none
  directory : call.directory = e.cwd
  limits : call.limits = e.limits

/-- Whatever it is given, the executor makes no other calls. -/
theorem ensures_makes (e : Executor) (command : String) :
    (e.safeExecute command).Ensures (fun q => ∀ call, q = .runCommand call → e.Makes call)
      fun r => cdTarget? (Text.trim command) = none → r.2 = e := by
  unfold safeExecute execute
  split
  · exact ensures_done.mpr fun _ => rfl
  · rename_i hpasses
    dsimp only
    split
    · rename_i target hcd
      refine (e.ensures_changeDirectory target _ fun _ => nofun).mono (fun _ hq => hq) ?_
      -- The directory may change here, but the command is a `cd`.
      intro _ _ hnone
      rw [hcd] at hnone
      cases hnone
    · rename_i hcd
      refine ensures_ask.mpr ⟨fun call hcall => ?_, fun _ => ensures_done.mpr fun _ => rfl⟩
      obtain rfl := Question.runCommand.inj hcall
      have htrimmed : Policy.violation? (Text.trim command) = none := by
        rw [Policy.violation?_eq_none_iff] at hpasses ⊢
        rwa [Policy.denied_trim_iff]
      exact ⟨Text.trim_trim command, htrimmed, hcd, rfl, rfl⟩

/-- Only what begins with `cd` changes the directory. -/
theorem cdTarget?_eq_none {x y : Char} {rest : List Char} (h : text.toList = x :: y :: rest)
    (hcd : ¬ (x = 'c' ∧ y = 'd')) : cdTarget? text = none := by
  unfold cdTarget?
  rw [h]
  split
  · rename_i heq
    obtain ⟨hfirst, htail⟩ := List.cons.inj heq
    exact absurd ⟨hfirst, (List.cons.inj htail).1⟩ hcd
  · rename_i heq
    obtain ⟨hfirst, htail⟩ := List.cons.inj heq
    exact absurd ⟨hfirst, (List.cons.inj htail).1⟩ hcd
  · rfl

/-- A command that begins with other letters than `cd` changes no directory. -/
theorem cdTarget?_trim_cons {x y : Char} {rest : List Char} (h : text.toList = x :: y :: rest)
    (hx : Text.isBlank x = false) (hy : Text.isBlank y = false) (hcd : ¬ (x = 'c' ∧ y = 'd')) :
    cdTarget? (Text.trim text) = none := by
  obtain ⟨rest', hrest'⟩ := Text.toList_trim_cons h hx hy
  exact cdTarget?_eq_none hrest' hcd

/-- A command changes the directory only if its first word is `cd`. -/
theorem cdTarget?_of_program (h : (Text.splitAtBlank text).1 ≠ "cd") : cdTarget? text = none := by
  unfold cdTarget?
  split
  · rename_i heq
    refine absurd ?_ h
    rw [← String.ofList_toList (s := text), heq]
    decide
  · rename_i rest heq
    refine absurd ?_ h
    have hcut : Text.splitAtBlank (String.ofList (['c', 'd'] ++ ' ' :: rest))
        = (String.ofList ['c', 'd'], Text.trim (String.ofList rest)) :=
      Text.splitAtBlank_append (by decide) (by decide)
    rw [← String.ofList_toList (s := text), heq]
    exact congrArg Prod.fst hcut
  · rfl

/-- `cat` with operands changes no directory. -/
theorem cdTarget?_cat (rest : String) : cdTarget? (Text.trim ("cat " ++ rest)) = none := by
  have hcat : ("cat " ++ rest).toList = 'c' :: 'a' :: ('t' :: ' ' :: rest.toList) := by
    rw [String.toList_append]
    rfl
  exact cdTarget?_trim_cons hcat (by decide) (by decide) (by decide)

/-- `ls` with operands, or without, changes no directory. -/
theorem cdTarget?_ls (rest : String) :
    cdTarget? (Text.trim (if rest = "" then "ls" else "ls " ++ rest)) = none := by
  split
  · decide
  · have hls : ("ls " ++ rest).toList = 'l' :: 's' :: (' ' :: rest.toList) := by
      rw [String.toList_append]
      rfl
    exact cdTarget?_trim_cons hls (by decide) (by decide) (by decide)

/-- `cd` and an operand are read as a change to the trimmed operand. -/
theorem cdTarget?_cd (argument : String) :
    cdTarget? (Text.trim ("cd " ++ argument)) = some (Text.trim argument) := by
  obtain ⟨a, b, hsplit, ha, hb⟩ := Text.stripChars_split Text.isBlank ("cd " ++ argument).toList
  have hlist : ("cd " ++ argument).toList = 'c' :: 'd' :: ' ' :: argument.toList := by
    rw [String.toList_append]
    rfl
  rw [hlist] at hsplit
  -- Nothing is trimmed in front, and no more than the blank and the operand behind.
  cases a with
  | cons x a =>
      obtain ⟨rfl, -⟩ := List.cons.inj hsplit
      exact absurd (ha 'c' List.mem_cons_self) (by decide)
  | nil =>
      unfold cdTarget? Text.trim
      rw [String.toList_ofList, hlist]
      rw [List.nil_append] at hsplit
      generalize Text.stripChars Text.isBlank ('c' :: 'd' :: ' ' :: argument.toList) = kept
        at hsplit ⊢
      match kept with
      | [] =>
          simp only [List.nil_append] at hsplit
          exact absurd (hb 'c' (by simp [← hsplit])) (by decide)
      | [x] =>
          simp only [List.cons_append, List.nil_append, List.cons.injEq] at hsplit
          exact absurd (hb 'd' (by simp [← hsplit.2])) (by decide)
      | [x, y] =>
          simp only [List.cons_append, List.nil_append, List.cons.injEq] at hsplit
          obtain ⟨rfl, rfl, rfl⟩ := hsplit
          have hblank := fun c hc => hb c (List.mem_cons_of_mem _ hc)
          have hnothing := Text.stripChars_append (s := []) hblank
          rw [List.nil_append] at hnothing
          rw [hnothing]
          rfl
      | x :: y :: z :: kept =>
          simp only [List.cons_append, List.cons.injEq] at hsplit
          obtain ⟨rfl, rfl, rfl, hrest⟩ := hsplit
          rw [hrest, Text.stripChars_append hb]
          show some (String.ofList (Text.stripChars Text.isBlank (String.ofList kept).toList)) = _
          rw [String.toList_ofList]

/-- A command that changes the directory asks whether that is there, and runs nothing. -/
theorem safeExecute_cd {target : String} (hcd : cdTarget? (Text.trim text) = some target) :
    (e.safeExecute text).Ensures (fun q => ¬ q.isRun = true) fun _ => True := by
  by_cases h : Policy.violation? text = none
  · unfold safeExecute execute
    rw [h]
    dsimp only
    rw [hcd]
    exact e.ensures_changeDirectory target _ fun _ => nofun
  · exact (safeExecute_refused h).mono (fun _ hq => hq) fun _ _ => trivial

end Executor

namespace Session

variable {s : Session} {text : String}

theorem ensuresFrom_safeExecute {asks : Question → Prop} {post : CommandResult → Session → Prop} :
    EnsuresFrom asks post s (safeExecute text) ↔
      (s.executor.safeExecute text).Ensures asks fun r => post r.1 { s with executor := r.2 } := by
  unfold safeExecute
  rw [ensuresFrom_bind, ensuresFrom_get, ensuresFrom_bind, ensuresFrom_lift]
  simp only [ensuresFrom_bind, ensuresFrom_set, ensuresFrom_pure]

theorem safeExecute_refused (h : Policy.violation? text ≠ none) :
    EnsuresFrom (fun q => ¬ q.isRun = true) (fun _ s' => s.Still s') s (safeExecute text) :=
  ensuresFrom_safeExecute.mpr ((Executor.safeExecute_refused h).mono (fun _ hq => hq)
    fun _ hr => ⟨hr, rfl⟩)

theorem safeExecute_runs (h : Policy.violation? text = none)
    (hcd : Executor.cdTarget? (Text.trim text) = none) :
    ReachesFrom (fun q => q.isRun = true) s (safeExecute text) := by
  unfold safeExecute
  exact ReachesFrom.get_bind (ReachesFrom.lift (Executor.safeExecute_runs h hcd)).bind

/-- A command that changes no directory runs if it is not refused. -/
theorem runs_safeExecute (hcd : Executor.cdTarget? (Text.trim text) = none) :
    Runs s.Still s (safeExecute text) (Policy.violation? text = none) :=
  ⟨fun h => safeExecute_runs h hcd, safeExecute_refused⟩

/-! ## Files of the user's machine

Each operation on files is one command, and none of them changes the directory. -/

theorem cdTarget?_catQuoted (path : String) :
    Executor.cdTarget? (Text.trim ("cat " ++ Quoted.quote path)) = none :=
  Executor.cdTarget?_cat (Quoted.quote path)

theorem cdTarget?_mkdirQuoted (path : String) :
    Executor.cdTarget? (Text.trim ("mkdir -p " ++ Quoted.quote path)) = none := by
  have hmkdir : ("mkdir -p " ++ Quoted.quote path).toList
      = 'm' :: 'k' :: (['d', 'i', 'r', ' ', '-', 'p', ' '] ++ (Quoted.quote path).toList) := by
    rw [String.toList_append]
    rfl
  exact Executor.cdTarget?_trim_cons hmkdir (by decide) (by decide) (by decide)

theorem cdTarget?_lsQuoted (showHidden : Bool) (target : String) :
    Executor.cdTarget? (Text.trim
      ("ls " ++ (if showHidden then "-la" else "-l") ++ " " ++ Quoted.quote target)) = none := by
  have hls : ("ls " ++ (if showHidden then "-la" else "-l") ++ " " ++ Quoted.quote target).toList
      = 'l' :: 's' :: (' ' :: (if showHidden then "-la" else "-l").toList
        ++ ' ' :: (Quoted.quote target).toList) := by
    cases showHidden <;> (rw [String.toList_append]; rfl)
  exact Executor.cdTarget?_trim_cons hls (by decide) (by decide) (by decide)

theorem cdTarget?_echoQuoted (content path : String) :
    Executor.cdTarget? (Text.trim
      ("echo " ++ Quoted.quote content ++ " > " ++ Quoted.quote path)) = none := by
  have hecho : ("echo " ++ Quoted.quote content ++ " > " ++ Quoted.quote path).toList
      = 'e' :: 'c' :: (['h', 'o', ' '] ++ (Quoted.quote content).toList ++ [' ', '>', ' ']
        ++ (Quoted.quote path).toList) := by
    rw [String.toList_append, String.toList_append, String.toList_append]
    rfl
  exact Executor.cdTarget?_trim_cons hecho (by decide) (by decide) (by decide)

theorem runs_contentOf (hlocal : s.store.isSimulated = false) (path : String) :
    Runs s.Still s (contentOf path) (Policy.violation? path = none) := by
  unfold contentOf
  refine Runs.get_bind ?_
  rw [if_neg (by rw [hlocal]; decide)]
  have hharmless : Policy.violation? "cat " = none := by decide
  refine ((runs_safeExecute (cdTarget?_catQuoted path)).congr ?_).bind_pure
  rw [Policy.violation?_quote_iff, and_iff_right hharmless]

theorem runs_createDirectory (hlocal : s.store.isSimulated = false) (path : String) :
    Runs s.Still s (createDirectory path) (Policy.violation? path = none) := by
  unfold createDirectory
  refine Runs.get_bind ?_
  rw [if_neg (by rw [hlocal]; decide)]
  have hharmless : Policy.violation? "mkdir -p " = none := by decide
  refine ((runs_safeExecute (cdTarget?_mkdirQuoted path)).congr ?_).bind_pure
  rw [Policy.violation?_quote_iff, and_iff_right hharmless]

/-- The working directory is listed if none is named. -/
theorem runs_listDirectory (hlocal : s.store.isSimulated = false) (path : String)
    (showHidden : Bool) :
    Runs s.Still s (listDirectory path showHidden) (Policy.violation? path = none) := by
  unfold listDirectory
  refine Runs.get_bind ?_
  rw [if_neg (by rw [hlocal]; decide)]
  dsimp only
  have hharmless :
      Policy.violation? ("ls " ++ (if showHidden then "-la" else "-l") ++ " ") = none := by
    cases showHidden <;> decide
  have htarget : Policy.violation? (if path = "" then "." else path) = none ↔
      Policy.violation? path = none := by
    split
    · rename_i hempty
      rw [hempty]
      decide
    · rfl
  refine ((runs_safeExecute (cdTarget?_lsQuoted _ _)).congr ?_).bind_pure
  rw [Policy.violation?_quote_iff, and_iff_right hharmless, htarget]

theorem runs_createFile (hlocal : s.store.isSimulated = false) (path content : String) :
    Runs s.Still s (createFile path content)
      (Policy.violation? content = none ∧ Policy.violation? path = none) := by
  unfold createFile
  refine Runs.get_bind ?_
  rw [if_neg (by rw [hlocal]; decide)]
  have hharmless : Policy.violation? "echo " = none ∧ Policy.violation? " > " = none := by
    decide
  refine ((runs_safeExecute (cdTarget?_echoQuoted content path)).congr ?_).bind_pure
  rw [Policy.violation?_quote_iff, Policy.violation?_quote_append_iff,
    and_iff_right hharmless.1, and_iff_left hharmless.2]

end Session

end PlainTerminal
