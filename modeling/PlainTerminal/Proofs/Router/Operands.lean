import PlainTerminal.Proofs.Router.Dispatch
import PlainTerminal.Proofs.Router.RealShell

/-!
# Operands that reach the real shell

From inside the virtual tree a command is not handed on as it was typed. Its operands are taken one
by one, and on the user's own machine those that lie outside the challenge go to the real shell all
the same, each in a command of its own. So what such a command runs is decided by its operands: it
runs something exactly if one of them is *free*, which means that it lies outside the challenge and
that the policy says nothing against it by itself.

The exceptions are `cd`, which only asks whether a directory is there, and a write, which does not
care where the terminal stands: it goes to the shell from anywhere.
-/

namespace PlainTerminal

open Dialogue Session

/-- A new session on the user's own machine. -/
def Router.ownMachine : Session :=
  .new (.new "/work" "/home/user" ⟨30000, 1048576⟩) .localMachine ⟨0⟩

/-! ## Free operands -/

/-- The word means a place outside the challenge, and the policy says nothing against it. -/
def FreeOperand (s : Session) (word : String) : Prop :=
  Challenge.contains (s.placeOf word) = false ∧ Policy.violation? word = none

instance (s : Session) (word : String) : Decidable (FreeOperand s word) :=
  inferInstanceAs (Decidable (_ ∧ _))

theorem freeOperand_still {s s' : Session} (h : s.Still s') (word : String) :
    FreeOperand s' word ↔ FreeOperand s word := by
  unfold FreeOperand
  rw [h.placeOf]

theorem isSimulated_still {s s' : Session} (h : s.Still s')
    (hlocal : s.store.isSimulated = false) : s'.store.isSimulated = false := by
  rw [h.store]
  exact hlocal

namespace Router

variable {s : Session}

theorem not_freeOperand_of_contains {path : String}
    (h : Challenge.contains (s.placeOf path) = true) : ¬ FreeOperand s path := by
  rintro ⟨hout, -⟩
  rw [h] at hout
  cases hout

theorem freeOperand_iff_of_not_contains {path : String}
    (h : ¬ Challenge.contains (s.placeOf path) = true) :
    Policy.violation? path = none ↔ FreeOperand s path :=
  (and_iff_right (Bool.eq_false_iff.mpr h)).symm

theorem not_freeOperand_of_refusal {program path refusal : String}
    (h : challengeRefusal s program path = some refusal) : ¬ FreeOperand s path := by
  intro hfree
  rw [challengeRefusal_eq_none_iff.mpr hfree.1] at h
  cases h

theorem freeOperand_iff_of_no_refusal {program path : String}
    (h : challengeRefusal s program path = none) :
    FreeOperand s path ↔ Policy.violation? path = none :=
  and_iff_right (challengeRefusal_eq_none_iff.mp h)

/-! ## Readers -/

theorem runs_catOne (hlocal : s.store.isSimulated = false) (path : String) :
    Runs s.Still s (catOne path) (FreeOperand s path) := by
  unfold catOne
  refine Runs.get_bind ?_
  dsimp only
  split
  · -- The challenge is read from the tree, whatever is to be told of it.
    rename_i hin
    exact (Runs.of_quiet (quiet_catChallenge path _)).idle (not_freeOperand_of_contains hin)
  · rename_i hout
    exact ((runs_contentOf hlocal path).bind_pure).congr (freeOperand_iff_of_not_contains hout)

theorem runs_catAll (hlocal : s.store.isSimulated = false) (paths : List String) :
    Runs s.Still s (catAll paths) (∃ x ∈ paths, FreeOperand s x) := by
  induction paths generalizing s with
  | nil => exact (Runs.pure (Still.refl s)).congr (by simp)
  | cons path rest ih =>
      unfold catAll
      refine (Runs.bind (runs_catOne hlocal path) fun part s' hs' => ?_).congr
        (List.exists_mem_cons_iff ..).symm
      -- The first file may have set the progress on, but what a word means is as it was.
      refine ((ih (isSimulated_still hs' hlocal)).congr ?_).bind_pure.weaken
        fun s'' hs'' => hs'.trans hs''
      simp only [freeOperand_still hs']

theorem runs_cat_virtual (hlocal : s.store.isSimulated = false) (hvirtual : s.inVirtualTree = true)
    (rest : String) :
    Runs (fun _ => True) s (cat rest) (∃ x ∈ Text.words rest, FreeOperand s x) := by
  unfold cat
  refine Runs.get_bind ?_
  split
  · rename_i hwords
    exact (Runs.pure trivial).congr (by simp [hwords])
  · rename_i path hwords
    exact (runs_catOne hlocal path).forget.congr (by simp [hwords])
  · rw [if_pos hvirtual]
    -- To put together what was read asks for nothing more.
    refine (runs_catAll hlocal _).bind_idle fun r s' _ => ?_
    dsimp only
    split
    · exact Runs.pure trivial
    · exact Runs.pure trivial

/-- The operand of a listing: its first word that is no option. -/
def listedOperand (rest : String) : String :=
  ((Text.words rest).filter fun w => !Likeness.isFlag w).headD ""

theorem runs_listing_virtual (hlocal : s.store.isSimulated = false) (hvirtual : s.inVirtualTree = true)
    (rest : String) : Runs (fun _ => True) s (listing rest) (FreeOperand s (listedOperand rest)) := by
  unfold listing
  refine Runs.get_bind ?_
  dsimp only
  split
  · rename_i hin
    have hfree : ¬ FreeOperand s (listedOperand rest) := not_freeOperand_of_contains hin
    exact (Runs.of_quiet (quiet_challengeListing _ _ _ _)).forget.idle hfree
  · rename_i hout
    refine (runs_listDirectory hlocal _ _).bind_pure.forget.congr ?_
    exact freeOperand_iff_of_not_contains hout

/-! ## Changing the directory -/

theorem runs_cd (hlocal : s.store.isSimulated = false) (target : String) :
    Runs (fun _ => True) s (cd target) False := by
  refine Runs.of_ensures ?_
  unfold cd
  rw [ensuresFrom_bind, ensuresFrom_get]
  dsimp only
  have hvirtual : ∀ shown place, EnsuresFrom (fun q => ¬ q.isRun = true) (fun _ _ => True) s
      (cdVirtual shown place) := by
    intro shown place
    unfold cdVirtual
    rw [ensuresFrom_bind, ensuresFrom_get]
    split
    · rw [ensuresFrom_bind, ensuresFrom_set]
      exact ensuresFrom_pure.mpr trivial
    · exact ensuresFrom_pure.mpr trivial
  split
  · split
    · exact ensuresFrom_pure.mpr trivial
    · exact hvirtual _ _
  · -- Whatever is left of the operand, the shell reads the command as a change of the directory.
    rw [if_neg (by rw [hlocal]; decide), ensuresFrom_bind, ensuresFrom_safeExecute]
    have htarget :=
      Executor.cdTarget?_cd (if Challenge.contains s.cwd then cdPlace s target else target)
    exact (Executor.safeExecute_cd htarget).mono (fun _ hq => hq) fun _ _ =>
      ensuresFrom_pure.mpr trivial

/-! ## Writers -/

/-- A write changes no directory. -/
theorem cdTarget?_of_parse? {command : String} {write : Redirect.Write}
    (h : Redirect.parse? command = some write) :
    Executor.cdTarget? (Text.trim command) = none := by
  obtain ⟨c, rest, -, hcommand⟩ := Redirect.toList_of_parse? h
  exact Executor.cdTarget?_trim_cons hcommand (by decide) (by decide) (by decide)

/-- The write goes to a file outside the challenge, and the policy lets pass what is handed to the
shell for it: the command as it was typed if it appends, else the text and the file by
themselves. -/
def Passes (s : Session) (command : String) (write : Redirect.Write) : Prop :=
  Challenge.contains (s.placeOf write.path) = false ∧
    match write.operator with
    | .append => Policy.violation? command = none
    | .overwrite =>
      Policy.violation? (Redirect.unquote write.text) = none ∧ Policy.violation? write.path = none

theorem runs_redirect (hlocal : s.store.isSimulated = false) {command : String}
    {write : Redirect.Write} (hparse : Redirect.parse? command = some write) :
    Runs (fun _ => True) s (redirect command write) (Passes s command write) := by
  have hcd := cdTarget?_of_parse? hparse
  unfold redirect Passes
  refine Runs.get_bind ?_
  split
  · -- What would go into the challenge is refused before anything is handed on.
    rename_i hrefusal
    refine (Runs.pure trivial).idle fun h => ?_
    rw [challengeRefusal_eq_none_iff.mpr h.1] at hrefusal
    cases hrefusal
  · rename_i hrefusal
    have hout := challengeRefusal_eq_none_iff.mp hrefusal
    dsimp only
    rw [if_neg (by rw [hlocal]; decide)]
    rw [and_iff_right hout]
    cases write.operator with
    | append => exact (runs_safeExecute hcd).bind_pure.forget
    | overwrite => exact (runs_createFile hlocal _ _).bind_pure.forget

theorem runs_mkdirOne (hlocal : s.store.isSimulated = false) (path : String) :
    Runs s.Still s (mkdirOne path) (FreeOperand s path) := by
  unfold mkdirOne
  refine Runs.get_bind ?_
  split
  · rename_i hrefusal
    exact (Runs.pure (Still.refl s)).idle (not_freeOperand_of_refusal hrefusal)
  · rename_i hrefusal
    exact ((runs_createDirectory hlocal path).bind_pure).congr
      (freeOperand_iff_of_no_refusal hrefusal).symm

/-- A file is read before it is made, and both are refused or neither. -/
theorem runs_touchOne (hlocal : s.store.isSimulated = false) (path : String) :
    Runs s.Still s (touchOne path) (FreeOperand s path) := by
  unfold touchOne
  refine Runs.get_bind ?_
  split
  · rename_i hrefusal
    exact (Runs.pure (Still.refl s)).idle (not_freeOperand_of_refusal hrefusal)
  · rename_i hrefusal
    rw [show FreeOperand s path ↔ _ from freeOperand_iff_of_no_refusal hrefusal]
    -- To look whether the file is there runs something already.
    refine ⟨fun h => ((runs_contentOf hlocal path).reached h).bind, fun h => ?_⟩
    rw [ensuresFrom_bind]
    refine ((runs_contentOf hlocal path).avoided h).mono (fun _ hq => hq) fun r s' hs' => ?_
    split
    · exact ensuresFrom_pure.mpr hs'
    · rw [ensuresFrom_bind]
      refine ((runs_createFile (isSimulated_still hs' hlocal) path "").avoided
        fun hboth => h hboth.2).mono (fun _ hq => hq) fun _ s'' hs'' => ?_
      exact ensuresFrom_pure.mpr (hs'.trans hs'')

theorem runs_mapM {one : String → Action (Option String)}
    (hone : ∀ {s : Session} (_ : s.store.isSimulated = false) (path : String),
      Runs s.Still s (one path) (FreeOperand s path))
    (hlocal : s.store.isSimulated = false) (paths : List String) :
    Runs s.Still s (paths.mapM one) (∃ x ∈ paths, FreeOperand s x) := by
  induction paths generalizing s with
  | nil => exact (Runs.pure (Still.refl s)).congr (by simp)
  | cons path rest ih =>
      rw [List.mapM_cons]
      refine (Runs.bind (hone hlocal path) fun _ s' hs' => ?_).congr
        (List.exists_mem_cons_iff ..).symm
      refine ((ih (isSimulated_still hs' hlocal)).congr ?_).bind_pure.weaken
        fun s'' hs'' => hs'.trans hs''
      simp only [freeOperand_still hs']

theorem runs_forOperands {one : String → Action (Option String)}
    (hone : ∀ {s : Session} (_ : s.store.isSimulated = false) (path : String),
      Runs s.Still s (one path) (FreeOperand s path))
    (hlocal : s.store.isSimulated = false) (program rest : String) :
    Runs (fun _ => True) s (forOperands program rest one)
      (∃ x ∈ Text.words rest, Likeness.isFlag x = false ∧ FreeOperand s x) := by
  have hcondition : (∃ x ∈ (Text.words rest).filter fun w => !Likeness.isFlag w, FreeOperand s x) ↔
      ∃ x ∈ Text.words rest, Likeness.isFlag x = false ∧ FreeOperand s x := by
    simp only [List.mem_filter, Bool.not_eq_true', and_assoc]
  unfold forOperands
  split
  · rename_i hnone
    rw [← hcondition, hnone]
    exact (Runs.pure trivial).congr (by simp)
  · refine ((runs_mapM hone hlocal _).bind_idle fun errors s' _ => ?_).congr hcondition
    dsimp only
    split
    · exact Runs.pure trivial
    · exact Runs.pure trivial

/-! ## Commands of the virtual machine -/

/-- The programs that make files or directories. -/
def makers : List String := ["mkdir", "touch"]

theorem not_mem_makers_of_builtin {program : String} (h : program ∈ builtins) :
    program ∉ makers := by
  intro hmem
  simp only [makers, List.mem_cons, List.not_mem_nil, or_false] at hmem
  rcases hmem with rfl | rfl <;> exact absurd h (by decide)

theorem runs_simulatedBuiltin? (hlocal : s.store.isSimulated = false) {program rest : String}
    {action : Action CommandResult} (h : simulatedBuiltin? program rest = some action) :
    Runs (fun _ => True) s action
      (program ∈ makers ∧ ∃ x ∈ Text.words rest, Likeness.isFlag x = false ∧ FreeOperand s x) := by
  unfold simulatedBuiltin? at h
  split at h
  · cases h
    exact Runs.idle (Runs.get_bind (Runs.pure trivial)) (by simp [makers])
  · cases h
    exact Runs.idle (Runs.get_bind (Runs.pure trivial)) (by simp [makers])
  · cases h
    exact Runs.idle (Runs.get_bind (Runs.pure trivial)) (by simp [makers])
  · cases h
    exact Runs.idle (Runs.lift ensures_now).bind_pure.forget (by simp [makers])
  · cases h
    exact Runs.idle (Runs.pure trivial) (by simp [makers])
  · cases h
    exact (runs_forOperands runs_mkdirOne hlocal _ _).congr (by simp [makers])
  · cases h
    exact (runs_forOperands runs_touchOne hlocal _ _).congr (by simp [makers])
  · cases h

theorem runs_runVirtual (hlocal : s.store.isSimulated = false) (program rest command : String) :
    Runs (fun _ => True) s (runVirtual program rest command)
      (program ∈ makers ∧ ∃ x ∈ Text.words rest, Likeness.isFlag x = false ∧ FreeOperand s x) := by
  unfold runVirtual
  split
  · rename_i action haction
    exact (runs_simulatedBuiltin? hlocal haction).bind_pure
  · rename_i hnone
    have hmaker : program ∉ makers := by
      intro hmem
      simp only [makers, List.mem_cons, List.not_mem_nil, or_false] at hmem
      rcases hmem with rfl | rfl <;> cases hnone
    split
    · exact Runs.idle (Runs.pure trivial) fun h => hmaker h.1
    · exact Runs.idle (Runs.get_bind (Runs.pure trivial)) fun h => hmaker h.1

theorem runs_hack : Runs (fun _ => True) s hack False := by
  unfold hack
  refine Runs.get_bind ?_
  split
  · exact Runs.pure trivial
  · refine (Runs.lift (Assistant.ensures_withFallback
      (Assistant.ensures_attempt _ _) _)).bind_idle fun introduction s' _ => Runs.of_ensures ?_
    rw [ensuresFrom_bind, ensuresFrom_modify]
    exact ensuresFrom_pure.mpr trivial

/-- What the terminal answers by itself runs nothing; any other program runs, from inside the
virtual tree, what it makes of its operands, and from outside of it what was typed. -/
theorem runs_dispatchProgram (hlocal : s.store.isSimulated = false) {program command : String}
    {condition : Prop} (rest : String)
    (hidle : program ∈ builtins → ¬ condition)
    (hvirtual : s.inVirtualTree = true → (condition ↔ program ∈ makers ∧
      ∃ x ∈ Text.words rest, Likeness.isFlag x = false ∧ FreeOperand s x))
    (hreal : ¬ s.inVirtualTree = true → Runs (fun _ => True) s (safeExecute command) condition) :
    Runs (fun _ => True) s (dispatchProgram program rest command) condition := by
  unfold dispatchProgram
  -- The first six programs are the words that the terminal answers by itself.
  split
  · exact (Runs.pure trivial).idle (hidle (by decide))
  · exact (Runs.pure trivial).idle (hidle (by decide))
  · exact (Runs.of_quiet quiet_hint).bind_pure.forget.idle (hidle (by decide))
  · exact runs_hack.idle (hidle (by decide))
  · exact (Runs.of_quiet (quiet_amuse _)).bind_pure.forget.idle (hidle (by decide))
  · exact (Runs.of_quiet (quiet_amuse _)).bind_pure.forget.idle (hidle (by decide))
  · refine Runs.get_bind ?_
    split
    · rename_i hin
      exact ((runs_runVirtual hlocal program rest command).bind_pure).congr (hvirtual hin).symm
    · rename_i hout
      exact (hreal hout).bind_pure

/-- Routing runs what dispatching runs, from the directory that the request names. -/
theorem runs_route_of_dispatch {condition : Prop} {command : String}
    {workingDirectory : Option String}
    (h : Runs (fun _ => True) (entering s workingDirectory) (dispatch (Text.trim command))
      condition) :
    Runs (fun _ => True) s (route command workingDirectory) condition :=
  ⟨fun hc => reachesFrom_route (h.reached hc),
    fun hc => ensuresFrom_route_entering.mpr (h.avoided hc)⟩

/-! ## Any command, from inside the virtual tree -/

/-- The operands that a command takes one by one when it is given inside the virtual tree. -/
def operandsOf (command : String) : List String :=
  let (program, rest) := Text.splitAtBlank command
  if program = "cat" then Text.words rest
  else if program = "ls" then [listedOperand rest]
  else if program ∈ makers then (Text.words rest).filter fun w => !Likeness.isFlag w
  else []

/-- Inside the virtual tree, the command hands something to the real shell. -/
def HandsOver (s : Session) (command : String) : Prop :=
  (∃ x ∈ operandsOf command, FreeOperand s x) ∨
    ∃ write, Redirect.parse? command = some write ∧ Passes s command write

/-- A write has no other operands. -/
theorem handsOver_of_parse? {command : String} {write : Redirect.Write}
    (h : Redirect.parse? command = some write) :
    HandsOver s command ↔ Passes s command write := by
  have hprogram := Redirect.program_of_parse? h
  unfold HandsOver operandsOf
  cases hsplit : Text.splitAtBlank command with
  | mk program rest =>
      rw [hsplit] at hprogram
      obtain rfl : program = "echo" := hprogram
      dsimp only
      rw [if_neg (by decide), if_neg (by decide), if_neg (by decide), h]
      simp

theorem handsOver_of_no_write {command : String} (h : Redirect.parse? command = none) :
    HandsOver s command ↔ ∃ x ∈ operandsOf command, FreeOperand s x := by
  unfold HandsOver
  rw [h]
  simp

theorem runs_dispatch_virtual (hlocal : s.store.isSimulated = false)
    (hvirtual : s.inVirtualTree = true) (command : String) :
    Runs (fun _ => True) s (dispatch command) (HandsOver s command) := by
  cases hparse : Redirect.parse? command with
  | some write =>
      -- A write is known by its form, and goes to the shell from anywhere.
      rw [dispatch_redirect hparse]
      exact (runs_redirect hlocal hparse).bind_pure.congr (handsOver_of_parse? hparse).symm
  | none =>
      rw [handsOver_of_no_write hparse]
      unfold operandsOf
      cases hsplit : Text.splitAtBlank command with
      | mk program rest =>
          dsimp only
          split_ifs with hcat hls hmaker
          · subst hcat
            rw [dispatch_cat hsplit]
            exact (runs_cat_virtual hlocal hvirtual rest).bind_pure
          · subst hls
            rw [dispatch_ls hsplit]
            exact (runs_listing_virtual hlocal hvirtual rest).bind_pure.congr (by simp)
          · have hcd : program ≠ "cd" := by
              rintro rfl
              exact absurd hmaker (by decide)
            rw [dispatch_other hsplit hcat hls hcd hparse]
            refine runs_dispatchProgram hlocal rest ?_ (fun _ => ?_) fun h => absurd hvirtual h
            · exact fun hbuiltin => absurd hmaker (not_mem_makers_of_builtin hbuiltin)
            · simp only [hmaker, true_and, List.mem_filter, Bool.not_eq_true', and_assoc]
          · -- No other program takes its operands one by one.
            by_cases hcd : program = "cd"
            · subst hcd
              rw [dispatch_cd hsplit]
              exact (runs_cd hlocal rest).bind_pure.congr (by simp)
            · rw [dispatch_other hsplit hcat hls hcd hparse]
              exact runs_dispatchProgram hlocal rest (by simp) (fun _ => by simp [hmaker])
                fun h => absurd hvirtual h

end Router

end PlainTerminal
