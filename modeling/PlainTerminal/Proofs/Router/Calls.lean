import PlainTerminal.Proofs.Router.Operands

/-!
# The calls that reach the real shell

Whatever is typed, there is one door to the real shell: the executor of the session. It lets through
trimmed commands that the policy has nothing against, it keeps every `cd` to itself, and it runs
what it lets through from where it stands. The demo has no such door at all.

`Admitted` says of an action that all its calls go through that door. Only the operations on one
operand have to be looked at twice: more operands may follow, so they must leave the executor where
it is. What ends a command may do as it likes.
-/

namespace PlainTerminal

open Dialogue

namespace Session

/-- If the question is a call of the real shell, then the session is on the user's own machine and
its executor makes that call. -/
def Admits (s : Session) (q : Question) : Prop :=
  ∀ call, q = .runCommand call → s.store.isSimulated = false ∧ s.executor.Makes call

/-- The executor stands where it stood, in the same mode. -/
structure Stays (s s' : Session) : Prop where
  executor : s'.executor = s.executor
  mode : s'.store.mode = s.store.mode

theorem Stays.refl (s : Session) : s.Stays s := ⟨rfl, rfl⟩

theorem Stays.trans {s s' s'' : Session} (h : s.Stays s') (h' : s'.Stays s'') : s.Stays s'' :=
  ⟨h'.executor.trans h.executor, h'.mode.trans h.mode⟩

theorem Still.stays {s s' : Session} (h : s.Still s') : s.Stays s' :=
  ⟨h.executor, congrArg Store.mode h.store⟩

theorem Stays.admits {s s' : Session} (h : s.Stays s') {q : Question} (hq : s'.Admits q) :
    s.Admits q := by
  intro call hcall
  obtain ⟨hlocal, hmakes⟩ := hq call hcall
  rw [h.executor] at hmakes
  unfold Store.isSimulated at hlocal
  rw [h.mode] at hlocal
  exact ⟨hlocal, hmakes⟩

theorem admits_of_allows {s : Session} {q : Question} (h : Mode.remoteDemo.Allows q) :
    s.Admits q := by
  rintro call rfl
  cases h

end Session

open Session

/-- Whoever answers, all calls of the action are such as the session admits, and it leaves the
session in a kept state. -/
def Admitted {α : Type} (kept : Session → Prop) (s : Session) (action : Action α) : Prop :=
  EnsuresFrom s.Admits (fun _ s' => kept s') s action

namespace Admitted

variable {α β : Type} {kept : Session → Prop} {s : Session} {action : Action α}

theorem pure {value : α} (h : kept s) : Admitted kept s (pure value) := ensuresFrom_pure.mpr h

theorem forget (h : Admitted kept s action) : Admitted (fun _ => True) s action :=
  EnsuresFrom.mono h (fun _ hq => hq) fun _ _ _ => trivial

theorem of_quiet {action : Action Outcome} (h : Quiet s action) : Admitted s.Stays s action :=
  EnsuresFrom.mono h (fun _ => admits_of_allows) fun _ _ ho => ho.1.stays

/-- Whoever is asked outside the real shell makes no call. -/
theorem lift {d : Dialogue α} (h : d.Ensures Mode.remoteDemo.Allows fun _ => True) :
    Admitted s.Stays s (liftM d : Action α) := by
  unfold Admitted
  rw [ensuresFrom_lift]
  exact h.mono (fun _ => admits_of_allows) fun _ _ => Stays.refl s

theorem set {s' : Session} (h : kept s') : Admitted kept s (set s') := ensuresFrom_set.mpr h

theorem modify {f : Session → Session} (h : kept (f s)) : Admitted kept s (modify f) :=
  ensuresFrom_modify.mpr h

theorem get_bind {f : Session → Action α} (h : Admitted kept s (f s)) :
    Admitted kept s (get >>= f) := by
  unfold Admitted
  rw [ensuresFrom_bind, ensuresFrom_get]
  exact h

/-- After an action that stays, the same calls are admitted as before. -/
theorem bind {f : α → Action β} (h : Admitted s.Stays s action)
    (hf : ∀ value s', s.Stays s' → Admitted kept s' (f value)) :
    Admitted kept s (action >>= f) := by
  unfold Admitted
  rw [ensuresFrom_bind]
  refine EnsuresFrom.mono h (fun _ hq => hq) fun value s' hs' => ?_
  -- What the second action calls is admitted where the first one left the session.
  exact EnsuresFrom.mono (hf value s' hs') (fun _ hq => hs'.admits hq) fun _ _ hk => hk

theorem bind_stays {f : α → Action β} (h : Admitted s.Stays s action)
    (hf : ∀ value s', s.Stays s' → Admitted s'.Stays s' (f value)) :
    Admitted s.Stays s (action >>= f) :=
  h.bind fun value s' hs' =>
    EnsuresFrom.mono (hf value s' hs') (fun _ hq => hq) fun _ _ hk => hs'.trans hk

theorem bind_pure {f : α → β} (h : Admitted kept s action) :
    Admitted kept s (do return f (← action)) := by
  unfold Admitted
  rw [ensuresFrom_bind]
  exact EnsuresFrom.mono h (fun _ hq => hq) fun _ _ hk => ensuresFrom_pure.mpr hk

theorem mapM {f : β → Action α} (h : ∀ x s', Admitted s'.Stays s' (f x)) (xs : List β) :
    Admitted s.Stays s (xs.mapM f) := by
  induction xs generalizing s with
  | nil => exact pure (Stays.refl s)
  | cons x xs ih =>
      rw [List.mapM_cons]
      exact (h x s).bind_stays fun _ _ _ => ih.bind_pure

end Admitted

/-! ## Files -/

namespace Session

variable {s : Session}

theorem admitted_safeExecute (hlocal : s.store.isSimulated = false) (text : String) :
    Admitted (fun s' => Executor.cdTarget? (Text.trim text) = none → s.Stays s') s
      (safeExecute text) := by
  refine ensuresFrom_safeExecute.mpr ?_
  refine (s.executor.ensures_makes text).mono (fun q hq call hcall => ?_) fun r hr hcd => ?_
  · exact ⟨hlocal, hq call hcall⟩
  · exact ⟨hr hcd, rfl⟩

theorem admitted_safeExecute_stays (hlocal : ¬ s.store.isSimulated = true) {text : String}
    (hcd : Executor.cdTarget? (Text.trim text) = none) :
    Admitted s.Stays s (safeExecute text) :=
  EnsuresFrom.mono (admitted_safeExecute (Bool.eq_false_iff.mpr hlocal) text) (fun _ hq => hq)
    fun _ _ hk => hk hcd

theorem admitted_contentOf (path : String) : Admitted s.Stays s (contentOf path) := by
  unfold contentOf
  refine Admitted.get_bind ?_
  split
  · exact Admitted.pure (Stays.refl s)
  · rename_i hlocal
    exact (admitted_safeExecute_stays hlocal (cdTarget?_catQuoted path)).bind_pure

theorem admitted_listDirectory (path : String) (showHidden : Bool) :
    Admitted s.Stays s (listDirectory path showHidden) := by
  unfold listDirectory
  refine Admitted.get_bind ?_
  split
  · exact Admitted.pure (Stays.refl s)
  · rename_i hlocal
    exact (admitted_safeExecute_stays hlocal (cdTarget?_lsQuoted _ _)).bind_pure

theorem admitted_createFile (path content : String) :
    Admitted s.Stays s (createFile path content) := by
  unfold createFile
  refine Admitted.get_bind ?_
  split
  · refine (Admitted.lift ensures_now).bind fun now s' _ => ?_
    -- The tree may be another one now, but the store is in the same mode.
    have hmode := s.store.mode_createFile now (s.placeOf path) content
    generalize s.store.createFile now (s.placeOf path) content = written at hmode ⊢
    obtain ⟨result, store⟩ := written
    exact (Admitted.set ⟨rfl, hmode⟩).bind_pure
  · rename_i hlocal
    exact (admitted_safeExecute_stays hlocal (cdTarget?_echoQuoted content path)).bind_pure

theorem admitted_createDirectory (path : String) :
    Admitted s.Stays s (createDirectory path) := by
  unfold createDirectory
  refine Admitted.get_bind ?_
  split
  · refine (Admitted.lift ensures_now).bind fun now s' _ => ?_
    have hmode := s.store.mode_createDirectory now path (s.placeOf path)
    generalize s.store.createDirectory now path (s.placeOf path) = written at hmode ⊢
    obtain ⟨result, store⟩ := written
    exact (Admitted.set ⟨rfl, hmode⟩).bind_pure
  · rename_i hlocal
    exact (admitted_safeExecute_stays hlocal (cdTarget?_mkdirQuoted path)).bind_pure

end Session

namespace Router

variable {s : Session}

/-- Outside the virtual tree a session is on the user's own machine. -/
theorem isSimulated_of_not_inVirtualTree (h : ¬ s.inVirtualTree = true) :
    s.store.isSimulated = false := by
  rw [Bool.not_eq_true] at h
  exact (Bool.or_eq_false_iff.mp h).1

/-- What ends a command and is left to the real shell is a call of the executor. -/
theorem admitted_handed (h : ¬ s.inVirtualTree = true) (text : String) :
    Admitted (fun _ => True) s (safeExecute text) :=
  (admitted_safeExecute (isSimulated_of_not_inVirtualTree h) text).forget

/-! ## Commands -/

theorem admitted_catOne (path : String) : Admitted s.Stays s (catOne path) := by
  unfold catOne
  refine Admitted.get_bind ?_
  dsimp only
  split
  · exact Admitted.of_quiet (quiet_catChallenge _ _)
  · exact (admitted_contentOf path).bind_pure

theorem admitted_catAll (paths : List String) : Admitted s.Stays s (catAll paths) := by
  induction paths generalizing s with
  | nil => exact Admitted.pure (Stays.refl s)
  | cons path rest ih =>
      unfold catAll
      exact (admitted_catOne path).bind_stays fun _ _ _ => ih.bind_pure

theorem admitted_cat (rest : String) : Admitted (fun _ => True) s (cat rest) := by
  unfold cat
  refine Admitted.get_bind ?_
  split
  · exact Admitted.pure trivial
  · exact (admitted_catOne _).forget
  · split
    · refine (admitted_catAll _).bind fun r _ _ => ?_
      dsimp only
      split
      · exact Admitted.pure trivial
      · exact Admitted.pure trivial
    · -- Several files at once are handed on as they were typed.
      rename_i hvirtual
      exact (admitted_handed hvirtual _).bind_pure

theorem admitted_listing (rest : String) : Admitted (fun _ => True) s (listing rest) := by
  unfold listing
  refine Admitted.get_bind ?_
  dsimp only
  split
  · exact (Admitted.of_quiet (quiet_challengeListing _ _ _ _)).forget
  · split
    · exact (admitted_listDirectory _ _).forget.bind_pure
    · rename_i hvirtual
      exact (admitted_handed hvirtual _).bind_pure

theorem admitted_cdVirtual (shown place : String) :
    Admitted (fun _ => True) s (cdVirtual shown place) := by
  unfold cdVirtual
  refine Admitted.get_bind ?_
  split
  · exact (Admitted.set trivial).bind_pure
  · exact Admitted.pure trivial

theorem admitted_cd (target : String) : Admitted (fun _ => True) s (cd target) := by
  unfold cd
  refine Admitted.get_bind ?_
  dsimp only
  split
  · split
    · exact Admitted.pure trivial
    · exact admitted_cdVirtual _ _
  · split
    · exact admitted_cdVirtual _ _
    · -- The executor may go elsewhere here, but the command ends with that.
      rename_i hlocal
      exact (admitted_safeExecute (Bool.eq_false_iff.mpr hlocal) _).forget.bind_pure

theorem admitted_redirect (command : String) (write : Redirect.Write) :
    Admitted (fun _ => True) s (redirect command write) := by
  unfold redirect
  refine Admitted.get_bind ?_
  split
  · exact Admitted.pure trivial
  · dsimp only
    split
    · cases write.operator with
      | append =>
          refine (admitted_contentOf _).bind fun _ _ _ => ?_
          rw [pure_bind]
          exact (admitted_createFile _ _).forget.bind_pure
      | overwrite =>
          rw [pure_bind]
          exact (admitted_createFile _ _).forget.bind_pure
    · rename_i hlocal
      split
      · exact (admitted_safeExecute (Bool.eq_false_iff.mpr hlocal) _).forget.bind_pure
      · exact (admitted_createFile _ _).forget.bind_pure

theorem admitted_mkdirOne (path : String) : Admitted s.Stays s (mkdirOne path) := by
  unfold mkdirOne
  refine Admitted.get_bind ?_
  split
  · exact Admitted.pure (Stays.refl s)
  · exact (admitted_createDirectory path).bind_pure

theorem admitted_touchOne (path : String) : Admitted s.Stays s (touchOne path) := by
  unfold touchOne
  refine Admitted.get_bind ?_
  split
  · exact Admitted.pure (Stays.refl s)
  · -- The file is read first, and made from the same directory if that fails.
    refine (admitted_contentOf path).bind_stays fun r s' _ => ?_
    split
    · exact Admitted.pure (Stays.refl s')
    · exact (admitted_createFile path "").bind_pure

theorem admitted_forOperands (program rest : String) {one : String → Action (Option String)}
    (hone : ∀ path s', Admitted s'.Stays s' (one path)) :
    Admitted (fun _ => True) s (forOperands program rest one) := by
  unfold forOperands
  split
  · exact Admitted.pure trivial
  · refine (Admitted.mapM hone _).bind fun _ _ _ => ?_
    dsimp only
    split
    · exact Admitted.pure trivial
    · exact Admitted.pure trivial

theorem admitted_simulatedBuiltin? {program rest : String} {action : Action CommandResult}
    (h : simulatedBuiltin? program rest = some action) :
    Admitted (fun _ => True) s action := by
  unfold simulatedBuiltin? at h
  split at h
  · cases h
    exact Admitted.get_bind (Admitted.pure trivial)
  · cases h
    exact Admitted.get_bind (Admitted.pure trivial)
  · cases h
    exact Admitted.get_bind (Admitted.pure trivial)
  · cases h
    exact (Admitted.lift ensures_now).forget.bind_pure
  · cases h
    exact Admitted.pure trivial
  · cases h
    exact admitted_forOperands _ _ fun path _ => admitted_mkdirOne path
  · cases h
    exact admitted_forOperands _ _ fun path _ => admitted_touchOne path
  · cases h

theorem admitted_runVirtual (program rest command : String) :
    Admitted (fun _ => True) s (runVirtual program rest command) := by
  unfold runVirtual
  split
  · rename_i action haction
    exact (admitted_simulatedBuiltin? haction).bind_pure
  · split
    · exact Admitted.pure trivial
    · exact Admitted.get_bind (Admitted.pure trivial)

theorem admitted_hack : Admitted (fun _ => True) s hack := by
  unfold hack
  refine Admitted.get_bind ?_
  split
  · exact Admitted.pure trivial
  · refine (Admitted.lift (Assistant.ensures_withFallback
      (Assistant.ensures_attempt _ _) _)).bind fun _ _ _ => ?_
    exact (Admitted.modify trivial).bind_pure

/-! ## Routing -/

theorem admitted_dispatchProgram (program rest command : String) :
    Admitted (fun _ => True) s (dispatchProgram program rest command) := by
  unfold dispatchProgram
  split
  · exact Admitted.pure trivial
  · exact Admitted.pure trivial
  · exact (Admitted.of_quiet quiet_hint).forget.bind_pure
  · exact admitted_hack
  · exact (Admitted.of_quiet (quiet_amuse _)).forget.bind_pure
  · exact (Admitted.of_quiet (quiet_amuse _)).forget.bind_pure
  · refine Admitted.get_bind ?_
    split
    · exact (admitted_runVirtual _ _ _).bind_pure
    · rename_i hvirtual
      exact (admitted_handed hvirtual command).bind_pure

/-- **Every call that a command leads to goes through the executor** of the session, which stands
where the command found it. -/
theorem admitted_dispatch (command : String) :
    Admitted (fun _ => True) s (dispatch command) := by
  unfold dispatch
  split
  split
  · exact (admitted_cat _).bind_pure
  · rw [ls_eq]
    exact (admitted_listing _).bind_pure
  · exact (admitted_cd _).bind_pure
  · split
    · exact (admitted_redirect _ _).bind_pure
    · exact admitted_dispatchProgram _ _ _

/-- A routed command is dispatched from the directory that the request names, and there the executor
makes its calls. -/
theorem admitted_route (s : Session) (command : String) (workingDirectory : Option String) :
    EnsuresFrom (entering s workingDirectory).Admits (fun _ _ => True) s
      (route command workingDirectory) :=
  ensuresFrom_route_entering.mpr (admitted_dispatch _)

end Router

end PlainTerminal
