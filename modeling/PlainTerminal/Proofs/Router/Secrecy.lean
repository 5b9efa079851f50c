import PlainTerminal.Proofs.Challenge.Lock
import PlainTerminal.Proofs.Dialogue.InStep
import PlainTerminal.Proofs.Router.Progress

/-!
# What is behind the lock stays secret

Two sessions that differ in nothing but what is in the locked directory are routed the same
commands. As long as a code is missing, nobody can tell them apart: the same is asked outside, the
same is answered, and the sessions are alike again.

`Blind` says this of one action in two sessions, and is put together along a command. It has to be
told of every place that a command looks at that it lies outside the lock; either the command has
asked the lock, or the place lies outside the challenge. There is one exception. A `cat` of several
files handles them in order, so it may read the file that reveals the last code, and after it one
behind the lock that is open from then on. `overreads` says when it does.
-/

namespace PlainTerminal

open Dialogue

namespace Session

/-- The sessions are the same but for what is in the locked directory. -/
def AlikeOutside (s s' : Session) : Prop :=
  ∃ tree, s' = s.withTree tree ∧ s.store.tree.AlikeOutside tree

/-- Two sessions that are alike outside the lock, of a user whose home directory is a canonical
path. -/
structure Apart (s s' : Session) : Prop where
  alike : s.AlikeOutside s'
  home : Path.IsCanonical s.home

/-- The same, with the progress that the player has. -/
structure Abreast (p : Challenge.Progress) (s s' : Session) : Prop extends Apart s s' where
  progress : s.progress = p

variable {s s' : Session} {p : Challenge.Progress}

theorem Apart.isCanonical_placeOf (h : s.Apart s') (path : String) :
    Path.IsCanonical (s.placeOf path) :=
  Store.isCanonical_resolvePath h.home path s.cwd

theorem Apart.withTree (h : s.Apart s') {tree tree' : Tree} (htree : tree.AlikeOutside tree') :
    Apart (s.withTree tree) (s'.withTree tree') := by
  obtain ⟨⟨old, rfl, -⟩, hcanonical⟩ := h
  exact ⟨⟨tree', rfl, htree⟩, hcanonical⟩

theorem Abreast.withTree (h : Abreast p s s') {tree tree' : Tree}
    (htree : tree.AlikeOutside tree') :
    Abreast p (s.withTree tree) (s'.withTree tree') :=
  ⟨h.toApart.withTree htree, h.progress⟩

theorem Abreast.withExecutor (h : Abreast p s s') {executor : Executor}
    (hhome : executor.home = s.executor.home) :
    Abreast p { s with executor } { s' with executor } := by
  obtain ⟨⟨⟨tree, rfl, htree⟩, hcanonical⟩, hprogress⟩ := h
  refine ⟨⟨⟨tree, rfl, htree⟩, ?_⟩, hprogress⟩
  unfold Session.home Executor.homeDirectory at hcanonical ⊢
  rwa [hhome]

theorem Apart.executor_eq (h : Apart s s') : s'.executor = s.executor := by
  obtain ⟨tree, rfl, -⟩ := h.alike
  rfl

theorem Apart.cwd_eq (h : Apart s s') : s'.cwd = s.cwd := by
  obtain ⟨tree, rfl, -⟩ := h.alike
  rfl

theorem Apart.inVirtualTree_eq (h : Apart s s') : s'.inVirtualTree = s.inVirtualTree := by
  obtain ⟨tree, rfl, -⟩ := h.alike
  rfl

theorem Apart.isSimulated_eq (h : Apart s s') :
    s'.store.isSimulated = s.store.isSimulated := by
  obtain ⟨tree, rfl, -⟩ := h.alike
  rfl

theorem Apart.placeOf_eq (h : Apart s s') (path : String) : s'.placeOf path = s.placeOf path := by
  obtain ⟨tree, rfl, -⟩ := h.alike
  rfl

theorem Abreast.setCwd (h : Abreast p s s') (path : String) :
    Abreast p (s.setCwd path) (s'.setCwd path) := by
  have hhome : (s.executor.setCwd path).home = s.executor.home := by
    simp only [Executor.setCwd]
  unfold Session.setCwd
  rw [h.executor_eq]
  exact h.withExecutor hhome

end Session

open Session

variable {α β : Type} {s s' : Session} {p : Challenge.Progress}

/-! ## Actions that cannot tell -/

/-- Two actions in two sessions are in step, come to the same, and leave both sessions alike with
the progress that there is. -/
def Blind (p : Challenge.Progress) (s s' : Session) (action action' : Action α) : Prop :=
  InStep (fun r r' => r.1 = r'.1 ∧ Abreast p r.2 r'.2) (action.run s) (action'.run s')

namespace Blind

theorem pure {value : α} (h : Abreast p s s') : Blind p s s' (pure value) (pure value) :=
  InStep.done ⟨rfl, h⟩

theorem get_bind {f f' : Session → Action α} (h : Blind p s s' (f s) (f' s')) :
    Blind p s s' (get >>= f) (get >>= f') := h

theorem bind {action action' : Action α} {f f' : α → Action β} (h : Blind p s s' action action')
    (hf : ∀ value t t', Abreast p t t' → Blind p t t' (f value) (f' value)) :
    Blind p s s' (action >>= f) (action' >>= f') := by
  refine InStep.action_bind h ?_
  rintro value t _ t' ⟨rfl, habreast⟩
  exact hf value t t' habreast

/-- What comes after an action that changes nothing happens in the session before it. -/
theorem bind_idle {action action' : Action α} {f f' : α → Action β}
    (h : Blind p s s' action action') (hidle : Idle s action)
    (hf : ∀ value t', Abreast p s t' → Blind p s t' (f value) (f' value)) :
    Blind p s s' (action >>= f) (action' >>= f') := by
  unfold Idle EnsuresFrom at hidle
  refine InStep.action_bind (InStep.and_ensures h hidle) ?_
  rintro value _ _ t' ⟨⟨rfl, habreast⟩, rfl⟩
  exact hf value t' habreast

/-- What an action comes to is the same, so what is made of it is the same. -/
theorem bind_pure {action action' : Action α} {f : α → β} (h : Blind p s s' action action') :
    Blind p s s' (do return f (← action)) (do return f (← action')) :=
  h.bind fun _ _ _ habreast => pure habreast

/-- The same is asked outside in both sessions. -/
theorem lift_bind {d : Dialogue α} {f f' : α → Action β}
    (hf : ∀ value, Blind p s s' (f value) (f' value)) :
    Blind p s s' (liftM d >>= f) (liftM d >>= f') :=
  InStep.lift_bind (ensures_true d) fun value _ => hf value

theorem set {t t' : Session} (h : Abreast p t t') : Blind p s s' (set t) (set t') :=
  InStep.done ⟨rfl, h⟩

/-- Both sessions take the same branch. -/
theorem ite {c : Prop} [Decidable c] {a b a' b' : Action α} (h : c → Blind p s s' a a')
    (h' : ¬ c → Blind p s s' b b') : Blind p s s' (if c then a else b) (if c then a' else b') := by
  by_cases hc : c
  · rw [if_pos hc, if_pos hc]
    exact h hc
  · rw [if_neg hc, if_neg hc]
    exact h' hc

theorem mapM {f : β → Action α} (h : ∀ x t t', Abreast p t t' → Blind p t t' (f x) (f x))
    (xs : List β) (hs : Abreast p s s') : Blind p s s' (xs.mapM f) (xs.mapM f) := by
  induction xs generalizing s s' with
  | nil => exact pure hs
  | cons x xs ih =>
      rw [List.mapM_cons]
      refine (h x s s' hs).bind fun _ _ _ hfirst => ?_
      exact (ih hfirst).bind fun _ _ _ hrest => pure hrest

end Blind

/-! ## The real shell -/

namespace Session

/-- The real shell is told the same, since both sessions have the same executor. -/
theorem blind_safeExecute (h : Abreast p s s') (command : String) :
    Blind p s s' (safeExecute command) (safeExecute command) := by
  unfold safeExecute
  refine Blind.get_bind ?_
  rw [h.executor_eq]
  refine InStep.lift_bind (s.executor.ensures_safeExecute command) ?_
  rintro ⟨result, executor⟩ ⟨cwd, hexecutor⟩
  have hsame : executor = { s.executor with cwd } := hexecutor
  have hhome : executor.home = s.executor.home := by rw [hsame]
  exact (Blind.set (h.withExecutor hhome)).bind fun _ _ _ habreast => Blind.pure habreast

/-! ## Files outside the challenge -/

theorem blind_contentOf (h : Abreast p s s') {path : String}
    (hout : Challenge.contains (s.placeOf path) = false) :
    Blind p s s' (contentOf path) (contentOf path) := by
  obtain ⟨tree, rfl, htree⟩ := h.alike
  have hlocked := Challenge.isLocked_of_not_contains hout
  have hhides : Challenge.hides (s.placeOf path) = false := by
    rw [Challenge.hides, hlocked, Bool.false_and]
  unfold contentOf
  refine Blind.get_bind (Blind.ite (fun _ => ?_) fun _ => ?_)
  · have hread := Store.read_alike htree (h.isCanonical_placeOf path) hhides path
    rw [withTree_placeOf, withTree, hread]
    exact Blind.pure h
  · exact (blind_safeExecute h _).bind_pure

theorem blind_listDirectory (h : Abreast p s s') {path : String} (showHidden : Bool)
    (hout : Challenge.contains (s.placeOf path) = false) :
    Blind p s s' (listDirectory path showHidden) (listDirectory path showHidden) := by
  obtain ⟨tree, rfl, htree⟩ := h.alike
  have hlocked := Challenge.isLocked_of_not_contains hout
  unfold listDirectory
  refine Blind.get_bind (Blind.ite (fun _ => ?_) fun _ => ?_)
  · have hlist := Store.list_alike htree (h.isCanonical_placeOf path) hlocked path showHidden
    rw [withTree_placeOf, withTree, hlist]
    exact Blind.pure h
  · exact (blind_safeExecute h _).bind_pure

theorem blind_createFile (h : Abreast p s s') {path : String} (content : String)
    (hout : Challenge.contains (s.placeOf path) = false) :
    Blind p s s' (createFile path content) (createFile path content) := by
  obtain ⟨tree, rfl, htree⟩ := h.alike
  have hlocked := Challenge.isLocked_of_not_contains hout
  unfold createFile
  refine Blind.get_bind (Blind.ite (fun _ => ?_) fun _ => ?_)
  · refine Blind.lift_bind fun now => ?_
    obtain ⟨result, t, t', h₁, h₂, ht⟩ :=
      Store.createFile_alike htree (h.isCanonical_placeOf path) hlocked now content
    rw [withTree_placeOf, withTree, h₁, h₂]
    exact (Blind.set (h.withTree ht)).bind fun _ _ _ habreast => Blind.pure habreast
  · exact (blind_safeExecute h _).bind_pure

theorem blind_createDirectory (h : Abreast p s s') {path : String}
    (hout : Challenge.contains (s.placeOf path) = false) :
    Blind p s s' (createDirectory path) (createDirectory path) := by
  obtain ⟨tree, rfl, htree⟩ := h.alike
  have hlocked := Challenge.isLocked_of_not_contains hout
  unfold createDirectory
  refine Blind.get_bind (Blind.ite (fun _ => ?_) fun _ => ?_)
  · refine Blind.lift_bind fun now => ?_
    obtain ⟨result, t, t', h₁, h₂, ht⟩ :=
      Store.createDirectory_alike htree (h.isCanonical_placeOf path) hlocked now path
    rw [withTree_placeOf, withTree, h₁, h₂]
    exact (Blind.set (h.withTree ht)).bind fun _ _ _ habreast => Blind.pure habreast
  · exact (blind_safeExecute h _).bind_pure

theorem Apart.progress_eq (h : Apart s s') : s'.progress = s.progress := by
  obtain ⟨tree, rfl, -⟩ := h.alike
  rfl

/-- What reading finds lies outside the lock. -/
theorem Apart.afterReading (h : Apart s s') (path : String) :
    Apart (s.afterReading path) (s'.afterReading path) := by
  have hplace := h.isCanonical_placeOf path
  obtain ⟨⟨tree, rfl, htree⟩, hhome⟩ := h
  refine ⟨⟨tree, ?_, htree⟩, hhome⟩
  have hprogress : s.progress.afterReading tree (s.placeOf path)
      = s.progress.afterReading s.store.tree (s.placeOf path) := by
    by_cases hlocked : Challenge.isLocked (s.placeOf path) = true
    · rw [Challenge.Progress.afterReading_of_isLocked hlocked,
        Challenge.Progress.afterReading_of_isLocked hlocked]
    · have hhides : Challenge.hides (s.placeOf path) = false := by
        rw [Challenge.hides, Bool.not_eq_true _ |>.mp hlocked, Bool.false_and]
      unfold Challenge.Progress.afterReading
      rw [htree.contentOf hplace hhides]
  unfold Session.afterReading
  rw [withTree_progress, withTree_tree, withTree_placeOf, hprogress]
  rfl

/-- One of the files is behind the lock, and all codes have been found when it is its turn. -/
def overreads (s : Session) : List String → Bool
  | [] => false
  | path :: rest => (s.progress.hasAll && Challenge.hides (s.placeOf path)) ||
      (s.afterReading path).overreads rest

theorem Apart.overreads_eq (h : Apart s s') (paths : List String) :
    s'.overreads paths = s.overreads paths := by
  induction paths generalizing s s' with
  | nil => rfl
  | cons path rest ih =>
      rw [overreads, overreads, h.progress_eq, h.placeOf_eq, ih (h.afterReading path)]

end Session

/-! ## Reading -/

/-- As `Blind`, but codes may be found, and with the flag set it need not be the same that the two
actions come to. -/
def Near (beyond : Bool) (s s' : Session) (action action' : Action α) : Prop :=
  InStep (fun r r' => (beyond = false → r.1 = r'.1) ∧ Apart r.2 r'.2) (action.run s)
    (action'.run s')

theorem Blind.near {beyond : Bool} {action action' : Action α} (h : Blind p s s' action action') :
    Near beyond s s' action action' :=
  InStep.mono h fun _ _ hr => ⟨fun _ => hr.1, hr.2.toApart⟩

namespace Near

variable {beyond : Bool}

theorem pure {value : α} (h : Apart s s') : Near beyond s s' (pure value) (pure value) :=
  InStep.done ⟨fun _ => rfl, h⟩

theorem get_bind {f f' : Session → Action α} (h : Near beyond s s' (f s) (f' s')) :
    Near beyond s s' (get >>= f) (get >>= f') := h

/-- Both sessions get the same progress. -/
theorem set_progress_pure {value : α} (h : Apart s s') (progress : Challenge.Progress) :
    Near beyond s s' (do set { s with progress }; return value)
      (do set { s' with progress }; return value) := by
  obtain ⟨tree, rfl, htree⟩ := h.alike
  exact InStep.done ⟨fun _ => rfl, ⟨tree, rfl, htree⟩, h.home⟩

theorem lift_pure {d : Dialogue β} {f : β → α} (h : Apart s s') :
    Near beyond s s' (do return f (← liftM d)) (do return f (← liftM d)) :=
  InStep.lift_bind (ensures_true d) fun _ _ => InStep.done ⟨fun _ => rfl, h⟩

theorem bind_pure {action action' : Action α} {f : α → β} (h : Near beyond s s' action action') :
    Near beyond s s' (do return f (← action)) (do return f (← action')) :=
  InStep.action_bind h fun _ _ _ _ hr => InStep.done ⟨fun hover => congrArg f (hr.1 hover), hr.2⟩

end Near

namespace Router

/-- Whatever is behind the lock, to read it asks nothing and changes nothing. -/
theorem run_catChallenge_hidden (s : Session) (path : String) {place : String}
    (hlocked : Challenge.isLocked place = true) :
    ∃ o, (catChallenge path place).run s = done (o, s) := by
  have hreadme : place ≠ Challenge.readmePath := by
    rintro rfl
    rw [Challenge.isLocked_readmePath] at hlocked
    cases hlocked
  have hvictory : place ≠ Challenge.victoryPath := by
    rintro rfl
    rw [Challenge.victoryPath_facts.2.1] at hlocked
    cases hlocked
  have hcode := Challenge.Progress.codeAt_of_isLocked hlocked
  unfold catChallenge
  rw [StateT.run_bind, StateT.run_get, pure_eq, done_bind]
  dsimp only
  cases Challenge.lockAt place s.progress with
  | some lock => exact ⟨_, rfl⟩
  | none =>
      dsimp only
      rw [if_neg hreadme, if_neg hvictory]
      cases s.store.tree.contentOf place with
      | error e => cases e <;> exact ⟨_, rfl⟩
      | ok text =>
          dsimp only
          rw [hcode]
          exact ⟨_, rfl⟩

theorem near_catChallenge (h : Apart s s') (path : String) {place : String}
    (hplace : Path.IsCanonical place) :
    Near (s.progress.hasAll && Challenge.hides place) s s' (catChallenge path place)
      (catChallenge path place) := by
  by_cases hover : (s.progress.hasAll && Challenge.hides place) = true
  · -- the lock is open, and what is behind it need not be the same
    rw [Bool.and_eq_true, Challenge.hides, Bool.and_eq_true] at hover
    obtain ⟨o, ho⟩ := run_catChallenge_hidden s path hover.2.1
    obtain ⟨o', ho'⟩ := run_catChallenge_hidden s' path hover.2.1
    unfold Near
    rw [ho, ho']
    refine InStep.done ⟨fun hflag => ?_, h⟩
    rw [Challenge.hides, hover.1, hover.2.1, hover.2.2] at hflag
    cases hflag
  · obtain ⟨tree, rfl, htree⟩ := h.alike
    unfold catChallenge
    refine Near.get_bind ?_
    simp only [withTree_progress, withTree_tree]
    cases hlock : Challenge.lockAt place s.progress with
    | some lock => exact Near.pure h
    | none =>
        have hhides : Challenge.hides place = false := by
          rw [Bool.and_eq_true, not_and] at hover
          refine Bool.eq_false_iff.mpr fun hhides => hover ?_ hhides
          refine Challenge.lockAt_eq_none_iff.mp hlock ?_
          rw [Challenge.hides, Bool.and_eq_true] at hhides
          exact hhides.1
        dsimp only
        rw [← htree.contentOf hplace hhides]
        split
        · exact Near.lift_pure h
        · split
          · cases (Challenge.readVictory Challenge.victory s.progress).1 with
            | ok text => exact Near.set_progress_pure h _
            | error refusal => exact Near.set_progress_pure h _
          · cases s.store.tree.contentOf place with
            | error e => cases e <;> exact Near.pure h
            | ok text =>
                cases Challenge.codeAt place with
                | none => exact Near.pure h
                | some code => exact Near.set_progress_pure h _

theorem near_catOne (h : Apart s s') (path : String) :
    Near (s.progress.hasAll && Challenge.hides (s.placeOf path)) s s' (catOne path)
      (catOne path) := by
  unfold catOne
  refine Near.get_bind ?_
  dsimp only
  rw [h.placeOf_eq]
  split
  · exact near_catChallenge h path (h.isCanonical_placeOf path)
  · rename_i hout
    have habreast : Abreast s.progress s s' := ⟨h, rfl⟩
    exact (blind_contentOf habreast (Bool.eq_false_iff.mpr hout)).bind_pure.near

/-- Files are read one after the other, each with the codes that have been found by then. -/
theorem near_catAll (h : Apart s s') (paths : List String) :
    Near (s.overreads paths) s s' (catAll paths) (catAll paths) := by
  induction paths generalizing s s' with
  | nil => exact Near.pure h
  | cons path rest ih =>
      unfold catAll
      have hend := ensuresFrom_catOne (s := s) path
      unfold EnsuresFrom at hend
      refine InStep.action_bind ((near_catOne h path).and_ensures hend) ?_
      rintro part _ part' t' ⟨⟨hpart, hapart⟩, rfl⟩
      refine InStep.action_bind (ih hapart) ?_
      rintro ⟨texts, errors⟩ u ⟨texts', errors'⟩ u' ⟨hrest, hapart'⟩
      refine InStep.done ⟨fun hover => ?_, hapart'⟩
      rw [Session.overreads, Bool.or_eq_false_iff] at hover
      obtain rfl : part = part' := hpart hover.1
      obtain ⟨rfl, rfl⟩ := Prod.mk.inj (hrest hover.2)
      rfl

theorem near_cat (h : Apart s s') (rest : String) :
    Near (s.overreads (catOperands s rest)) s s' (cat rest) (cat rest) := by
  unfold cat catOperands
  refine Near.get_bind ?_
  rw [h.inVirtualTree_eq]
  match Text.words rest with
  | [] => exact Near.pure h
  | [path] =>
      have hone : s.overreads [path]
          = (s.progress.hasAll && Challenge.hides (s.placeOf path)) := by
        rw [Session.overreads, Session.overreads, Bool.or_false]
      dsimp only
      rw [hone]
      exact near_catOne h path
  | first :: second :: others =>
      dsimp only
      split
      · refine InStep.action_bind (near_catAll h _) ?_
        rintro ⟨texts, errors⟩ t ⟨texts', errors'⟩ t' ⟨hsame, hapart⟩
        dsimp only
        by_cases hover : s.overreads (first :: second :: others) = false
        · obtain ⟨rfl, rfl⟩ := Prod.mk.inj (hsame hover)
          split
          · exact Near.pure hapart
          · exact Near.pure hapart
        · -- the texts may differ, but no more is done with them
          split
          · split
            · exact InStep.done ⟨fun h => absurd h hover, hapart⟩
            · exact InStep.done ⟨fun h => absurd h hover, hapart⟩
          · split
            · exact InStep.done ⟨fun h => absurd h hover, hapart⟩
            · exact InStep.done ⟨fun h => absurd h hover, hapart⟩
      · have habreast : Abreast s.progress s s' := ⟨h, rfl⟩
        exact (blind_safeExecute habreast _).bind_pure.near

/-! ## The other commands -/

theorem blind_challengeListing (h : Abreast p s s') (hmissing : p.hasAll = false)
    {path place : String} (hplace : Path.IsCanonical place) (showHidden long : Bool) :
    Blind p s s' (challengeListing path place showHidden long)
      (challengeListing path place showHidden long) := by
  obtain ⟨tree, rfl, htree⟩ := h.alike
  unfold challengeListing
  refine Blind.get_bind ?_
  simp only [withTree_progress, withTree_tree]
  cases hlock : Challenge.lockAt place s.progress with
  | some lock => exact Blind.pure h
  | none =>
      have hlocked : Challenge.isLocked place = false := by
        refine Bool.eq_false_iff.mpr fun hlocked => ?_
        have hall := Challenge.lockAt_eq_none_iff.mp hlock hlocked
        rw [h.progress, hmissing] at hall
        cases hall
      dsimp only
      rcases htree.resolve_cases hplace hlocked with
        ⟨h₁, h₂⟩ | ⟨a, content, h₁, h₂⟩ | ⟨a, c, c', h₁, h₂, hshape⟩
      · rw [h₁, h₂]
        exact Blind.pure h
      · rw [h₁, h₂]
        exact Blind.pure h
      · rw [h₁, h₂]
        have hfilter := Tree.filter_shape hshape fun name => showHidden || !Tree.isHidden name
        dsimp only
        rw [Listing.map_ofNode_of_shape hfilter, map_fst_of_shape hfilter]
        split
        · exact Blind.pure h
        · exact Blind.pure h

theorem blind_listing (h : Abreast p s s') (hmissing : p.hasAll = false) (rest : String) :
    Blind p s s' (listing rest) (listing rest) := by
  unfold listing
  refine Blind.get_bind ?_
  dsimp only
  rw [h.placeOf_eq, h.inVirtualTree_eq]
  refine Blind.ite (fun _ => ?_) fun hout => Blind.ite (fun _ => ?_) fun _ => ?_
  · exact blind_challengeListing h hmissing (h.isCanonical_placeOf _) _ _
  · exact (blind_listDirectory h _ (Bool.eq_false_iff.mpr hout)).bind_pure
  · exact (blind_safeExecute h _).bind_pure

theorem blind_cdVirtual (h : Abreast p s s') {shown place : String}
    (hplace : Path.IsCanonical place) (hlocked : Challenge.isLocked place = false) :
    Blind p s s' (cdVirtual shown place) (cdVirtual shown place) := by
  have hdir : s'.store.tree.isDirectory place = s.store.tree.isDirectory place := by
    obtain ⟨tree, rfl, htree⟩ := h.alike
    exact (htree.isDirectory hplace hlocked).symm
  unfold cdVirtual
  refine Blind.get_bind ?_
  rw [hdir]
  refine Blind.ite (fun _ => ?_) fun _ => Blind.pure h
  exact (Blind.set (h.setCwd place)).bind fun _ _ _ habreast => Blind.pure habreast

theorem blind_cd (h : Abreast p s s') (hmissing : p.hasAll = false) (target : String) :
    Blind p s s' (cd target) (cd target) := by
  have hplace := isCanonical_cdPlace h.home target
  have hplace' : cdPlace s' target = cdPlace s target := by
    obtain ⟨tree, rfl, -⟩ := h.alike
    rfl
  unfold cd
  refine Blind.get_bind ?_
  dsimp only
  rw [hplace', h.progress_eq, h.isSimulated_eq, h.cwd_eq]
  refine Blind.ite (fun _ => ?_) fun hout => Blind.ite (fun _ => ?_) fun _ => ?_
  · cases hlock : Challenge.lockAt (cdPlace s target) s.progress with
    | some lock => exact Blind.pure h
    | none =>
        refine blind_cdVirtual h hplace (Bool.eq_false_iff.mpr fun hlocked => ?_)
        have hall := Challenge.lockAt_eq_none_iff.mp hlock hlocked
        rw [h.progress, hmissing] at hall
        cases hall
  · exact blind_cdVirtual h hplace
      (Challenge.isLocked_of_not_contains (Bool.eq_false_iff.mpr hout))
  · exact (blind_safeExecute h _).bind_pure

theorem challengeRefusal_eq (h : Apart s s') (program path : String) :
    challengeRefusal s' program path = challengeRefusal s program path := by
  unfold challengeRefusal
  rw [h.placeOf_eq]

theorem blind_redirect (h : Abreast p s s') (command : String) (write : Redirect.Write) :
    Blind p s s' (redirect command write) (redirect command write) := by
  unfold redirect
  refine Blind.get_bind ?_
  rw [challengeRefusal_eq h.toApart, h.isSimulated_eq]
  cases hrefusal : challengeRefusal s "echo" write.path with
  | some refusal => exact Blind.pure h
  | none =>
      have hout := challengeRefusal_eq_none_iff.mp hrefusal
      refine Blind.ite (fun hsim => ?_) fun _ => ?_
      · cases write.operator with
        | append =>
            refine (blind_contentOf h hout).bind_idle (idle_contentOf _) fun result t' ht => ?_
            rw [pure_bind]
            exact (blind_createFile ht _ hout).bind_pure
        | overwrite =>
            dsimp only
            rw [pure_bind]
            exact (blind_createFile h _ hout).bind_pure
      · cases write.operator with
        | append => exact (blind_safeExecute h _).bind_pure
        | overwrite => exact (blind_createFile h _ hout).bind_pure

theorem blind_mkdirOne (h : Abreast p s s') (path : String) :
    Blind p s s' (mkdirOne path) (mkdirOne path) := by
  unfold mkdirOne
  refine Blind.get_bind ?_
  rw [challengeRefusal_eq h.toApart]
  cases hrefusal : challengeRefusal s "mkdir" path with
  | some refusal => exact Blind.pure h
  | none =>
      exact (blind_createDirectory h (challengeRefusal_eq_none_iff.mp hrefusal)).bind_pure

theorem blind_touchOne (h : Abreast p s s') (path : String) :
    Blind p s s' (touchOne path) (touchOne path) := by
  unfold touchOne
  refine Blind.get_bind ?_
  rw [challengeRefusal_eq h.toApart]
  cases hrefusal : challengeRefusal s "touch" path with
  | some refusal => exact Blind.pure h
  | none =>
      have hout := challengeRefusal_eq_none_iff.mp hrefusal
      refine Blind.bind_idle (blind_contentOf h hout) (idle_contentOf _) fun result t' ht => ?_
      refine Blind.ite (fun _ => Blind.pure ht) fun _ => ?_
      exact (blind_createFile ht _ hout).bind_pure

theorem blind_forOperands (h : Abreast p s s') (program rest : String)
    {one : String → Action (Option String)}
    (hone : ∀ path t t', Abreast p t t' → Blind p t t' (one path) (one path)) :
    Blind p s s' (forOperands program rest one) (forOperands program rest one) := by
  unfold forOperands
  split
  · exact Blind.pure h
  · refine (Blind.mapM hone _ h).bind fun errors t t' ht => ?_
    exact Blind.ite (fun _ => Blind.pure ht) fun _ => Blind.pure ht

theorem blind_hint (h : Abreast p s s') : Blind p s s' hint hint := by
  unfold hint
  refine Blind.get_bind ?_
  rw [h.cwd_eq, h.progress_eq]
  refine Blind.ite (fun _ => ?_) fun _ => Blind.pure h
  exact Blind.lift_bind fun _ => Blind.pure h

theorem blind_amuse (h : Abreast p s s') (pool : List String) :
    Blind p s s' (amuse pool) (amuse pool) := by
  unfold amuse
  exact Blind.lift_bind fun _ => Blind.pure h

theorem blind_simulatedBuiltin? (h : Abreast p s s') {program rest : String}
    {action : Action CommandResult} (haction : simulatedBuiltin? program rest = some action) :
    Blind p s s' action action := by
  unfold simulatedBuiltin? at haction
  split at haction
  · cases haction
    refine Blind.get_bind ?_
    rw [h.cwd_eq]
    exact Blind.pure h
  · cases haction
    refine Blind.get_bind ?_
    rw [h.executor_eq]
    exact Blind.pure h
  · cases haction
    refine Blind.get_bind ?_
    rw [h.executor_eq]
    exact Blind.pure h
  · cases haction
    exact Blind.lift_bind fun _ => Blind.pure h
  · cases haction
    exact Blind.pure h
  · cases haction
    exact blind_forOperands h _ _ fun path _ _ ht => blind_mkdirOne ht path
  · cases haction
    exact blind_forOperands h _ _ fun path _ _ ht => blind_touchOne ht path
  · cases haction

theorem blind_runVirtual (h : Abreast p s s') (program rest command : String) :
    Blind p s s' (runVirtual program rest command) (runVirtual program rest command) := by
  unfold runVirtual
  split
  · rename_i action haction
    exact (blind_simulatedBuiltin? h haction).bind_pure
  · split
    · exact Blind.pure h
    · refine Blind.get_bind ?_
      rw [h.isSimulated_eq]
      exact Blind.pure h

/-- `hack` looks for the challenge, which is not behind the lock. -/
theorem near_hack (h : Apart s s') {beyond : Bool} : Near beyond s s' hack hack := by
  have hcanonical : Path.IsCanonical Challenge.root :=
    ⟨Challenge.rootSegments, Challenge.rootSegments_isSegment, Challenge.root_eq_render⟩
  have hdir : s'.store.tree.isDirectory Challenge.root
      = s.store.tree.isDirectory Challenge.root := by
    obtain ⟨tree, rfl, htree⟩ := h.alike
    exact (htree.isDirectory hcanonical (by decide +kernel)).symm
  unfold hack
  refine Near.get_bind ?_
  rw [hdir]
  split
  · exact Near.pure h
  · refine InStep.lift_bind (ensures_true _) fun introduction _ => ?_
    obtain ⟨tree, rfl, htree⟩ := h.alike
    have hstarted : Abreast s.progress.start { s with progress := s.progress.start }
        ({ s with progress := s.progress.start }.withTree tree) :=
      ⟨⟨⟨tree, rfl, htree⟩, h.home⟩, rfl⟩
    exact InStep.done ⟨fun _ => rfl, (hstarted.setCwd Challenge.root).toApart⟩

theorem near_dispatchProgram (h : Apart s s') {beyond : Bool} (program rest command : String) :
    Near beyond s s' (dispatchProgram program rest command)
      (dispatchProgram program rest command) := by
  have habreast : Abreast s.progress s s' := ⟨h, rfl⟩
  unfold dispatchProgram
  split
  · exact Near.pure h
  · exact Near.pure h
  · exact (blind_hint habreast).bind_pure.near
  · exact near_hack h
  · exact (blind_amuse habreast _).bind_pure.near
  · exact (blind_amuse habreast _).bind_pure.near
  · refine Near.get_bind ?_
    rw [h.inVirtualTree_eq]
    refine Blind.near (Blind.ite (p := s.progress) (fun _ => ?_) fun _ => ?_)
    · exact (blind_runVirtual habreast _ _ _).bind_pure
    · exact (blind_safeExecute habreast _).bind_pure

/-- The command is a `cat` that reads what is behind the lock after the file with the last code. -/
def overreads (s : Session) (command : String) : Bool :=
  match Text.splitAtBlank command with
  | ("cat", rest) => s.overreads (catOperands s rest)
  | _ => false

theorem overreads_eq (h : Apart s s') (command : String) :
    overreads s' command = overreads s command := by
  unfold overreads catOperands
  rw [h.inVirtualTree_eq]
  split
  · exact h.overreads_eq _
  · rfl

theorem near_dispatch (h : Apart s s') (hmissing : s.progress.hasAll = false) (command : String) :
    Near (overreads s command) s s' (dispatch command) (dispatch command) := by
  have habreast : Abreast s.progress s s' := ⟨h, rfl⟩
  rcases hsplit : Text.splitAtBlank command with ⟨program, rest⟩
  by_cases hcat : program = "cat"
  · subst hcat
    have hover : overreads s command = s.overreads (catOperands s rest) := by
      unfold overreads
      rw [hsplit]
      rfl
    rw [hover, dispatch_cat hsplit]
    exact (near_cat h rest).bind_pure
  · unfold dispatch
    rw [hsplit]
    dsimp only
    split
    · exact absurd rfl hcat
    · rw [ls_eq]
      exact (blind_listing habreast hmissing rest).bind_pure.near
    · exact (blind_cd habreast hmissing rest).bind_pure.near
    · split
      · exact (blind_redirect habreast _ _).bind_pure.near
      · exact near_dispatchProgram h _ _ _

/-! ## Routing -/

theorem apart_entering (h : Apart s s') (workingDirectory : Option String) :
    Apart (entering s workingDirectory) (entering s' workingDirectory) := by
  have habreast : Abreast s.progress s s' := ⟨h, rfl⟩
  unfold entering
  cases workingDirectory with
  | none => exact h
  | some directory =>
      dsimp only
      split
      · exact h
      · exact (habreast.setCwd directory).toApart

theorem near_route (h : Apart s s') (hmissing : s.progress.hasAll = false) (command : String)
    (workingDirectory : Option String) :
    Near (overreads (entering s workingDirectory) (Text.trim command)) s s'
      (route command workingDirectory) (route command workingDirectory) := by
  rw [← Turn.progress_entering s workingDirectory] at hmissing
  unfold Near
  rw [run_route (s := s), run_route (s := s'), route_eq]
  refine InStep.action_bind
    (near_dispatch (apart_entering h workingDirectory) hmissing (Text.trim command)) ?_
  rintro r t r' t' ⟨hsame, hapart⟩
  refine InStep.done ⟨fun hover => ?_, hapart⟩
  obtain rfl : r = r' := hsame hover
  unfold resultAt
  dsimp only
  rw [hapart.cwd_eq]

/-- Routes commands for as long as a code is missing. The result of a command that overreads is left
out; it can be no other than the last one. -/
def routeLocked : List (String × Option String) → Action (List (Option ExecutionResult))
  | [] => return []
  | (command, workingDirectory) :: rest => do
    let s ← get
    if s.progress.hasAll then return []
    else
      let result ← route command workingDirectory
      let told :=
        if overreads (entering s workingDirectory) (Text.trim command) then none else some result
      return told :: (← routeLocked rest)

theorem near_routeLocked (h : Apart s s') (commands : List (String × Option String)) :
    Near false s s' (routeLocked commands) (routeLocked commands) := by
  induction commands generalizing s s' with
  | nil => exact Near.pure h
  | cons first rest ih =>
      obtain ⟨command, workingDirectory⟩ := first
      unfold routeLocked
      refine Near.get_bind ?_
      rw [h.progress_eq]
      cases hall : s.progress.hasAll with
      | true => exact Near.pure h
      | false =>
          have hover := overreads_eq (apart_entering h workingDirectory) (Text.trim command)
          rw [hover]
          refine InStep.action_bind (near_route h hall command workingDirectory) ?_
          rintro result t result' t' ⟨hsame, hapart⟩
          have htold : (if overreads (entering s workingDirectory) (Text.trim command) then none
              else some result)
              = if overreads (entering s workingDirectory) (Text.trim command) then none
                else some result' := by
            cases hflag : overreads (entering s workingDirectory) (Text.trim command) with
            | true => rfl
            | false =>
                obtain rfl : result = result' := hsame hflag
                rfl
          dsimp only
          rw [htold]
          exact (ih hapart).bind_pure

/-- **What is behind the lock stays secret.** -/
theorem route_keeps_secret (hhome : Path.IsCanonical s.home) (halike : s.AlikeOutside s')
    (hmissing : s.progress.hasAll = false) :
    (∀ (command : String) (workingDirectory : Option String),
      InStep (fun r r' =>
          (overreads (entering s workingDirectory) (Text.trim command) = false → r.1 = r'.1) ∧
            r.2.AlikeOutside r'.2)
        ((route command workingDirectory).run s) ((route command workingDirectory).run s')) ∧
    ∀ commands : List (String × Option String),
      InStep (fun r r' => r.1 = r'.1 ∧ r.2.AlikeOutside r'.2)
        ((routeLocked commands).run s) ((routeLocked commands).run s') := by
  have h : Apart s s' := ⟨halike, hhome⟩
  refine ⟨fun command workingDirectory => ?_, fun commands => ?_⟩
  · exact InStep.mono (near_route h hmissing command workingDirectory)
      fun _ _ hr => ⟨hr.1, hr.2.alike⟩
  · exact InStep.mono (near_routeLocked h commands) fun _ _ hr => ⟨hr.1 rfl, hr.2.alike⟩

/-- A player who has still to find the last code. -/
def oneMissing : Session :=
  { Session.new (.new "/home/user" "/home/user" ⟨30000, 1048576⟩) .remoteDemo ⟨0⟩ with
    progress := { stage := .vault, intel := true, matrix := true } }

/-- The same player, with nothing behind the lock. -/
def oneMissingEmptied : Session :=
  oneMissing.withTree (oneMissing.store.tree.emptiedAt Challenge.lockedSegments)

theorem isCanonical_home_oneMissing : Path.IsCanonical oneMissing.home :=
  Path.isCanonical_iff.mpr (by decide +kernel)

theorem alikeOutside_oneMissing : oneMissing.AlikeOutside oneMissingEmptied :=
  ⟨_, rfl, (Node.emptiedAt_emptiedAt _ _).symm⟩

/-- A detour to what is behind the lock tells nothing. -/
theorem route_keeps_secret_detour :
    Path.IsCanonical oneMissing.home ∧ oneMissing.AlikeOutside oneMissingEmptied ∧
    oneMissing.progress.hasAll = false ∧
    InStep (fun r r' => r.1 = r'.1 ∧ r.2.AlikeOutside r'.2)
      ((route "cat games/./level2//transmission.txt" (some "/var")).run oneMissing)
      ((route "cat games/./level2//transmission.txt" (some "/var")).run oneMissingEmptied) := by
  have hmissing : oneMissing.progress.hasAll = false := by decide +kernel
  have hover : overreads (entering oneMissing (some "/var"))
      (Text.trim "cat games/./level2//transmission.txt") = false := by decide +kernel
  have hsecret := (route_keeps_secret isCanonical_home_oneMissing alikeOutside_oneMissing
    hmissing).1 "cat games/./level2//transmission.txt" (some "/var")
  exact ⟨isCanonical_home_oneMissing, alikeOutside_oneMissing, hmissing,
    hsecret.mono fun _ _ hr => ⟨hr.1 hover, hr.2⟩⟩

/-- Somebody who gives an answer to every question. -/
def somebody : (q : Question) → Unit → q.Answer × Unit
  | .runCommand _, _ => (CommandResult.ok "", ())
  | .isDirectory _, _ => (false, ())
  | .listDirectory _, _ => (([] : List String), ())
  | .complete _, _ => ((.ok "" : Except ModelError String), ())
  | .now, _ => ((⟨0⟩ : Timestamp), ())
  | .pick last, _ => ((⟨0, Nat.succ_pos last⟩ : Fin (last + 1)), ())

/-- The two players are told apart by one command that finds the last code and goes on behind the
lock. -/
theorem overread_tells :
    Path.IsCanonical oneMissing.home ∧ oneMissing.AlikeOutside oneMissingEmptied ∧
    oneMissing.progress.hasAll = false ∧
    ¬ InStep (fun r r' => r.1 = r'.1)
      ((route "cat /var/games/vault/treasure.txt /var/games/level2/transmission.txt" none).run
        oneMissing)
      ((route "cat /var/games/vault/treasure.txt /var/games/level2/transmission.txt" none).run
        oneMissingEmptied) := by
  have hmissing : oneMissing.progress.hasAll = false := by decide +kernel
  refine ⟨isCanonical_home_oneMissing, alikeOutside_oneMissing, hmissing, fun h => ?_⟩
  have hdiffer : (((route "cat /var/games/vault/treasure.txt /var/games/level2/transmission.txt"
        none).run oneMissing).run somebody ()).1.1.success
      ≠ (((route "cat /var/games/vault/treasure.txt /var/games/level2/transmission.txt"
        none).run oneMissingEmptied).run somebody ()).1.1.success := by decide +kernel
  exact hdiffer (congrArg ExecutionResult.success (h.run somebody ()))

end Router

end PlainTerminal
