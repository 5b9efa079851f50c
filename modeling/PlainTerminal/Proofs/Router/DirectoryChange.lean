import PlainTerminal.Proofs.Router.ReadBack
import PlainTerminal.Proofs.Router.Steady

/-!
# Changing the directory in the demo

`cd` looks for what was typed in a table of directory changes first and resolves it like any path
only then, and it asks the lock for places of the challenge alone. Neither makes a difference: an
entry of the table leads where the path of that text does, and what is behind the lock is in the
challenge. So the directory that `cd` goes to is the one that was typed, and whether it does is a
question about that directory.
-/

namespace PlainTerminal

open Dialogue

namespace Session

variable {s : Session}

/-- A player may go to a directory of the tree, and behind the lock with all codes. -/
def MayEnter (s : Session) (place : String) : Prop :=
  s.store.tree.isDirectory place = true ∧
    (Challenge.isLocked place = true → s.progress.hasAll = true)

/-- To go to a place changes where the player stands and nothing else. -/
theorem setCwd_of_isCanonical {place : String} (h : Path.IsCanonical place) :
    s.setCwd place = { s with executor := { s.executor with cwd := place } } := by
  unfold Session.setCwd Executor.setCwd Executor.resolve
  rw [Executor.resolveFrom_of_isCanonical h]

end Session

namespace Router

variable {s : Session} {target : String}

theorem run_cdVirtual_of_isDirectory {shown place : String}
    (h : s.store.tree.isDirectory place = true) :
    (cdVirtual shown place).run s = done (.ok "", s.setCwd place) := by
  unfold cdVirtual
  rw [StateT.run_bind, StateT.run_get, pure_bind]
  dsimp only
  rw [if_pos h]
  rfl

theorem run_cdVirtual_of_not_isDirectory {shown place : String}
    (h : ¬ s.store.tree.isDirectory place = true) : (cdVirtual shown place).run s
      = done (.failure ("cd: " ++ shown ++ ": No such file or directory") 1, s) := by
  unfold cdVirtual
  rw [StateT.run_bind, StateT.run_get, pure_bind]
  dsimp only
  rw [if_neg h]
  rfl

/-- In the demo `cd` may as well ask the lock for every place, in the challenge or not. -/
theorem run_cd (hsim : s.store.isSimulated = true) (target : String) :
    (cd target).run s = match Challenge.lockAt (destination s target) s.progress with
      | some lock => done (.failure ("cd: " ++ (if target = "" then "~" else target) ++ ": " ++
          lock.message) 1, s)
      | none => (cdVirtual (if target = "" then "~" else target) (destination s target)).run s := by
  unfold cd
  rw [StateT.run_bind, StateT.run_get, pure_bind]
  dsimp only
  rw [cdPlace_eq_destination, hsim]
  by_cases hin : Challenge.contains (destination s target) = true
  · rw [if_pos hin]
    cases Challenge.lockAt (destination s target) s.progress with
    | some lock => rfl
    | none => rfl
  · -- The lock has nothing to say about a place outside the challenge.
    rw [if_neg hin, if_pos rfl, Challenge.lockAt_of_not_contains (Bool.eq_false_iff.mpr hin)]

/-! ## What a directory change comes to -/

/-- What a directory change to a place comes to: the player stands there if they may and nothing else
is different, or nothing at all is. -/
structure Changed (s : Session) (place : String) (r : ExecutionResult) (s' : Session) : Prop where
  success_iff : r.success = true ↔ s.MayEnter place
  arrived : r.success = true → s' = { s with executor := { s.executor with cwd := place } }
  stayed : r.success = false → r.result.exitCode = 1 ∧ s' = s

theorem changed_of_mayEnter {place cwd : String} (hplace : Path.IsCanonical place)
    (hmay : s.MayEnter place) :
    Changed s place ⟨.ok "", cwd, true⟩ (s.setCwd place) where
  success_iff := iff_of_true rfl hmay
  arrived _ := Session.setCwd_of_isCanonical hplace
  stayed := nofun

theorem changed_of_refusal {place refusal cwd : String} (hmay : ¬ s.MayEnter place) :
    Changed s place ⟨.failure refusal 1, cwd, true⟩ s where
  success_iff := iff_of_false Bool.false_ne_true hmay
  arrived := nofun
  stayed _ := ⟨rfl, rfl⟩

theorem changed_cd (hsim : s.store.isSimulated = true) (hhome : Path.IsCanonical s.home)
    (target : String) : ∃ o s', (cd target).run s = done (o, s') ∧
      Changed s (destination s target) ⟨o.result, s'.cwd, o.isSimulated⟩ s' := by
  have hplace := isCanonical_destination hhome target
  rw [run_cd hsim]
  cases hlock : Challenge.lockAt (destination s target) s.progress with
  | some lock =>
      refine ⟨_, _, rfl, changed_of_refusal fun hmay => ?_⟩
      rw [Challenge.lockAt_eq_none_iff.mpr hmay.2] at hlock
      cases hlock
  | none =>
      by_cases hdir : s.store.tree.isDirectory (destination s target) = true
      · exact ⟨_, _, run_cdVirtual_of_isDirectory hdir,
          changed_of_mayEnter hplace ⟨hdir, Challenge.lockAt_eq_none_iff.mp hlock⟩⟩
      · exact ⟨_, _, run_cdVirtual_of_not_isDirectory hdir,
          changed_of_refusal fun hmay => hdir hmay.1⟩

/-- What `cd` with an operand comes to is what changing the directory does. -/
theorem run_route_cd {o : Outcome} {s' : Session} (htrim : Text.trim target = target)
    (h : (cd target).run s = done (o, s')) :
    (route ("cd " ++ target) none).run s = done (⟨o.result, s'.cwd, o.isSimulated⟩, s') := by
  have hsplit : Text.splitAtBlank (Text.trim ("cd " ++ target)) = ("cd", target) :=
    Text.splitAtBlank_command (by decide) (by decide) htrim
  rw [route_eq, dispatch_cd hsplit, StateT.run_bind, StateT.run_bind, h]
  rfl

/-- **In the demo `cd` has one meaning**: it leads to the directory that was typed, if that is a
directory and not behind a lock. The table of directory changes leads nowhere else. -/
theorem cd_leads_where_typed (s : Session) (hsim : s.store.isSimulated = true)
    (hhome : Path.IsCanonical s.home) (target : String) (htrim : Text.trim target = target) :
    (∀ place, Challenge.transition s.cwd target = some place → place = destination s target) ∧
    ∃ r s', (route ("cd " ++ target) none).run s = done (r, s') ∧
      Changed s (destination s target) r s' := by
  refine ⟨?_, ?_⟩
  · intro place htable
    rw [← cdPlace_eq_destination, cdPlace, htable]
    rfl
  · obtain ⟨o, s', hrun, hchanged⟩ := changed_cd hsim hhome target
    exact ⟨_, s', run_route_cd htrim hrun, hchanged⟩

/-- The demo with the player at the root of the challenge. -/
def atChallenge : Session := demo.setCwd Challenge.root

/-- From the root of the challenge a name of the table leads into its directory, slashes or not, and
the locked one is refused. -/
theorem cd_leads_where_typed_chapters :
    Challenge.transition atChallenge.cwd "vault//" = some "/var/games/vault" ∧
    (∃ r s', (route "cd vault//" none).run atChallenge = done (r, s') ∧ r.success = true ∧
      s' = { atChallenge with
        executor := { atChallenge.executor with cwd := "/var/games/vault" } }) ∧
    ∃ r, (route "cd level2" none).run atChallenge = done (r, atChallenge) ∧
      r.result.exitCode = 1 := by
  have hsim : atChallenge.store.isSimulated = true := by decide +kernel
  have hhome : Path.IsCanonical atChallenge.home := Path.isCanonical_iff.mpr (by decide +kernel)
  have hvault : destination atChallenge "vault//" = "/var/games/vault" := by decide +kernel
  have hlevel : destination atChallenge "level2" = "/var/games/level2" := by decide +kernel
  obtain ⟨-, r, s', hrun, hchanged⟩ :=
    cd_leads_where_typed atChallenge hsim hhome "vault//" (by decide +kernel)
  obtain ⟨-, r', s'', hrun', hchanged'⟩ :=
    cd_leads_where_typed atChallenge hsim hhome "level2" (by decide +kernel)
  rw [hvault] at hchanged
  rw [hlevel] at hchanged'
  have hmay : atChallenge.MayEnter "/var/games/vault" := by
    refine ⟨by decide +kernel, fun hlocked => absurd hlocked (by decide +kernel)⟩
  have hmaynot : ¬ atChallenge.MayEnter "/var/games/level2" :=
    fun h => absurd (h.2 (by decide +kernel)) (by decide +kernel)
  have hsuccess := hchanged.success_iff.mpr hmay
  obtain ⟨hcode, rfl⟩ :=
    hchanged'.stayed (Bool.eq_false_iff.mpr (mt hchanged'.success_iff.mp hmaynot))
  exact ⟨by decide +kernel, ⟨r, s', hrun, hsuccess, hchanged.arrived hsuccess⟩, r', hrun', hcode⟩

end Router

end PlainTerminal
