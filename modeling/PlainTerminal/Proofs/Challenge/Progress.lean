import PlainTerminal.Challenge.Map
import PlainTerminal.Tree

/-!
# How progress grows

Progress moves in three ways: the challenge is begun, a file is read that reveals a code, and the
last file is read. `Precedes` is the order in which it moves, codes kept and the objective never
further back, and `Coherent` ties the objective to the codes: it is always the first thing that is
still to be done. Each of the three ways keeps both.

What a player reads decides what becomes of the progress. `afterReading` says so of one file, and
from it can be told which file was read when a code is new or the challenge is over.
-/

namespace PlainTerminal.Challenge

namespace Stage

/-- The stage for the codes that are missing, in order: that of the first one, or the last chapter
before the end. -/
def ofMissing : List AccessCode → Stage
  | code :: _ => ofCode code
  | [] => levelTwo

theorem ofMissing_ne_notStarted (codes : List AccessCode) : ofMissing codes ≠ notStarted := by
  cases codes with
  | nil => exact nofun
  | cons code _ => cases code <;> exact nofun

theorem ofMissing_ne_complete (codes : List AccessCode) : ofMissing codes ≠ complete := by
  cases codes with
  | nil => exact nofun
  | cons code _ => cases code <;> exact nofun

theorem rank_le_complete (stage : Stage) : stage.rank ≤ complete.rank := by
  cases stage <;> decide

end Stage

namespace Progress

variable {p p' : Progress} {code other : AccessCode}

/-! ## The codes -/

theorem hasAll_iff : p.hasAll = true ↔ ∀ code, p.has code = true := by
  unfold hasAll
  rw [Bool.and_eq_true, Bool.and_eq_true]
  constructor
  · rintro ⟨⟨hintel, hmatrix⟩, hvault⟩ code
    cases code with
    | intel => exact hintel
    | matrix => exact hmatrix
    | vault => exact hvault
  · intro h
    exact ⟨⟨h .intel, h .matrix⟩, h .vault⟩

theorem has_record : (p.record code).has other = (p.has other || code == other) := by
  cases code <;> cases other <;> simp [record, has]

@[simp] theorem has_advance : p.advance.has code = p.has code := by
  unfold advance
  split
  · rfl
  · split <;> rfl

theorem has_discover : (p.discover code).2.has other = (p.has other || code == other) := by
  rw [discover, has_advance, has_record]

@[simp] theorem stage_record : (p.record code).stage = p.stage := by
  cases code <;> rfl

/-- With more codes the first missing one comes later. -/
theorem rank_ofMissing_le (h : ∀ code, p.has code = true → p'.has code = true) :
    (Stage.ofMissing p.missing).rank ≤ (Stage.ofMissing p'.missing).rank := by
  obtain ⟨stage, a, b, c⟩ := p
  obtain ⟨stage', a', b', c'⟩ := p'
  have hintel : a = true → a' = true := h .intel
  have hmatrix : b = true → b' = true := h .matrix
  have hvault : c = true → c' = true := h .vault
  have hall : ∀ a b c a' b' c' : Bool, (a = true → a' = true) → (b = true → b' = true) →
      (c = true → c' = true) →
      (Stage.ofMissing (missing ⟨.intel, a, b, c⟩)).rank
        ≤ (Stage.ofMissing (missing ⟨.intel, a', b', c'⟩)).rank := by decide
  exact hall a b c a' b' c' hintel hmatrix hvault

/-! ## The order of progress -/

/-- No code is lost, and the objective does not move back. -/
structure Precedes (p p' : Progress) : Prop where
  codes : ∀ code, p.has code = true → p'.has code = true
  stage : p.stage.rank ≤ p'.stage.rank

theorem Precedes.refl (p : Progress) : p.Precedes p := ⟨fun _ h => h, Nat.le_refl _⟩

theorem Precedes.trans {p₁ p₂ p₃ : Progress} (h : p₁.Precedes p₂) (h' : p₂.Precedes p₃) :
    p₁.Precedes p₃ :=
  ⟨fun code hc => h'.codes code (h.codes code hc), Nat.le_trans h.stage h'.stage⟩

theorem Precedes.hasAll (h : p.Precedes p') (hall : p.hasAll = true) : p'.hasAll = true :=
  hasAll_iff.mpr fun code => h.codes code (hasAll_iff.mp hall code)

/-! ## The objective and the codes -/

/-- The objective is the one that the codes call for. -/
structure Coherent (p : Progress) : Prop where
  notStarted : p.stage = .notStarted → ∀ code, p.has code = false
  complete : p.stage = .complete → p.hasAll = true
  between : p.stage ≠ .notStarted → p.stage ≠ .complete → p.stage = .ofMissing p.missing

theorem coherent_fresh : Coherent {} where
  notStarted _ code := by cases code <;> rfl
  complete := nofun
  between h := absurd rfl h

theorem advance_of_complete (h : p.stage = .complete) : p.advance = p := if_pos h

theorem stage_advance (h : p.stage ≠ .complete) : p.advance.stage = .ofMissing p.missing := by
  unfold advance
  rw [if_neg h]
  cases p.missing <;> rfl

theorem missing_advance : p.advance.missing = p.missing := by
  unfold missing
  simp only [has_advance]

theorem Coherent.discover (h : p.Coherent) (code : AccessCode) : (p.discover code).2.Coherent := by
  show (p.record code).advance.Coherent
  by_cases hcomplete : p.stage = .complete
  · -- the codes were all there already
    have hstage : (p.record code).stage = .complete := by rw [stage_record, hcomplete]
    rw [advance_of_complete hstage]
    refine ⟨fun hs => ?_, fun _ => ?_, fun _ hne => absurd hstage hne⟩
    · rw [hstage] at hs
      cases hs
    · refine hasAll_iff.mpr fun other => ?_
      rw [has_record, hasAll_iff.mp (h.complete hcomplete) other, Bool.true_or]
  · have hne : (p.record code).stage ≠ .complete := by rwa [stage_record]
    have hstage := stage_advance hne
    refine ⟨fun hs => ?_, fun hs => ?_, fun _ _ => ?_⟩
    · exact absurd (hstage ▸ hs) (Stage.ofMissing_ne_notStarted _)
    · exact absurd (hstage ▸ hs) (Stage.ofMissing_ne_complete _)
    · rw [hstage, missing_advance]

theorem Coherent.precedes_discover (h : p.Coherent) (code : AccessCode) :
    p.Precedes (p.discover code).2 := by
  have hcodes : ∀ other, p.has other = true → (p.record code).has other = true := by
    intro other hother
    rw [has_record, hother, Bool.true_or]
  refine ⟨fun other hother => ?_, ?_⟩
  · rw [has_discover, hother, Bool.true_or]
  · show p.stage.rank ≤ (p.record code).advance.stage.rank
    by_cases hcomplete : p.stage = .complete
    · have hstage : (p.record code).stage = .complete := by rw [stage_record, hcomplete]
      exact Nat.le_of_eq (by rw [advance_of_complete hstage, stage_record])
    · rw [stage_advance (by rwa [stage_record])]
      by_cases hstart : p.stage = .notStarted
      · rw [hstart]
        exact Nat.zero_le _
      · rw [h.between hstart hcomplete]
        exact rank_ofMissing_le hcodes

theorem snd_readVictory (ending : String) : (readVictory ending p).2 = p.complete.2 := by
  unfold readVictory
  split
  · rename_i heq
    rw [heq]
  · rename_i heq
    rw [heq]

theorem has_complete : p.complete.2.has code = p.has code := by
  unfold complete
  split <;> rfl

theorem stage_complete : p.complete.2.stage = if p.hasAll then .complete else p.stage := by
  unfold complete
  split <;> rfl

theorem Coherent.completed (h : p.Coherent) : p.complete.2.Coherent := by
  unfold Progress.complete
  split
  · rename_i hall
    exact ⟨nofun, fun _ => hall, fun _ hne => absurd rfl hne⟩
  · exact h

theorem precedes_complete (p : Progress) : p.Precedes p.complete.2 := by
  refine ⟨fun code hcode => by rw [has_complete, hcode], ?_⟩
  rw [stage_complete]
  split
  · exact p.stage.rank_le_complete
  · exact Nat.le_refl _

theorem Coherent.start (h : p.Coherent) : p.start.Coherent := by
  unfold Progress.start
  split
  · rename_i hstart
    have hmissing : p.missing = AccessCode.all := by
      unfold missing
      rw [List.filter_eq_self]
      intro code _
      rw [h.notStarted hstart code]
      rfl
    refine ⟨nofun, nofun, fun _ _ => ?_⟩
    show Stage.intel = .ofMissing p.missing
    rw [hmissing]
    rfl
  · exact h

theorem has_start : p.start.has code = p.has code := by
  unfold start
  split <;> rfl

theorem stage_start_eq_complete_iff : p.start.stage = .complete ↔ p.stage = .complete := by
  unfold start
  split
  · rename_i hstart
    rw [hstart]
    exact iff_of_false nofun nofun
  · rfl

theorem precedes_start (p : Progress) : p.Precedes p.start := by
  refine ⟨fun code hcode => by rw [has_start, hcode], ?_⟩
  unfold start
  split
  · rename_i hstart
    rw [hstart]
    exact Nat.zero_le _
  · exact Nat.le_refl _

/-! ## Reading -/

/-- The progress after reading what is at a place: the last file ends the challenge if it can be
ended, and a file that reveals a code reveals it. -/
def afterReading (p : Progress) (tree : Tree) (place : String) : Progress :=
  if place = victoryPath then p.complete.2
  else match codeAt place, tree.contentOf place with
    | some code, .ok _ => (p.discover code).2
    | _, _ => p

end Progress

theorem codeAt_eq_some_iff {place : String} {code : AccessCode} :
    codeAt place = some code ↔ place = code.source := by
  constructor
  · intro h
    unfold codeAt at h
    have hsource := List.find?_some h
    exact (beq_iff_eq.mp hsource).symm
  · rintro rfl
    cases code <;> decide

/-- The files that reveal the codes lie in the challenge, outside the lock, and are neither the
first nor the last file. -/
theorem source_facts (code : AccessCode) : contains code.source = true ∧
    isLocked code.source = false ∧ code.source ≠ readmePath ∧ code.source ≠ victoryPath := by
  cases code <;> decide

theorem victoryPath_facts : contains victoryPath = true ∧ isLocked victoryPath = false ∧
    victoryPath ≠ readmePath := by
  decide

theorem isLocked_readmePath : isLocked readmePath = false := by decide

/-- What lies behind the lock lies in the challenge. -/
theorem contains_of_isLocked {place : String} (h : isLocked place = true) :
    contains place = true := by
  unfold isLocked contains Path.isWithin at *
  rw [Bool.or_eq_true, beq_iff_eq, List.isPrefixOf_iff_prefix] at h
  have hroot : (root ++ "/").toList <+: lockedDirectory.toList := by decide
  have hdir : (root ++ "/").toList <+: (lockedDirectory ++ "/").toList := by decide
  rw [Bool.or_eq_true, List.isPrefixOf_iff_prefix]
  rcases h with rfl | h
  · exact Or.inr hroot
  · exact Or.inr (hdir.trans h)

theorem isLocked_of_not_contains {place : String} (h : contains place = false) :
    isLocked place = false := by
  refine Bool.eq_false_iff.mpr fun hlocked => ?_
  rw [contains_of_isLocked hlocked] at h
  cases h

theorem lockAt_of_not_contains {place : String} (h : contains place = false)
    (progress : Progress) : lockAt place progress = none := by
  unfold lockAt
  rw [isLocked_of_not_contains h]
  rfl

theorem isLocked_of_lockAt {place : String} {progress : Progress} {lock : Lock}
    (h : lockAt place progress = some lock) : isLocked place = true := by
  unfold lockAt at h
  split at h
  · rename_i hlocked
    rw [Bool.and_eq_true] at hlocked
    exact hlocked.1
  · cases h

theorem lockAt_eq_none_iff {place : String} {progress : Progress} :
    lockAt place progress = none ↔ (isLocked place = true → progress.hasAll = true) := by
  unfold lockAt
  cases isLocked place <;> cases progress.hasAll <;> simp

namespace Progress

variable {p : Progress} {tree : Tree} {place : String}

theorem afterReading_victory : p.afterReading tree victoryPath = p.complete.2 := if_pos rfl

/-- Nothing behind the lock reveals a code. -/
theorem codeAt_of_isLocked (h : isLocked place = true) : codeAt place = none := by
  refine Option.eq_none_iff_forall_ne_some.mpr fun code hcode => ?_
  obtain rfl := codeAt_eq_some_iff.mp hcode
  rw [(source_facts code).2.1] at h
  cases h

/-- A place that is no file with a meaning changes nothing. -/
theorem afterReading_of_other (hvictory : place ≠ victoryPath) (hcode : codeAt place = none) :
    p.afterReading tree place = p := by
  unfold afterReading
  rw [if_neg hvictory, hcode]

theorem afterReading_of_not_contains (h : contains place = false) :
    p.afterReading tree place = p := by
  refine afterReading_of_other ?_ ?_
  · rintro rfl
    rw [victoryPath_facts.1] at h
    cases h
  · refine Option.eq_none_iff_forall_ne_some.mpr fun code hcode => ?_
    obtain rfl := codeAt_eq_some_iff.mp hcode
    rw [(source_facts code).1] at h
    cases h

theorem afterReading_of_isLocked (h : isLocked place = true) : p.afterReading tree place = p := by
  refine afterReading_of_other ?_ (codeAt_of_isLocked h)
  rintro rfl
  rw [victoryPath_facts.2.1] at h
  cases h

theorem afterReading_readme : p.afterReading tree readmePath = p := by
  refine afterReading_of_other victoryPath_facts.2.2.symm ?_
  refine Option.eq_none_iff_forall_ne_some.mpr fun code hcode => ?_
  exact (source_facts code).2.2.1 (codeAt_eq_some_iff.mp hcode).symm

/-- The three things that reading can do. -/
theorem afterReading_cases (p : Progress) (tree : Tree) (place : String) :
    (p.afterReading tree place = p) ∨
    (∃ code text, place = code.source ∧ tree.contentOf place = .ok text ∧
      p.afterReading tree place = (p.discover code).2) ∨
    (place = victoryPath ∧ p.afterReading tree place = p.complete.2) := by
  by_cases hvictory : place = victoryPath
  · exact Or.inr (Or.inr ⟨hvictory, if_pos hvictory⟩)
  · unfold afterReading
    rw [if_neg hvictory]
    split
    · rename_i code text hcode htext
      exact Or.inr (Or.inl ⟨code, text, codeAt_eq_some_iff.mp hcode, htext, rfl⟩)
    · exact Or.inl rfl

theorem Coherent.afterReading (h : p.Coherent) (tree : Tree) (place : String) :
    (p.afterReading tree place).Coherent := by
  rcases afterReading_cases p tree place with heq | ⟨code, _, _, _, heq⟩ | ⟨_, heq⟩
  · rw [heq]; exact h
  · rw [heq]; exact h.discover code
  · rw [heq]; exact h.completed

theorem Coherent.precedes_afterReading (h : p.Coherent) (tree : Tree) (place : String) :
    p.Precedes (p.afterReading tree place) := by
  rcases afterReading_cases p tree place with heq | ⟨code, _, _, _, heq⟩ | ⟨_, heq⟩
  · rw [heq]; exact Precedes.refl p
  · rw [heq]; exact h.precedes_discover code
  · rw [heq]; exact p.precedes_complete

/-- A code that is new was read from its file. -/
theorem of_has_afterReading {code : AccessCode} (hbefore : p.has code = false)
    (hafter : (p.afterReading tree place).has code = true) :
    place = code.source ∧ ∃ text, tree.contentOf place = .ok text := by
  rcases afterReading_cases p tree place with heq | ⟨found, text, hplace, htext, heq⟩ | ⟨_, heq⟩
  · rw [heq, hbefore] at hafter
    cases hafter
  · rw [heq, has_discover, hbefore, Bool.false_or, beq_iff_eq] at hafter
    subst hafter
    exact ⟨hplace, text, htext⟩
  · rw [heq, has_complete, hbefore] at hafter
    cases hafter

/-- A challenge that is over from now on was ended by the last file, with all codes in hand. -/
theorem of_stage_afterReading (hbefore : p.stage ≠ .complete)
    (hafter : (p.afterReading tree place).stage = .complete) :
    place = victoryPath ∧ p.hasAll = true := by
  rcases afterReading_cases p tree place with heq | ⟨code, _, _, _, heq⟩ | ⟨hplace, heq⟩
  · rw [heq] at hafter
    exact absurd hafter hbefore
  · have hstage : (p.discover code).2.stage = .ofMissing (p.record code).missing :=
      stage_advance (by rwa [stage_record])
    rw [heq, hstage] at hafter
    exact absurd hafter (Stage.ofMissing_ne_complete _)
  · rw [heq, stage_complete] at hafter
    split at hafter
    · exact ⟨hplace, ‹_›⟩
    · exact absurd hafter hbefore

end Progress

end PlainTerminal.Challenge
