import Mathlib.Data.Bool.AllAny
import PlainTerminal.Likeness.Repair
import PlainTerminal.Proofs.Likeness.Match
import PlainTerminal.Proofs.Text.Words

/-!
# What a repair changes

A command that is repaired is put together again from its words, with one of them replaced by the
name of an entry. That name is whatever a directory holds, and it is put in as it is. So the words
of the new command are those of the old one with the words *of the name* in place of the operand:
`words_putRight` is the statement that carries this module. One word is changed for one exactly if
the name is a word by itself, and a shell sees nothing in the new command that it did not see in
the old one exactly if the name has no operator in it. Neither is looked at.
-/

namespace PlainTerminal.Likeness

/-! ## Texts without characters of a list -/

theorem hasAny_eq_false_iff {chars : List Char} {text : String} :
    hasAny chars text = false ↔ ∀ c ∈ text.toList, c ∉ chars := by
  simp [hasAny]

theorem not_isBlank_of_mem_operatorChars {c : Char} (h : c ∈ operatorChars) :
    Text.isBlank c = false := by
  have hall : ∀ c ∈ operatorChars, Text.isBlank c = false :=
    List.all_iff_forall_prop.mp (by decide)
  exact hall c h

/-- A text has an operator in it exactly if one of its words has. -/
theorem hasAny_operatorChars_words (text : String) : hasAny operatorChars text = false ↔
    ∀ word ∈ Text.words text, hasAny operatorChars word = false := by
  have hmem : ∀ c ∈ operatorChars, (c ∈ text.toList ↔
      ∃ word ∈ Text.words text, c ∈ word.toList) := by
    intro c hc
    have hword : c ∈ (Text.wordsOf text.toList).flatten ↔ c ∈ text.toList := by
      rw [Text.flatten_wordsOf, List.mem_filter, not_isBlank_of_mem_operatorChars hc]
      exact and_iff_left rfl
    rw [← hword, List.mem_flatten, Text.words]
    simp
  simp only [hasAny_eq_false_iff]
  constructor
  · intro h word hword c hc hop
    exact h c ((hmem c hop).mpr ⟨word, hword, hc⟩) hop
  · intro h c hc hop
    obtain ⟨word, hword, hcw⟩ := (hmem c hop).mp hc
    exact h word hword c hcw hop

/-! ## Commands that are repaired -/

/-- The command only reads one file, there is no entry of that name, and nothing in the command
means anything to a shell. The operand stands behind the flags `before` and in front of the flags
`after`. -/
structure Repairable (command : String) (entries : List String) (program : String)
    (before : List String) (operand : String) (after : List String) : Prop where
  /-- The program only reads its operand. -/
  reader : program ∈ readers
  /-- There is nothing else in the command. -/
  words_eq : Text.words command = program :: (before ++ operand :: after)
  /-- Every other word is a flag. -/
  flags : ∀ word ∈ before ++ after, isFlag word = true
  /-- The operand is none. -/
  operand_not_flag : isFlag operand = false
  /-- The operand is the name of no entry. -/
  unknown : operand ∉ entries
  /-- The command has no operator in it. -/
  plain : hasAny operatorChars command = false

/-- What stands in front of the operand is the flags up to the first word that is none. -/
theorem Repairable.takeWhile_isFlag {command program operand : String}
    {entries before after : List String}
    (h : Repairable command entries program before operand after) :
    (before ++ operand :: after).takeWhile isFlag = before := by
  rw [List.takeWhile_append_of_pos fun w hw => h.flags w (List.mem_append_left _ hw),
    List.takeWhile_cons_of_neg (by simp [h.operand_not_flag]), List.append_nil]

/-- A command has one operand and one place where it stands. -/
theorem Repairable.unique {command program program' operand operand' : String}
    {entries before before' after after' : List String}
    (h : Repairable command entries program before operand after)
    (h' : Repairable command entries program' before' operand' after') :
    program' = program ∧ before' = before ∧ operand' = operand ∧ after' = after := by
  obtain ⟨hprogram, hrest⟩ := List.cons.inj (h'.words_eq.symm.trans h.words_eq)
  have hbefore : before' = before := by
    rw [← h'.takeWhile_isFlag, hrest, h.takeWhile_isFlag]
  subst hbefore
  obtain ⟨hoperand, hafter⟩ := List.cons.inj (List.append_cancel_left hrest)
  exact ⟨hprogram, rfl, hoperand, hafter⟩

/-- Only such commands are repaired, with the entry that the operand most likely means. -/
theorem repairable_of_repairOf {command program operand found : String}
    {entries rest : List String}
    (h : repairOf command entries = some (program, rest, operand, found)) :
    ∃ before after, rest = before ++ operand :: after ∧
      Repairable command entries program before operand after ∧
      bestMatch operand entries = some found := by
  unfold repairOf at h
  cases hwords : Text.words command with
  | nil =>
      rw [hwords] at h
      cases h
  | cons program' rest' =>
      rw [hwords] at h
      dsimp only at h
      by_cases hskip : (entries.isEmpty || !readers.contains program' ||
          rest'.any (hasAny operatorChars)) = true
      · rw [if_pos hskip] at h
        cases h
      rw [if_neg hskip] at h
      match hoperands : rest'.filter fun w => !isFlag w with
      | [] =>
          rw [hoperands] at h
          cases h
      | _ :: _ :: _ =>
          rw [hoperands] at h
          cases h
      | [operand'] =>
          rw [hoperands] at h
          dsimp only at h
          by_cases hkeep : (hasAny patternChars operand' || entries.contains operand') = true
          · rw [if_pos hkeep] at h
            cases h
          rw [if_neg hkeep] at h
          obtain ⟨found', hfound, heq⟩ := Option.map_eq_some_iff.mp h
          simp only [Prod.mk.injEq] at heq
          obtain ⟨rfl, rfl, rfl, rfl⟩ := heq
          simp only [Bool.or_eq_true, Bool.not_eq_true', not_or, Bool.not_eq_true,
            Bool.not_eq_false, List.contains_iff_mem, List.any_eq_false] at hskip hkeep
          obtain ⟨⟨-, hreader⟩, hplain⟩ := hskip
          obtain ⟨before, after, hrest, hbefore, hoperand, hafter⟩ :=
            List.filter_eq_cons_iff.mp hoperands
          refine ⟨before, after, hrest, ?_, hfound⟩
          refine ⟨hreader, hrest ▸ hwords, ?_, by simpa using hoperand, hkeep.2, ?_⟩
          · intro w hw
            rcases List.mem_append.mp hw with hw | hw
            · simpa using hbefore w hw
            · simpa using List.filter_eq_nil_iff.mp hafter w hw
          · -- The program itself is not looked at, but no reader has an operator in its name.
            rw [hasAny_operatorChars_words, hwords]
            intro w hw
            rcases List.mem_cons.mp hw with rfl | hw
            · have hall : ∀ w ∈ readers, hasAny operatorChars w = false := by decide
              exact hall w hreader
            · exact hplain w hw

/-! ## The repaired command -/

section

variable {command program operand : String} {entries before after : List String}

/-- Putting the words together again, with another text for the operand, changes nothing else. -/
theorem words_putRight (h : Repairable command entries program before operand after)
    (found : String) :
    Text.words (" ".intercalate (program ::
        (before ++ operand :: after).map fun w => if w = operand then found else w))
      = program :: (before ++ Text.words found ++ after) := by
  have hself : ∀ w ∈ Text.words command, Text.words w = [w] := fun w => Text.words_of_mem_words
  rw [h.words_eq] at hself
  have hflags : ∀ flags : List String, (∀ w ∈ flags, w ∈ before ++ after) →
      (flags.map fun w => if w = operand then found else w).flatMap Text.words = flags := by
    intro flags hmem
    have hother : ∀ w ∈ flags, Text.words (if w = operand then found else w) = [w] := by
      intro w hw
      have hne : w ≠ operand := by
        rintro rfl
        have hflag := h.flags w (hmem w hw)
        rw [h.operand_not_flag] at hflag
        cases hflag
      rw [if_neg hne]
      refine hself w ?_
      rcases List.mem_append.mp (hmem w hw) with hw | hw
      · simp [hw]
      · simp [hw]
    rw [List.flatMap_map, List.flatMap_congr hother, List.flatMap_singleton']
  rw [Text.words_intercalate, List.flatMap_cons, hself program List.mem_cons_self,
    List.map_append, List.map_cons, if_pos rfl, List.flatMap_append, List.flatMap_cons,
    hflags before fun w => List.mem_append_left _, hflags after fun w => List.mem_append_right _,
    List.singleton_append, List.append_assoc]

end

/-- The result is the command, or it is the command with its one operand, which is the name of no
entry, replaced by one word that is. -/
def OneWordChanged (command : String) (entries : List String) (result : String) : Prop :=
  result = command ∨ ∃ program before operand after name,
    Repairable command entries program before operand after ∧ name ∈ entries ∧
      Text.words result = program :: (before ++ name :: after) ∧
      hasAny operatorChars result = false

/-- There are as many words as before. -/
theorem OneWordChanged.length_words {command result : String} {entries : List String}
    (h : OneWordChanged command entries result) :
    (Text.words result).length = (Text.words command).length := by
  rcases h with rfl | ⟨program, before, operand, after, name, hcommand, -, hresult, -⟩
  · rfl
  · rw [hresult, hcommand.words_eq]
    simp

/-- What is put in is one word, which is the name of an entry, and has no operator in it. -/
def IsOneName (entries : List String) (found : String) : Prop :=
  (∃ name ∈ entries, Text.words found = [name]) ∧ hasAny operatorChars found = false

/-- One name in place of the operand is a change of one word. -/
theorem Repairable.oneWordChanged {command program operand found result : String}
    {entries before after : List String}
    (h : Repairable command entries program before operand after)
    (hfound : IsOneName entries found)
    (hresult : Text.words result = program :: (before ++ Text.words found ++ after)) :
    OneWordChanged command entries result := by
  obtain ⟨⟨name, hname, hone⟩, hplain⟩ := hfound
  have hcommand := (hasAny_operatorChars_words command).mp h.plain
  rw [h.words_eq] at hcommand
  rw [hasAny_operatorChars_words, hone] at hplain
  rw [hone, List.append_assoc, List.singleton_append] at hresult
  refine Or.inr ⟨program, before, operand, after, name, h, hname, hresult, ?_⟩
  -- Every word of the result is one of the command, but for the name.
  rw [hasAny_operatorChars_words, hresult]
  intro word hword
  rcases List.mem_cons.mp hword with rfl | hword
  · exact hcommand word List.mem_cons_self
  rcases List.mem_append.mp hword with hword | hword
  · exact hcommand word (by simp [hword])
  rcases List.mem_cons.mp hword with rfl | hword
  · exact hplain word List.mem_cons_self
  · exact hcommand word (by simp [hword])

/-- The words of a command that was repaired. -/
theorem words_repair {command program operand found : String} {entries rest : List String}
    (h : repairOf command entries = some (program, rest, operand, found)) :
    ∃ before after, Repairable command entries program before operand after ∧
      bestMatch operand entries = some found ∧
      Text.words (repair command entries)
        = program :: (before ++ Text.words found ++ after) := by
  obtain ⟨before, after, rfl, hrepairable, hbest⟩ := repairable_of_repairOf h
  refine ⟨before, after, hrepairable, hbest, ?_⟩
  rw [repair, h]
  exact words_putRight hrepairable found

/-- Where no entry has a blank or an operator in its name, a repair changes one word. -/
theorem oneWordChanged_of_plain_entries (command : String) {entries : List String}
    (h : ∀ e ∈ entries, Text.words e = [e] ∧ hasAny operatorChars e = false) :
    OneWordChanged command entries (repair command entries) := by
  cases hplan : repairOf command entries with
  | none => exact Or.inl (by rw [repair, hplan])
  | some plan =>
      obtain ⟨before, after, hrepairable, hbest, hwords⟩ := words_repair hplan
      have hmem := mem_of_bestMatch hbest
      obtain ⟨hword, hplain⟩ := h _ hmem
      exact hrepairable.oneWordChanged ⟨⟨_, hmem, hword⟩, hplain⟩ hwords

/-- **One word and nothing else is changed** exactly if the text that is put in is one name, or
happens to give the command as it was. -/
theorem oneWordChanged_repair_iff (command : String) (entries : List String) :
    OneWordChanged command entries (repair command entries) ↔
      repair command entries = command ∨
      ∀ program rest operand found,
        repairOf command entries = some (program, rest, operand, found) →
        IsOneName entries found := by
  cases hplan : repairOf command entries with
  | none =>
      have hsame : repair command entries = command := by rw [repair, hplan]
      exact iff_of_true (Or.inl hsame) (Or.inl hsame)
  | some plan =>
      obtain ⟨program, rest, operand, found⟩ := plan
      obtain ⟨before, after, hrepairable, -, hwords⟩ := words_repair hplan
      constructor
      · rintro (hsame | ⟨program', before', operand', after', name, hcommand, hname, hresult,
          hplain⟩)
        · exact Or.inl hsame
        refine Or.inr fun _ _ _ _ heq => ?_
        cases heq
        obtain ⟨rfl, rfl, rfl, rfl⟩ := hrepairable.unique hcommand
        -- Program and flags are where they were, so what is left between them is the name.
        have hfound : Text.words found = [name] := by
          rw [hwords, List.append_assoc] at hresult
          have hrest := List.append_cancel_left (List.cons.inj hresult).2
          exact List.append_cancel_right (hrest.trans List.singleton_append.symm)
        refine ⟨⟨name, hname, hfound⟩, ?_⟩
        rw [hasAny_operatorChars_words] at hplain ⊢
        intro word hword
        refine hplain word ?_
        rw [hwords]
        simp [hword]
      · rintro (hsame | hfound)
        · exact Or.inl hsame
        · exact hrepairable.oneWordChanged (hfound _ _ _ _ rfl) hwords

/-- An entry may hold a whole command of its own. -/
theorem not_oneWordChanged_repair :
    repair "cat notes" ["notes; rm -r docs"] = "cat notes; rm -r docs" ∧
      ¬ OneWordChanged "cat notes" ["notes; rm -r docs"]
        (repair "cat notes" ["notes; rm -r docs"]) := by
  have hrepair : repair "cat notes" ["notes; rm -r docs"] = "cat notes; rm -r docs" := by
    decide
  refine ⟨hrepair, ?_⟩
  rw [hrepair]
  intro h
  have hlength := h.length_words
  revert hlength
  decide

end PlainTerminal.Likeness
