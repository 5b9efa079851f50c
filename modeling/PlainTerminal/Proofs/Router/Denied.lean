import PlainTerminal.Proofs.Router.Operands

/-!
# Refused commands and the real shell

On the user's own machine a command that the policy refuses must not be run. A command that is
handed on as it was typed is not; but some are taken apart first, and a new command is made of their
operands. What the policy says about the new command depends on the operands alone, so a refused
command leads to the real shell exactly if it is one of these and has an operand that is not refused
by itself.
-/

namespace PlainTerminal

open Dialogue Session

namespace Router

variable {s : Session}

/-- What comes of a command that is refused as it stands. -/
theorem runs_refused {α : Type} {command : String} (h : Policy.violation? command ≠ none)
    (f : CommandResult → α) :
    Runs (fun _ => True) s (do return f (← Session.safeExecute command)) False :=
  Runs.bind_pure (Runs.of_ensures (safeExecute_refused h)).forget

/-! ## The programs -/

theorem violation?_of_single_word {text word : String} (hwords : Text.words text = [word])
    (h : Policy.Denied text.toList) : Policy.violation? word ≠ none := by
  obtain ⟨s, hs, rfl⟩ := List.map_eq_singleton_iff.mp hwords
  obtain ⟨a, b, htext, ha, hb⟩ := Text.wordsOf_eq_singleton hs
  rw [ne_eq, Policy.violation?_eq_none_iff, not_not, String.toList_ofList]
  rwa [htext, Policy.denied_blanks_iff ha hb] at h

theorem violation?_of_rest {before rest : String} (h : Policy.Denied rest.toList) :
    Policy.violation? (before ++ rest) ≠ none := by
  rw [ne_eq, Policy.violation?_eq_none_iff, not_not, String.toList_append]
  exact h.mono List.infix_append_right

/-- Files are read one by one in the virtual tree alone. -/
theorem runs_cat (hlocal : s.store.isSimulated = false) {rest : String}
    (hdenied : Policy.Denied rest.toList) :
    Runs (fun _ => True) s (cat rest)
      (s.inVirtualTree = true ∧ ∃ x ∈ Text.words rest, FreeOperand s x) := by
  by_cases hvirtual : s.inVirtualTree = true
  · exact (runs_cat_virtual hlocal hvirtual rest).congr (and_iff_right hvirtual).symm
  · refine Runs.idle ?_ fun h => hvirtual h.1
    unfold cat
    refine Runs.get_bind ?_
    split
    · exact Runs.pure trivial
    · rename_i path hwords
      -- The one word is all that is left of what is refused.
      exact (runs_catOne hlocal path).forget.congr
        (iff_of_false (fun h => violation?_of_single_word hwords hdenied h.2) id)
    · rw [if_neg hvirtual]
      exact runs_refused (violation?_of_rest hdenied) _

theorem runs_listing (hlocal : s.store.isSimulated = false) {rest : String}
    (hdenied : Policy.Denied rest.toList) :
    Runs (fun _ => True) s (listing rest)
      (s.inVirtualTree = true ∧ FreeOperand s (listedOperand rest)) := by
  by_cases hvirtual : s.inVirtualTree = true
  · exact (runs_listing_virtual hlocal hvirtual rest).congr (and_iff_right hvirtual).symm
  · refine Runs.idle ?_ fun h => hvirtual h.1
    -- Outside the virtual tree the listing is handed on as it was typed.
    have hne : rest ≠ "" := by
      rintro rfl
      exact Policy.not_denied_nil hdenied
    unfold listing
    refine Runs.get_bind ?_
    dsimp only
    split
    · exact (Runs.of_quiet (quiet_challengeListing _ _ _ _)).forget
    · exact runs_refused (violation?_of_rest hdenied) _

/-- A text that is appended is left to the shell as it was typed; a text that overwrites a file is
not. -/
theorem passes_refused_iff {command : String} (hdenied : Policy.violation? command ≠ none)
    (write : Redirect.Write) : Passes s command write ↔
      write.operator = .overwrite ∧ FreeOperand s write.path ∧
        Policy.violation? (Redirect.unquote write.text) = none := by
  unfold Passes FreeOperand
  cases write.operator with
  | append => simp [hdenied]
  | overwrite =>
      dsimp only
      rw [and_iff_right rfl, and_assoc]
      exact and_congr_right fun _ => And.comm

/-! ## Routing -/

/-- The command is taken apart, and what is made of it is free of what it is refused for. -/
def Rebuilt (s : Session) (command : String) : Prop :=
  let (program, rest) := Text.splitAtBlank command
  if program = "cat" then s.inVirtualTree = true ∧ ∃ x ∈ Text.words rest, FreeOperand s x
  else if program = "ls" then s.inVirtualTree = true ∧ FreeOperand s (listedOperand rest)
  else if program = "cd" then False
  else
    match Redirect.parse? command with
    | some write =>
      write.operator = .overwrite ∧ FreeOperand s write.path ∧
        Policy.violation? (Redirect.unquote write.text) = none
    | none =>
      s.inVirtualTree = true ∧ program ∈ makers ∧
        ∃ x ∈ Text.words rest, Likeness.isFlag x = false ∧ FreeOperand s x

/-- A write is made anew if it overwrites a file. -/
theorem rebuilt_iff_of_parse? {command : String} {write : Redirect.Write}
    (h : Redirect.parse? command = some write) :
    Rebuilt s command ↔ write.operator = .overwrite ∧ FreeOperand s write.path ∧
      Policy.violation? (Redirect.unquote write.text) = none := by
  have hprogram := Redirect.program_of_parse? h
  unfold Rebuilt
  cases hsplit : Text.splitAtBlank command with
  | mk program rest =>
      rw [hsplit] at hprogram
      obtain rfl : program = "echo" := hprogram
      dsimp only
      rw [if_neg (by decide), if_neg (by decide), if_neg (by decide), h]

/-- What follows the name of the program is refused if the command is. -/
theorem denied_rest {command program rest : String}
    (hsplit : Text.splitAtBlank command = (program, rest))
    (hprogram : program ∈ Policy.verbatimPrograms) (h : Policy.violation? command ≠ none) :
    Policy.Denied rest.toList := by
  rw [ne_eq, Policy.violation?_eq_none_iff, not_not] at h
  obtain ⟨-, ⟨hname, -⟩ | ⟨b, raw, hb, htext, hrest⟩⟩ := Text.splitAtBlank_cases command
  · -- Without a blank the command is the name, which is not refused.
    rw [hname, hsplit] at h
    obtain ⟨p, hp, hinfix⟩ := h
    rw [Policy.folded_program program hprogram] at hinfix
    exact absurd hinfix (Policy.not_denied_of_program program hprogram p hp)
  · rw [hsplit] at htext hrest
    dsimp only at htext hrest
    rw [hrest, Policy.denied_trim_iff, String.toList_ofList]
    rw [htext] at h
    exact Policy.denied_of_program hprogram hb h

theorem runs_dispatch (hlocal : s.store.isSimulated = false) {command : String}
    (hdenied : Policy.violation? command ≠ none) :
    Runs (fun _ => True) s (dispatch command) (Rebuilt s command) := by
  unfold Rebuilt
  cases hsplit : Text.splitAtBlank command with
  | mk program rest =>
      dsimp only
      split_ifs with hcat hls hcd
      · subst hcat
        rw [dispatch_cat hsplit]
        exact (runs_cat hlocal (denied_rest hsplit (by decide) hdenied)).bind_pure
      · subst hls
        rw [dispatch_ls hsplit]
        exact (runs_listing hlocal (denied_rest hsplit (by decide) hdenied)).bind_pure
      · subst hcd
        rw [dispatch_cd hsplit]
        exact (runs_cd hlocal rest).bind_pure
      · cases hparse : Redirect.parse? command with
        | some write =>
            rw [dispatch_redirect hparse]
            exact (runs_redirect hlocal hparse).bind_pure.congr (passes_refused_iff hdenied write)
        | none =>
            rw [dispatch_other hsplit hcat hls hcd hparse]
            refine runs_dispatchProgram hlocal rest ?_ (fun hvirtual => and_iff_right hvirtual) ?_
            · intro hbuiltin hmade
              exact absurd hmade.2.1 (not_mem_makers_of_builtin hbuiltin)
            · intro hvirtual
              exact (Runs.of_ensures (safeExecute_refused hdenied)).forget.idle
                fun h => hvirtual h.1

theorem runs_route (hlocal : s.store.isSimulated = false) {command : String}
    (hdenied : Policy.violation? command ≠ none) :
    Runs (fun _ => True) s (route command none) (Rebuilt s (Text.trim command)) := by
  have htrimmed : Policy.violation? (Text.trim command) ≠ none := by
    rwa [ne_eq, Policy.violation?_eq_none_iff, Policy.denied_trim_iff,
      ← Policy.violation?_eq_none_iff]
  exact runs_route_of_dispatch (runs_dispatch hlocal htrimmed)

/-- **A refused command runs something in the real shell exactly if it is made anew** from operands
that are not refused by themselves. -/
theorem avoids_run_iff (s : Session) (command : String) (hlocal : s.store.isSimulated = false)
    (hdenied : (Policy.violation? command).isSome = true) :
    ((route command none).run s).Avoids (fun q => q.isRun = true) ↔
      ¬ Rebuilt s (Text.trim command) :=
  (runs_route hlocal (Option.isSome_iff_ne_none.mp hdenied)).avoids_iff

/-- To append to a disk is refused. -/
theorem avoids_run_append :
    ownMachine.store.isSimulated = false ∧
    (Policy.violation? " echo x  >> /dev/sda").isSome = true ∧
    ((route " echo x  >> /dev/sda" none).run ownMachine).Avoids (fun q => q.isRun = true) := by
  have hlocal : ownMachine.store.isSimulated = false := rfl
  have hdenied : (Policy.violation? " echo x  >> /dev/sda").isSome = true := by decide +kernel
  have hparse : Redirect.parse? (Text.trim " echo x  >> /dev/sda")
      = some ⟨"x", .append, "/dev/sda"⟩ := by decide +kernel
  refine ⟨hlocal, hdenied, (avoids_run_iff ownMachine _ hlocal hdenied).mpr ?_⟩
  rw [rebuilt_iff_of_parse? hparse]
  exact nofun

/-- To overwrite a disk is refused as it was typed, and runs something all the same. -/
theorem overwritten_disk_runs :
    ownMachine.store.isSimulated = false ∧
    (Policy.violation? "echo x > /dev/sda").isSome = true ∧
    ¬ ((route "echo x > /dev/sda" none).run ownMachine).Avoids (fun q => q.isRun = true) := by
  have hdenied : (Policy.violation? "echo x > /dev/sda").isSome = true := by decide +kernel
  have hparse : Redirect.parse? (Text.trim "echo x > /dev/sda")
      = some ⟨"x", .overwrite, "/dev/sda"⟩ := by decide +kernel
  refine ⟨rfl, hdenied, ?_⟩
  rw [(runs_route rfl (Option.isSome_iff_ne_none.mp hdenied)).avoids_iff, not_not,
    rebuilt_iff_of_parse? hparse]
  decide +kernel

end Router

end PlainTerminal
