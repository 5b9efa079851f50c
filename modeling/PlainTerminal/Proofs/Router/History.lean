import PlainTerminal.Proofs.Router.Submission

/-!
# What a session remembers

A session notes the lines that it is given, trimmed and without the blank ones, and keeps so many of
them at most. The oldest ones are dropped as new ones come, one at a time, and one step does not tell
that what is left is always the end of *all* that was noted. The invariant that says so is `LastOf`:
the history is a suffix of the noted lines, as long as they allow up to the limit. To note one more
line keeps it, and nothing else that happens to a session touches the history, so it holds along
every run.
-/

namespace PlainTerminal

open Dialogue Router

/-- `part` is the end of `whole`: its last `n` elements, or all if there are fewer. -/
structure LastOf {α : Type} (n : Nat) (part whole : List α) : Prop where
  suffix : part <:+ whole
  length : part.length = min n whole.length

namespace LastOf

variable {α : Type} {n : Nat} {part whole : List α}

theorem nil (n : Nat) : LastOf n ([] : List α) [] where
  suffix := List.suffix_refl []
  length := (Nat.min_zero n).symm

theorem drop (n : Nat) (whole : List α) : LastOf n (whole.drop (whole.length - n)) whole where
  suffix := List.drop_suffix _ whole
  length := by
    rw [List.length_drop]
    omega

/-- One more element comes to the end, and the first one goes if there are too many. -/
theorem concat (h : LastOf n part whole) (x : α) :
    LastOf n ((part ++ [x]).drop (part.length + 1 - n)) (whole ++ [x]) := by
  obtain ⟨before, rfl⟩ := h.suffix
  have hlength := h.length
  constructor
  · -- What is left after the first one goes is a suffix if it was one before.
    have hwhole : part ++ [x] <:+ before ++ part ++ [x] :=
      ⟨before, (List.append_assoc before part [x]).symm⟩
    exact (List.drop_suffix _ _).trans hwhole
  · rw [List.length_append] at hlength
    simp only [List.length_drop, List.length_append, List.length_singleton]
    omega

end LastOf

namespace Session

variable {s s' : Session} {given : List String}

/-- What is noted of some inputs: all that are not blank, trimmed, in order. -/
def noted (inputs : List String) : List String :=
  (inputs.map Text.trim).filter fun line => line ≠ ""

theorem noted_append (before after : List String) :
    noted (before ++ after) = noted before ++ noted after := by
  rw [noted, List.map_append, List.filter_append, noted, noted]

theorem noted_of_blank {input : String} (h : Text.trim input = "") : noted [input] = [] := by
  rw [noted, List.map_singleton, h]
  rfl

theorem noted_of_not_blank {input : String} (h : Text.trim input ≠ "") :
    noted [input] = [Text.trim input] := by
  rw [noted, List.map_singleton, List.filter_eq_self]
  intro line hline
  rw [List.mem_singleton.mp hline]
  exact decide_eq_true h

/-- The session remembers the last of these inputs, and can tell the last few of what it
remembers. -/
structure Remembers (s : Session) (inputs : List String) : Prop where
  history : LastOf historyLimit s.history (noted inputs)
  recent : ∀ n, LastOf n (s.recent n) s.history

/-- To remember is a matter of the history. -/
theorem remembers_iff :
    s.Remembers given ↔ LastOf historyLimit s.history (noted given) :=
  ⟨Remembers.history, fun h => ⟨h, fun n => LastOf.drop n s.history⟩⟩

theorem Remembers.of_history_eq (h : s.Remembers given) (hsame : s'.history = s.history) :
    s'.Remembers given := by
  rw [remembers_iff] at h ⊢
  rwa [hsame]

/-- One more input is remembered after the others. -/
theorem Remembers.record (h : s.Remembers given) (input : String) :
    (s.record input).Remembers (given ++ [input]) := by
  rw [remembers_iff] at h ⊢
  rw [noted_append]
  by_cases hblank : Text.trim input = ""
  · have hsame : s.record input = s := if_pos hblank
    rw [hsame, noted_of_blank hblank, List.append_nil]
    exact h
  · rw [history_record s hblank, noted_of_not_blank hblank]
    exact h.concat (Text.trim input)

theorem Remembers.foldl_record (h : s.Remembers given) (more : List String) :
    (more.foldl Session.record s).Remembers (given ++ more) := by
  induction more generalizing s given with
  | nil => rwa [List.append_nil]
  | cons input more ih =>
      rw [List.foldl_cons, List.append_cons]
      exact ih (h.record input)

/-! ## Along a run -/

/-- The inputs that are noted in an event. -/
def Event.inputs : Event → List String
  | .note input => [input]
  | .route _ _ | .upload _ | .clearUploads => []

/-- The inputs that are noted in some turns. -/
def inputsOf (turns : List Turn) : List String := turns.flatMap fun t => t.event.inputs

/-- A turn adds what is noted in it to what is remembered. -/
theorem Turn.Happens.remembers {t : Turn} (ht : t.Happens) (h : t.before.Remembers given) :
    t.after.Remembers (given ++ t.event.inputs) := by
  cases ht with
  | @route s s' command workingDirectory result hreturn =>
      have hleads := (leads_route command workingDirectory).of_mayReturn hreturn
      -- To enter the working directory changes the executor, and what follows keeps the history.
      obtain ⟨executor, hentering⟩ := exists_entering s workingDirectory
      have hsame : s'.history = s.history := by rw [hleads.history_eq, hentering]
      rw [Event.inputs, List.append_nil]
      exact h.of_history_eq hsame
  | note s input => exact h.record input
  | upload s u =>
      rw [Event.inputs, List.append_nil]
      exact h.of_history_eq rfl
  | clearUploads s =>
      rw [Event.inputs, List.append_nil]
      exact h.of_history_eq rfl

theorem Run.remembers {turns : List Turn} (hrun : Run s turns) (h : s.Remembers given) :
    (endOf s turns).Remembers (given ++ inputsOf turns) := by
  induction hrun generalizing given with
  | nil s =>
      rw [inputsOf, List.flatMap_nil, List.append_nil]
      exact h
  | cons ht _ ih =>
      have hafter := ih (ht.remembers h)
      rw [endOf_cons, inputsOf, List.flatMap_cons, ← List.append_assoc]
      exact hafter

/-- **A session remembers the last of its inputs**: of all that were noted since it was made, in
order, and whatever else happened in between. -/
theorem remembers_last_inputs (executor : Executor) (mode : Mode) (now : Timestamp) :
    (∀ inputs : List String,
      (inputs.foldl Session.record (new executor mode now)).Remembers inputs) ∧
    ∀ turns, Run (new executor mode now) turns →
      (endOf (new executor mode now) turns).Remembers (inputsOf turns) := by
  have hnew : (new executor mode now).Remembers [] :=
    remembers_iff.mpr (LastOf.nil historyLimit)
  exact ⟨fun inputs => hnew.foldl_record inputs, fun turns hrun => hrun.remembers hnew⟩

/-- Blank lines are forgotten at once, and what happens between two lines is not noted. -/
theorem remembers_last_inputs_two :
    let s : Session := .new (.new "/home/user" "/home/user" ⟨30000, 1048576⟩) .remoteDemo ⟨0⟩
    ∃ turns, Run s turns ∧ inputsOf turns = [" ls ", "\t", "pwd"] ∧
      (endOf s turns).Remembers [" ls ", "\t", "pwd"] ∧
      (endOf s turns).history = ["ls", "pwd"] := by
  intro s
  have hrun : Run s
      [⟨s, .note " ls ", s.record " ls "⟩,
        ⟨s.record " ls ", .note "\t", (s.record " ls ").record "\t"⟩,
        ⟨(s.record " ls ").record "\t", .clearUploads,
          ((s.record " ls ").record "\t").clearUploads⟩,
        ⟨((s.record " ls ").record "\t").clearUploads, .note "pwd",
          ((s.record " ls ").record "\t").clearUploads.record "pwd"⟩] :=
    .cons (.note _ _) (.cons (.note _ _) (.cons (.clearUploads _) (.cons (.note _ _) (.nil _))))
  exact ⟨_, hrun, rfl, (remembers_last_inputs _ _ _).2 _ hrun, by decide +kernel⟩

end Session

end PlainTerminal
