import PlainTerminal.Proofs.Dialogue

/-!
# Dialogues in step

Two dialogues are in step if nobody who is asked can tell them apart: they ask the same questions,
and whoever gives both the same answers brings them to related values. It is a relation between two
runs of one program, put together along the program just as `Ensures` is along one run.
-/

namespace PlainTerminal.Dialogue

variable {α α' β β' : Type} {R : α → α' → Prop} {asks : Question → Prop}

/-- Two dialogues ask the same, and told the same they end in related values. -/
inductive InStep (R : α → α' → Prop) : Dialogue α → Dialogue α' → Prop where
  | done {value : α} {value' : α'} : R value value' → InStep R (done value) (done value')
  | ask {q : Question} {next : q.Answer → Dialogue α} {next' : q.Answer → Dialogue α'} :
      (∀ answer, InStep R (next answer) (next' answer)) → InStep R (ask q next) (ask q next')

namespace InStep

/-- A dialogue is in step with itself. -/
theorem of_ensures {post : α → Prop} {d : Dialogue α} (h : d.Ensures asks post) :
    InStep (fun value value' => value = value' ∧ post value) d d := by
  induction d with
  | done value => exact .done ⟨rfl, ensures_done.mp h⟩
  | ask q next ih => exact .ask fun answer => ih answer ((ensures_ask.mp h).2 answer)

theorem mono {R' : α → α' → Prop} {d : Dialogue α} {d' : Dialogue α'} (h : InStep R d d')
    (himp : ∀ value value', R value value' → R' value value') : InStep R' d d' := by
  induction h with
  | done hvalue => exact .done (himp _ _ hvalue)
  | ask _ ih => exact .ask ih

theorem bind {R' : β → β' → Prop} {d : Dialogue α} {d' : Dialogue α'} {f : α → Dialogue β}
    {f' : α' → Dialogue β'} (h : InStep R d d')
    (hf : ∀ value value', R value value' → InStep R' (f value) (f' value')) :
    InStep R' (d >>= f) (d' >>= f') := by
  induction h with
  | done hvalue => exact hf _ _ hvalue
  | ask _ ih => exact .ask ih

/-- What is ensured of one of two dialogues in step may be added to what relates their ends. -/
theorem and_ensures {post : α → Prop} {d : Dialogue α} {d' : Dialogue α'} (h : InStep R d d')
    (hpost : d.Ensures asks post) :
    InStep (fun value value' => R value value' ∧ post value) d d' := by
  induction h with
  | done hvalue => exact .done ⟨hvalue, ensures_done.mp hpost⟩
  | ask _ ih => exact .ask fun answer => ih answer ((ensures_ask.mp hpost).2 answer)

/-- What is ensured of one of two dialogues in step is ensured of the other, as far as their ends are
related. -/
theorem ensures {post : α → Prop} {d : Dialogue α} {d' : Dialogue α'} (h : InStep R d d')
    (hpost : d.Ensures asks post) :
    d'.Ensures asks fun value' => ∃ value, R value value' ∧ post value := by
  induction h with
  | done hvalue => exact ensures_done.mpr ⟨_, hvalue, ensures_done.mp hpost⟩
  | ask _ ih =>
      obtain ⟨hq, hnext⟩ := ensures_ask.mp hpost
      exact ensures_ask.mpr ⟨hq, fun answer => ih answer (hnext answer)⟩

/-- Somebody who answers both dialogues brings them to related values. -/
theorem run {σ : Type} {d : Dialogue α} {d' : Dialogue α'} (h : InStep R d d')
    (answer : (q : Question) → σ → q.Answer × σ) (state : σ) :
    R (d.run answer state).1 (d'.run answer state).1 := by
  induction h generalizing state with
  | done hvalue => exact hvalue
  | ask _ ih => exact ih _ _

/-! ## Actions in two states -/

section Actions

variable {σ : Type} {s s' : σ}

/-- Actions in step, one after the other in both states. -/
theorem action_bind {R : α × σ → α' × σ → Prop} {R' : β × σ → β' × σ → Prop}
    {action : StateT σ Dialogue α} {action' : StateT σ Dialogue α'} {f : α → StateT σ Dialogue β}
    {f' : α' → StateT σ Dialogue β'} (h : InStep R (action.run s) (action'.run s'))
    (hf : ∀ value t value' t', R (value, t) (value', t') →
      InStep R' ((f value).run t) ((f' value').run t')) :
    InStep R' ((action >>= f).run s) ((action' >>= f').run s') := by
  rw [StateT.run_bind, StateT.run_bind]
  exact h.bind fun r r' hr => hf r.1 r.2 r'.1 r'.2 hr

/-- The same is asked in both states, and each goes on from there. -/
theorem lift_bind {R' : β × σ → β' × σ → Prop} {post : α → Prop} {d : Dialogue α}
    {f : α → StateT σ Dialogue β} {f' : α → StateT σ Dialogue β'} (hd : d.Ensures asks post)
    (hf : ∀ value, post value → InStep R' ((f value).run s) ((f' value).run s')) :
    InStep R' ((liftM d >>= f : StateT σ Dialogue β).run s)
      ((liftM d >>= f' : StateT σ Dialogue β').run s') := by
  have hlift : InStep (fun r r' => r.2 = s ∧ r'.2 = s' ∧ r.1 = r'.1 ∧ post r.1)
      ((liftM d : StateT σ Dialogue α).run s) ((liftM d : StateT σ Dialogue α).run s') := by
    refine InStep.bind (InStep.of_ensures hd) ?_
    rintro value _ ⟨rfl, hvalue⟩
    exact InStep.done ⟨rfl, rfl, rfl, hvalue⟩
  refine hlift.action_bind ?_
  rintro value _ _ _ ⟨rfl, rfl, rfl, hvalue⟩
  exact hf value hvalue

end Actions

end InStep

end PlainTerminal.Dialogue
