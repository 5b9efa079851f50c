import PlainTerminal.Dialogue

/-!
# Dialogues with somebody to rely on

`Ensures` allows any answer to any question. Some statements hold only if the outside keeps its side:
`told` says which answers to a question it may give. `EnsuresIf` is what holds at the end whoever
answers, as long as all answers are of that kind, and `Yields` says it of an action from every
state. What an action yields is often decided by its last step alone, whatever came before.
-/

namespace PlainTerminal.Dialogue

variable {α β σ : Type} {told : (q : Question) → q.Answer → Prop}

/-- Whoever answers in the given way, the value at the end is a good one. -/
def EnsuresIf (told : (q : Question) → q.Answer → Prop) (post : α → Prop) : Dialogue α → Prop
  | done value => post value
  | ask question next => ∀ answer, told question answer → (next answer).EnsuresIf told post

@[simp] theorem ensuresIf_done {post : α → Prop} {value : α} :
    (done value).EnsuresIf told post ↔ post value := Iff.rfl

@[simp] theorem ensuresIf_ask {post : α → Prop} {q : Question} {next : q.Answer → Dialogue α} :
    (ask q next).EnsuresIf told post ↔
      ∀ answer, told q answer → (next answer).EnsuresIf told post := Iff.rfl

-- As with `Ensures`: to unfold it would be to run the dialogue.
attribute [irreducible] EnsuresIf

theorem ensuresIf_bind {post : β → Prop} (d : Dialogue α) (f : α → Dialogue β) :
    (d >>= f).EnsuresIf told post ↔
      d.EnsuresIf told fun value => (f value).EnsuresIf told post := by
  induction d with
  | done value => rw [done_bind, ensuresIf_done]
  | ask q next ih =>
      rw [ask_bind, ensuresIf_ask, ensuresIf_ask]
      exact forall_congr' fun answer => imp_congr_right fun _ => ih answer

theorem EnsuresIf.mono {post post' : α → Prop} {d : Dialogue α} (h : d.EnsuresIf told post)
    (himp : ∀ value, post value → post' value) : d.EnsuresIf told post' := by
  induction d with
  | done value => exact ensuresIf_done.mpr (himp value (ensuresIf_done.mp h))
  | ask q next ih =>
      rw [ensuresIf_ask] at h ⊢
      intro answer htold
      exact ih answer (h answer htold)

theorem ensuresIf_of_forall {post : α → Prop} (d : Dialogue α) (h : ∀ value, post value) :
    d.EnsuresIf told post := by
  induction d with
  | done value => exact ensuresIf_done.mpr (h value)
  | ask q next ih =>
      rw [ensuresIf_ask]
      intro answer _
      exact ih answer

/-- Somebody who always answers in the given way brings the dialogue to a good value. -/
theorem EnsuresIf.run {post : α → Prop} {d : Dialogue α} (h : d.EnsuresIf told post)
    {answer : (q : Question) → σ → q.Answer × σ}
    (hanswer : ∀ q state, told q (answer q state).1) (state : σ) :
    post (d.run answer state).1 := by
  induction d generalizing state with
  | done value => exact ensuresIf_done.mp h
  | ask q next ih =>
      rw [ensuresIf_ask] at h
      exact ih _ (h _ (hanswer q state)) _

/-! ## Actions -/

/-- From every state, whoever answers in the given way, the action ends in a good value. -/
def Yields (told : (q : Question) → q.Answer → Prop) (good : α → Prop)
    (action : StateT σ Dialogue α) : Prop :=
  ∀ s, (action.run s).EnsuresIf told fun r => good r.1

namespace Yields

variable {good : α → Prop} {good' : β → Prop}

theorem pure {value : α} (h : good value) :
    Yields told good (pure value : StateT σ Dialogue α) := by
  intro s
  exact ensuresIf_done.mpr h

theorem bind {action : StateT σ Dialogue α} {f : α → StateT σ Dialogue β}
    (h : Yields told good action) (hf : ∀ value, good value → Yields told good' (f value)) :
    Yields told good' (action >>= f) := by
  intro s
  rw [StateT.run_bind, ensuresIf_bind]
  exact (h s).mono fun r hr => hf r.1 hr r.2

/-- Only what is done last counts. -/
theorem last {action : StateT σ Dialogue α} {f : α → StateT σ Dialogue β}
    (hf : ∀ value, Yields told good' (f value)) : Yields told good' (action >>= f) := by
  intro s
  rw [StateT.run_bind, ensuresIf_bind]
  exact ensuresIf_of_forall _ fun r => hf r.1 r.2

theorem lift {d : Dialogue α} (h : d.EnsuresIf told good) :
    Yields told good (liftM d : StateT σ Dialogue α) := by
  intro s
  show ((d >>= fun a => Pure.pure (a, s)) : Dialogue _).EnsuresIf told _
  rw [ensuresIf_bind]
  exact h.mono fun value hvalue => ensuresIf_done.mpr hvalue

end Yields

end PlainTerminal.Dialogue
