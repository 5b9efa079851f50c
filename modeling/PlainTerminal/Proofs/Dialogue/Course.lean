import PlainTerminal.Proofs.Dialogue

/-!
# The course of a dialogue

`Ensures` and `Reaches` speak of all answers at once. Some statements tie what was asked to what
came of it, and for them a single conversation has to be in view: a `Course` of a dialogue lists the
questions that came up, in order, and the value in which it ended. Somebody who answers takes the
dialogue through one of its courses, and what is ensured or reached shows in every course of it.
-/

namespace PlainTerminal.Dialogue

variable {α σ : Type} {asks p : Question → Prop} {post : α → Prop} {d : Dialogue α}
  {asked : List Question} {value : α}

/-- Somebody may answer so that these questions come up, one after the other, and the dialogue ends
in this value. -/
inductive Course : Dialogue α → List Question → α → Prop where
  | done {value : α} : Course (done value) [] value
  | ask {q : Question} {next : q.Answer → Dialogue α} {asked : List Question} {value : α}
      (answer : q.Answer) : Course (next answer) asked value →
      Course (ask q next) (q :: asked) value

/-- Whoever answers takes the dialogue through a course of it. -/
theorem exists_course_run (d : Dialogue α) (answer : (q : Question) → σ → q.Answer × σ)
    (state : σ) : ∃ asked, d.Course asked (d.run answer state).1 := by
  induction d generalizing state with
  | done value => exact ⟨[], .done⟩
  | ask q next ih =>
      obtain ⟨asked, hcourse⟩ := ih (answer q state).1 (answer q state).2
      exact ⟨q :: asked, .ask _ hcourse⟩

theorem run_ask (q : Question) (next : q.Answer → Dialogue α)
    (answer : (q : Question) → σ → q.Answer × σ) (state : σ) :
    (ask q next).run answer state =
      (next (answer q state).1).run answer (answer q state).2 := rfl

theorem run_bind {β : Type} (d : Dialogue α) (f : α → Dialogue β)
    (answer : (q : Question) → σ → q.Answer × σ) (state : σ) :
    (d >>= f).run answer state =
      (f (d.run answer state).1).run answer (d.run answer state).2 := by
  induction d generalizing state with
  | done value => rfl
  | ask q next ih => exact ih _ _

/-- What a dialogue comes to is what it may return. -/
theorem mayReturn_run (d : Dialogue α) (answer : (q : Question) → σ → q.Answer × σ) (state : σ) :
    d.MayReturn (d.run answer state).1 := by
  induction d generalizing state with
  | done value => exact .done
  | ask q next ih => exact .ask _ (ih _ _)

theorem exists_course (d : Dialogue α) : ∃ asked value, d.Course asked value := by
  -- Every question has some answer, and somebody may give that one always.
  let answer : (q : Question) → Unit → q.Answer × Unit :=
    fun q _ => (Classical.choice (nonempty_answer q), ())
  obtain ⟨asked, hcourse⟩ := exists_course_run d answer ()
  exact ⟨asked, _, hcourse⟩

/-- In every course, the questions are allowed ones and the value is a good one. -/
theorem Ensures.of_course (h : d.Ensures asks post) (hcourse : d.Course asked value) :
    (∀ q ∈ asked, asks q) ∧ post value := by
  induction hcourse with
  | done => exact ⟨nofun, ensures_done.mp h⟩
  | ask answer _ ih =>
      obtain ⟨hq, hnext⟩ := ensures_ask.mp h
      obtain ⟨hasked, hvalue⟩ := ih (hnext answer)
      exact ⟨List.forall_mem_cons.mpr ⟨hq, hasked⟩, hvalue⟩

/-- Whoever answers, a dialogue comes to what it ensures. -/
theorem Ensures.run (h : d.Ensures asks post) (answer : (q : Question) → σ → q.Answer × σ)
    (state : σ) : post (d.run answer state).1 := by
  obtain ⟨asked, hcourse⟩ := exists_course_run d answer state
  exact (h.of_course hcourse).2

/-- In every course, a question that the dialogue reaches comes up. -/
theorem Reaches.of_course (h : d.Reaches p) (hcourse : d.Course asked value) :
    ∃ q ∈ asked, p q := by
  induction hcourse with
  | done => exact absurd h not_reaches_done
  | @ask q _ asked _ answer _ ih =>
      rcases reaches_ask.mp h with hq | hnext
      · exact ⟨q, List.mem_cons_self, hq⟩
      · obtain ⟨q', hmem, hq'⟩ := ih (hnext answer)
        exact ⟨q', List.mem_cons_of_mem _ hmem, hq'⟩

/-- A dialogue stays away from a question exactly if no course of it comes to one. -/
theorem avoids_iff_course :
    d.Avoids p ↔ ∀ asked value, d.Course asked value → ∀ q ∈ asked, ¬ p q := by
  constructor
  · intro h asked value hcourse
    exact (Ensures.of_course h hcourse).1
  · intro h
    induction d with
    | done value => exact ensures_done.mpr trivial
    | ask q next ih =>
        have hq : ¬ p q := by
          obtain ⟨answer⟩ := nonempty_answer q
          obtain ⟨asked, value, hcourse⟩ := exists_course (next answer)
          exact h _ _ (.ask answer hcourse) q List.mem_cons_self
        refine ensures_ask.mpr ⟨hq, fun answer => ih answer fun asked value hcourse q' hq' => ?_⟩
        exact h _ _ (.ask answer hcourse) q' (List.mem_cons_of_mem _ hq')

/-! ## Actions that somebody answers -/

section Actions

variable {β τ : Type} {answer : (q : Question) → σ → q.Answer × σ} {state state' : σ} {s s' : τ}

/-- An action goes on from where the one before it has come to. -/
theorem run_action_bind {action : StateT τ Dialogue α}
    (h : (action.run s).run answer state = ((value, s'), state')) (f : α → StateT τ Dialogue β) :
    ((action >>= f).run s).run answer state = ((f value).run s').run answer state' := by
  rw [StateT.run_bind, run_bind, h]

theorem run_lift_bind (h : d.run answer state = (value, state')) (f : α → StateT τ Dialogue β) :
    ((liftM d >>= f : StateT τ Dialogue β).run s).run answer state =
      ((f value).run s).run answer state' := by
  refine run_action_bind ?_ f
  show (d >>= fun a => done (a, s)).run answer state = _
  rw [run_bind, h]
  rfl

theorem run_get_bind (f : τ → StateT τ Dialogue β) (s : τ) :
    (get >>= f : StateT τ Dialogue β).run s = (f s).run s := rfl

theorem run_modify_bind (change : τ → τ) (f : PUnit → StateT τ Dialogue β) (s : τ) :
    (modify change >>= f : StateT τ Dialogue β).run s = (f ⟨⟩).run (change s) := rfl

/-- Whoever answers, an action comes to what it ensures. -/
theorem EnsuresFrom.of_run {action : StateT τ Dialogue α} {post : α → τ → Prop}
    (h : EnsuresFrom asks post s action)
    (hrun : (action.run s).run answer state = ((value, s'), state')) : post value s' := by
  have hreturn := mayReturn_run (action.run s) answer state
  rw [hrun] at hreturn
  exact h.of_mayReturn hreturn

end Actions

end PlainTerminal.Dialogue
