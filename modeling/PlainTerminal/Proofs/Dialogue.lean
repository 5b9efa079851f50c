import PlainTerminal.Dialogue

/-!
# What a dialogue can come to

A dialogue is asked of an outside that may answer anything. `Ensures` says what holds whoever
answers: every question that comes up is an allowed one, and the value at the end is a good one.
`Reaches` says that a question of some kind comes up whoever answers. The two are opposites in the
one way that matters: a dialogue that reaches a question does not ensure that it stays away from it.

`EnsuresFrom` is `Ensures` for something that happens in a state. It is computed from back to front
along a program, one rule for each way to build one, so a property of a long action is put together
from those of its parts.
-/

namespace PlainTerminal.Dialogue

variable {α β σ : Type} {asks asks' p : Question → Prop}

/-- Whoever answers, all questions are allowed ones and the value at the end is a good one. -/
def Ensures (asks : Question → Prop) (post : α → Prop) : Dialogue α → Prop
  | done value => post value
  | ask question next => asks question ∧ ∀ answer, (next answer).Ensures asks post

/-- Whoever answers, a question of the given kind comes up. -/
def Reaches (p : Question → Prop) : Dialogue α → Prop
  | done _ => False
  | ask question next => p question ∨ ∀ answer, (next answer).Reaches p

/-- No question of the given kind comes up, whoever answers. -/
def Avoids (p : Question → Prop) (d : Dialogue α) : Prop :=
  d.Ensures (fun q => ¬ p q) fun _ => True

@[simp] theorem ensures_done {post : α → Prop} {value : α} :
    (done value).Ensures asks post ↔ post value := Iff.rfl

@[simp] theorem ensures_ask {post : α → Prop} {q : Question} {next : q.Answer → Dialogue α} :
    (ask q next).Ensures asks post ↔ asks q ∧ ∀ answer, (next answer).Ensures asks post :=
  Iff.rfl

@[simp] theorem not_reaches_done {value : α} : ¬ (done value).Reaches p := fun h => h

@[simp] theorem reaches_ask {q : Question} {next : q.Answer → Dialogue α} :
    (ask q next).Reaches p ↔ p q ∨ ∀ answer, (next answer).Reaches p := Iff.rfl

-- What a dialogue ensures or reaches is told by these lemmas. To unfold it would be to run it.
attribute [irreducible] Ensures Reaches

theorem ensures_bind {post : β → Prop} (d : Dialogue α) (f : α → Dialogue β) :
    (d >>= f).Ensures asks post ↔ d.Ensures asks fun value => (f value).Ensures asks post := by
  induction d with
  | done value => rw [done_bind, ensures_done]
  | ask q next ih =>
      rw [ask_bind, ensures_ask, ensures_ask]
      exact and_congr_right fun _ => forall_congr' ih

theorem Ensures.mono {post post' : α → Prop} {d : Dialogue α} (h : d.Ensures asks post)
    (hasks : ∀ q, asks q → asks' q) (hpost : ∀ value, post value → post' value) :
    d.Ensures asks' post' := by
  induction d with
  | done value => exact ensures_done.mpr (hpost value (ensures_done.mp h))
  | ask q next ih =>
      obtain ⟨hq, hnext⟩ := ensures_ask.mp h
      exact ensures_ask.mpr ⟨hasks q hq, fun answer => ih answer (hnext answer)⟩

theorem ensures_congr {post post' : α → Prop} {d : Dialogue α}
    (h : ∀ value, post value ↔ post' value) : d.Ensures asks post ↔ d.Ensures asks post' :=
  ⟨fun hd => hd.mono (fun _ hq => hq) fun value => (h value).mp,
    fun hd => hd.mono (fun _ hq => hq) fun value => (h value).mpr⟩

theorem Ensures.and {post post' : α → Prop} {d : Dialogue α} (h : d.Ensures asks post)
    (h' : d.Ensures asks' post') : d.Ensures asks fun value => post value ∧ post' value := by
  induction d with
  | done value => exact ensures_done.mpr ⟨ensures_done.mp h, ensures_done.mp h'⟩
  | ask q next ih =>
      obtain ⟨hq, hnext⟩ := ensures_ask.mp h
      obtain ⟨_, hnext'⟩ := ensures_ask.mp h'
      exact ensures_ask.mpr ⟨hq, fun answer => ih answer (hnext answer) (hnext' answer)⟩

/-- What comes after a dialogue matters only for the values in which it can end. -/
theorem Ensures.bind_congr {post : α → Prop} {d : Dialogue α} (h : d.Ensures asks post)
    {f g : α → Dialogue β} (hsame : ∀ value, post value → f value = g value) :
    d >>= f = d >>= g := by
  induction d with
  | done value => exact hsame value (ensures_done.mp h)
  | ask q next ih =>
      exact congrArg (ask q) (funext fun answer => ih answer ((ensures_ask.mp h).2 answer))

theorem ensures_true (d : Dialogue α) : d.Ensures (fun _ => True) fun _ => True := by
  induction d with
  | done value => exact ensures_done.mpr trivial
  | ask q next ih => exact ensures_ask.mpr ⟨trivial, ih⟩

/-- Every question has some answer. -/
theorem nonempty_answer (q : Question) : Nonempty q.Answer := by
  cases q with
  | runCommand call => exact ⟨CommandResult.ok ""⟩
  | isDirectory path => exact ⟨false⟩
  | listDirectory path => exact ⟨([] : List String)⟩
  | complete request => exact ⟨(.ok "" : Except ModelError String)⟩
  | now => exact ⟨(⟨0⟩ : Timestamp)⟩
  | pick last => exact ⟨(0 : Fin (last + 1))⟩

/-- A dialogue ends, so what holds at every end holds at some end. -/
theorem Ensures.exists {post : α → Prop} {d : Dialogue α} (h : d.Ensures asks post) :
    ∃ value, post value := by
  induction d with
  | done value => exact ⟨value, ensures_done.mp h⟩
  | ask q next ih =>
      obtain ⟨answer⟩ := nonempty_answer q
      exact ih answer ((ensures_ask.mp h).2 answer)

theorem Reaches.bind {d : Dialogue α} (h : d.Reaches p) (f : α → Dialogue β) :
    (d >>= f).Reaches p := by
  induction d with
  | done value => exact absurd h not_reaches_done
  | ask q next ih =>
      rcases reaches_ask.mp h with hq | hnext
      · exact reaches_ask.mpr (Or.inl hq)
      · exact reaches_ask.mpr (Or.inr fun answer => ih answer (hnext answer))

/-- What comes after a dialogue comes up if it does so after every value. -/
theorem Ensures.reaches_bind {d : Dialogue α} {f : α → Dialogue β}
    (h : d.Ensures asks fun value => (f value).Reaches p) : (d >>= f).Reaches p := by
  induction d with
  | done value =>
      rw [ensures_done] at h
      exact h
  | ask q next ih =>
      exact reaches_ask.mpr (Or.inr fun answer => ih answer ((ensures_ask.mp h).2 answer))

theorem Reaches.not_avoids {d : Dialogue α} (h : d.Reaches p) : ¬ d.Avoids p := by
  induction d with
  | done value => exact absurd h not_reaches_done
  | ask q next ih =>
      intro hav
      obtain ⟨hq, hnext⟩ := ensures_ask.mp hav
      rcases reaches_ask.mp h with hq' | hnext'
      · exact hq hq'
      · obtain ⟨answer⟩ := nonempty_answer q
        exact ih answer (hnext' answer) (hnext answer)

/-- What is reached is among what may be asked. -/
theorem Reaches.of_ensures {p' : Question → Prop} {post : α → Prop} {d : Dialogue α}
    (h : d.Reaches p) (hd : d.Ensures asks post) (himp : ∀ q, asks q → p q → p' q) :
    d.Reaches p' := by
  induction d with
  | done value => exact absurd h not_reaches_done
  | ask q next ih =>
      obtain ⟨hq, hnext⟩ := ensures_ask.mp hd
      rcases reaches_ask.mp h with hp | hreaches
      · exact reaches_ask.mpr (Or.inl (himp q hq hp))
      · exact reaches_ask.mpr (Or.inr fun answer => ih answer (hreaches answer) (hnext answer))

/-! ## What a dialogue may return -/

/-- Somebody may answer so that the dialogue ends in this value. -/
inductive MayReturn : Dialogue α → α → Prop where
  | done {value : α} : MayReturn (done value) value
  | ask {q : Question} {next : q.Answer → Dialogue α} {value : α} (answer : q.Answer) :
      MayReturn (next answer) value → MayReturn (ask q next) value

theorem mayReturn_done {value result : α} : (done value).MayReturn result ↔ value = result := by
  constructor
  · rintro ⟨⟩
    rfl
  · rintro rfl
    exact MayReturn.done

theorem mayReturn_ask {q : Question} {next : q.Answer → Dialogue α} {result : α} :
    (ask q next).MayReturn result ↔ ∃ answer, (next answer).MayReturn result := by
  constructor
  · intro h
    cases h with
    | ask answer h => exact ⟨answer, h⟩
  · rintro ⟨answer, h⟩
    exact MayReturn.ask answer h

theorem mayReturn_bind {d : Dialogue α} {f : α → Dialogue β} {result : β} :
    (d >>= f).MayReturn result ↔ ∃ value, d.MayReturn value ∧ (f value).MayReturn result := by
  induction d with
  | done value => simp [mayReturn_done]
  | ask q next ih =>
      simp only [ask_bind, mayReturn_ask, ih]
      constructor
      · rintro ⟨answer, value, hvalue, hresult⟩
        exact ⟨value, ⟨answer, hvalue⟩, hresult⟩
      · rintro ⟨value, ⟨answer, hvalue⟩, hresult⟩
        exact ⟨answer, value, hvalue, hresult⟩

/-- What a dialogue ensures holds of what it may return. -/
theorem Ensures.of_mayReturn {post : α → Prop} {d : Dialogue α} {value : α}
    (h : d.Ensures asks post) (hreturn : d.MayReturn value) : post value := by
  induction hreturn with
  | done => exact ensures_done.mp h
  | ask answer _ ih => exact ih ((ensures_ask.mp h).2 answer)

/-- What holds of all that a dialogue may return is ensured. -/
theorem ensures_of_forall_mayReturn {post : α → Prop} {d : Dialogue α}
    (h : ∀ value, d.MayReturn value → post value) : d.Ensures (fun _ => True) post := by
  induction d with
  | done value => exact ensures_done.mpr (h value MayReturn.done)
  | ask q next ih =>
      exact ensures_ask.mpr ⟨trivial, fun answer =>
        ih answer fun value hvalue => h value (MayReturn.ask answer hvalue)⟩

/-! ## Actions in a state -/

/-- Whoever answers, the action that starts in state `s` asks allowed questions alone, and ends in a
good value and state. It is opened by the rules below only: unfolded, it would run the action. -/
@[irreducible] def EnsuresFrom (asks : Question → Prop) (post : α → σ → Prop) (s : σ)
    (action : StateT σ Dialogue α) : Prop :=
  (action.run s).Ensures asks fun r => post r.1 r.2

section Rules

variable {s : σ} {post : α → σ → Prop}

@[simp] theorem ensuresFrom_pure {value : α} :
    EnsuresFrom asks post s (pure value) ↔ post value s := by
  unfold EnsuresFrom
  exact ensures_done

theorem ensuresFrom_bind {post : β → σ → Prop} {action : StateT σ Dialogue α}
    {f : α → StateT σ Dialogue β} :
    EnsuresFrom asks post s (action >>= f)
      ↔ EnsuresFrom asks (fun value s' => EnsuresFrom asks post s' (f value)) s action := by
  unfold EnsuresFrom
  rw [StateT.run_bind, ensures_bind]

@[simp] theorem ensuresFrom_get {post : σ → σ → Prop} :
    EnsuresFrom asks post s get ↔ post s s := by
  unfold EnsuresFrom
  exact ensures_done

@[simp] theorem ensuresFrom_set {post : PUnit → σ → Prop} {s' : σ} :
    EnsuresFrom asks post s (set s') ↔ post ⟨⟩ s' := by
  unfold EnsuresFrom
  exact ensures_done

@[simp] theorem ensuresFrom_modify {post : PUnit → σ → Prop} {f : σ → σ} :
    EnsuresFrom asks post s (modify f) ↔ post ⟨⟩ (f s) := by
  unfold EnsuresFrom
  exact ensures_done

theorem ensuresFrom_lift {d : Dialogue α} :
    EnsuresFrom asks post s (liftM d : StateT σ Dialogue α)
      ↔ d.Ensures asks fun value => post value s := by
  unfold EnsuresFrom
  show ((d >>= fun a => pure (a, s)) : Dialogue _).Ensures asks _ ↔ _
  rw [ensures_bind]
  simp only [pure_eq, ensures_done]

/-- An action that asks nothing does what it comes to. -/
theorem ensuresFrom_of_run {action : StateT σ Dialogue α} {value : α} {s' : σ}
    (h : action.run s = done (value, s')) : EnsuresFrom asks post s action ↔ post value s' := by
  unfold EnsuresFrom
  rw [h, ensures_done]

theorem ensuresFrom_true (action : StateT σ Dialogue α) (s : σ) :
    EnsuresFrom (fun _ => True) (fun _ _ => True) s action := by
  unfold EnsuresFrom
  exact ensures_true _

theorem EnsuresFrom.mono {post' : α → σ → Prop} {action : StateT σ Dialogue α}
    (h : EnsuresFrom asks post s action) (hasks : ∀ q, asks q → asks' q)
    (hpost : ∀ value s', post value s' → post' value s') : EnsuresFrom asks' post' s action := by
  unfold EnsuresFrom at h ⊢
  exact Ensures.mono h hasks fun r => hpost r.1 r.2

theorem EnsuresFrom.and {post' : α → σ → Prop} {action : StateT σ Dialogue α}
    (h : EnsuresFrom asks post s action) (h' : EnsuresFrom asks' post' s action) :
    EnsuresFrom asks (fun value s' => post value s' ∧ post' value s') s action := by
  unfold EnsuresFrom at h h' ⊢
  exact Ensures.and h h'

/-- An action may stand for another that does the same from this state. -/
theorem run_bind_left {action action' : StateT σ Dialogue α} (h : action.run s = action'.run s)
    (f : α → StateT σ Dialogue β) : (action >>= f).run s = (action' >>= f).run s := by
  rw [StateT.run_bind, StateT.run_bind, h]

/-- What comes after an action matters only for the values and states in which it can end. -/
theorem EnsuresFrom.run_bind_congr {action : StateT σ Dialogue α}
    (h : EnsuresFrom asks post s action) {f g : α → StateT σ Dialogue β}
    (hsame : ∀ value s', post value s' → (f value).run s' = (g value).run s') :
    (action >>= f).run s = (action >>= g).run s := by
  unfold EnsuresFrom at h
  rw [StateT.run_bind, StateT.run_bind]
  exact h.bind_congr fun r hr => hsame r.1 r.2 hr

/-- What two statements say holds together at some end. -/
theorem EnsuresFrom.exists_both {post' : α → σ → Prop} {action : StateT σ Dialogue α}
    (h : EnsuresFrom asks post s action) (h' : EnsuresFrom asks' post' s action) :
    ∃ value s', post value s' ∧ post' value s' := by
  have hboth := h.and h'
  unfold EnsuresFrom at hboth
  obtain ⟨⟨value, s'⟩, hv⟩ := hboth.exists
  exact ⟨value, s', hv⟩

/-- What an action ensures holds where it may end. -/
theorem EnsuresFrom.of_mayReturn {action : StateT σ Dialogue α} {value : α} {s' : σ}
    (h : EnsuresFrom asks post s action) (hreturn : (action.run s).MayReturn (value, s')) :
    post value s' := by
  unfold EnsuresFrom at h
  exact h.of_mayReturn hreturn

/-- Whoever answers, an action ends where it may end. -/
theorem ensuresFrom_mayReturn (action : StateT σ Dialogue α) (s : σ) :
    EnsuresFrom (fun _ => True) (fun value s' => (action.run s).MayReturn (value, s')) s
      action := by
  unfold EnsuresFrom
  exact ensures_of_forall_mayReturn fun _ h => h

theorem mayReturn_action_bind {action : StateT σ Dialogue α} {f : α → StateT σ Dialogue β}
    {r : β × σ} : ((action >>= f).run s).MayReturn r ↔
      ∃ value s', (action.run s).MayReturn (value, s') ∧ ((f value).run s').MayReturn r := by
  rw [StateT.run_bind, mayReturn_bind]
  exact Prod.exists

theorem mayReturn_lift {d : Dialogue α} {r : α × σ} :
    ((liftM d : StateT σ Dialogue α).run s).MayReturn r ↔ d.MayReturn r.1 ∧ r.2 = s := by
  obtain ⟨value, s'⟩ := r
  show ((d >>= fun a => done (a, s)).MayReturn _) ↔ _
  rw [mayReturn_bind]
  simp only [mayReturn_done, Prod.mk.injEq]
  constructor
  · rintro ⟨a, ha, rfl, rfl⟩
    exact ⟨ha, rfl⟩
  · rintro ⟨ha, rfl⟩
    exact ⟨value, ha, rfl, rfl⟩

end Rules

/-- Whoever answers, the action that starts in state `s` asks a question of the given kind. -/
@[irreducible] def ReachesFrom (p : Question → Prop) (s : σ) (action : StateT σ Dialogue α) :
    Prop :=
  (action.run s).Reaches p

section Reaching

variable {s : σ} {action : StateT σ Dialogue α} {f : α → StateT σ Dialogue β}

theorem ReachesFrom.bind (h : ReachesFrom p s action) : ReachesFrom p s (action >>= f) := by
  unfold ReachesFrom at h ⊢
  rw [StateT.run_bind]
  exact h.bind _

theorem ReachesFrom.get_bind {f : σ → StateT σ Dialogue β} (h : ReachesFrom p s (f s)) :
    ReachesFrom p s (get >>= f) := by
  unfold ReachesFrom at h ⊢
  rw [StateT.run_bind]
  exact h

theorem EnsuresFrom.reachesFrom_bind
    (h : EnsuresFrom asks (fun value s' => ReachesFrom p s' (f value)) s action) :
    ReachesFrom p s (action >>= f) := by
  unfold EnsuresFrom ReachesFrom at h
  unfold ReachesFrom
  rw [StateT.run_bind]
  exact h.reaches_bind

theorem ReachesFrom.of_ensures {p' : Question → Prop} {post : α → σ → Prop}
    (h : ReachesFrom p s action) (hensures : EnsuresFrom asks post s action)
    (himp : ∀ q, asks q → p q → p' q) : ReachesFrom p' s action := by
  unfold ReachesFrom at h ⊢
  unfold EnsuresFrom at hensures
  exact h.of_ensures hensures himp

theorem ReachesFrom.not_avoids (h : ReachesFrom p s action) : ¬ (action.run s).Avoids p := by
  unfold ReachesFrom at h
  exact h.not_avoids

theorem EnsuresFrom.avoids {post : α → σ → Prop}
    (h : EnsuresFrom (fun q => ¬ p q) post s action) : (action.run s).Avoids p := by
  unfold EnsuresFrom at h
  exact h.mono (fun _ hq => hq) fun _ _ => trivial

theorem ReachesFrom.lift {d : Dialogue α} (h : d.Reaches p) :
    ReachesFrom p s (liftM d : StateT σ Dialogue α) := by
  unfold ReachesFrom
  exact h.bind _

end Reaching

end PlainTerminal.Dialogue
