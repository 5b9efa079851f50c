import PlainTerminal.Assistant
import PlainTerminal.Proofs.Dialogue.Course

/-!
# Asked once, and perhaps once more

Every task of the assistant is one request with a use for its answer and a fallback. The texts that
a task can use differ from one task to the next: some take any text, the suggestions need a line
that is one, an interpretation has to be read. What happens around the use is the same for all of
them, and is said once in `run_withFallback`: the request is made again, unchanged, exactly after
an answer that is worth it, and the first answer that can be used decides.
-/

namespace PlainTerminal

namespace Dialogue

/-- Somebody who answers the questions one after the other and keeps them: `answer n q` is the
answer if the question number `n`, counted from zero, is `q`. -/
def noting (answer : Nat → (q : Question) → q.Answer) (q : Question) (asked : List Question) :
    q.Answer × List Question :=
  (answer asked.length q, asked ++ [q])

end Dialogue

namespace Assistant

/-- What the model may answer to a request. -/
abbrev Reply := Except ModelError String

/-- What can be made of an answer, if anything can. -/
def usable? {α : Type} (ofText? : String → Option α) : Reply → Option α
  | .ok text => ofText? text
  | .error _ => none

/-- After this answer the request is worth another attempt: the model was out of reach or busy, or
what it said is of no use. -/
inductive WorthRepeating {α : Type} (ofText? : String → Option α) : Reply → Prop where
  | unreachable (reason : String) : WorthRepeating ofText? (.error (.transport reason))
  | busy : WorthRepeating ofText? (.error (.status 429))
  | unwell {code : Nat} : 500 ≤ code → WorthRepeating ofText? (.error (.status code))
  | malformed (fault : ReplyFault) : WorthRepeating ofText? (.error (.malformed fault))
  | useless {text : String} : ofText? text = none → WorthRepeating ofText? (.ok text)

/-- Both say the same of a text, and a text that cannot be used is malformed. -/
def Uses {α : Type} (use : String → Except ModelError α) (ofText? : String → Option α) : Prop :=
  ∀ text, (∃ value, use text = .ok value ∧ ofText? text = some value) ∨
    ∃ fault, use text = .error (.malformed fault) ∧ ofText? text = none

section Attempts

variable {α : Type} {ofText? : String → Option α} {use : String → Except ModelError α}

theorem worthRepeating_error_iff {e : ModelError} :
    WorthRepeating ofText? (.error e) ↔ e.isRetryable = true := by
  constructor
  · intro h
    cases h with
    | unreachable reason => rfl
    | busy => rfl
    | unwell hcode =>
        show (_ == 429 || decide (500 ≤ _)) = true
        rw [decide_eq_true hcode, Bool.or_true]
    | malformed fault => rfl
  · intro h
    cases e with
    | missingCredential => cases h
    | transport reason => exact .unreachable reason
    | status code =>
        rcases (Bool.or_eq_true _ _).mp h with hbusy | hunwell
        · obtain rfl := eq_of_beq hbusy
          exact .busy
        · exact .unwell (of_decide_eq_true hunwell)
    | malformed fault => exact .malformed fault

/-- An attempt is its request and the use of the answer. -/
theorem attempt_eq (request : CompletionRequest) : attempt request use =
    Dialogue.ask (.complete request) fun reply => Dialogue.done (Except.bind reply use) := by
  refine congrArg (Dialogue.ask (.complete request)) (funext fun reply => ?_)
  cases reply with
  | ok text => rfl
  | error e => rfl

/-- One attempt, whoever answers. -/
theorem run_attempt {σ : Type} (request : CompletionRequest)
    (answer : (q : Question) → σ → q.Answer × σ) (state : σ) :
    (attempt request use).run answer state =
      (Except.bind (answer (.complete request) state).1 use,
        (answer (.complete request) state).2) := by
  rw [attempt_eq]
  rfl

/-- What comes of an answer: a value, and then nothing is repeated, or an error. -/
theorem bind_use_cases (huse : Uses use ofText?) (reply : Reply) :
    (∃ value, Except.bind reply use = .ok value ∧ usable? ofText? reply = some value ∧
      ¬ WorthRepeating ofText? reply) ∨
    ∃ e, Except.bind reply use = .error e ∧ usable? ofText? reply = none ∧
      (WorthRepeating ofText? reply ↔ e.isRetryable = true) := by
  cases reply with
  | error e => exact .inr ⟨e, rfl, rfl, worthRepeating_error_iff⟩
  | ok text =>
      rcases huse text with ⟨value, hvalue, hsome⟩ | ⟨fault, hfault, hnone⟩
      · refine .inl ⟨value, hvalue, hsome, ?_⟩
        rintro ⟨⟩
        rename_i hnone
        rw [hsome] at hnone
        cases hnone
      · exact .inr ⟨_, hfault, hnone, iff_of_true (.useless hnone) rfl⟩

/-- **One request, and the same once more exactly if that is worth it.** -/
theorem run_withFallback (huse : Uses use ofText?) (request : CompletionRequest) (fallback : α)
    (answer : Nat → (q : Question) → q.Answer) :
    ∃ n, (n = 1 ∨ n = 2) ∧
      (n = 2 ↔ WorthRepeating ofText? (answer 0 (.complete request))) ∧
      (withFallback (attempt request use) fallback).run (Dialogue.noting answer) [] =
        (((List.range n).findSome? fun k =>
            usable? ofText? (answer k (.complete request))).getD fallback,
          List.replicate n (.complete request)) := by
  unfold withFallback
  rw [Dialogue.run_bind, run_attempt]
  dsimp only [Dialogue.noting, List.length_nil, List.nil_append]
  rcases bind_use_cases huse (answer 0 (.complete request)) with
    ⟨value, hfirst, husable, hnot⟩ | ⟨e, hfirst, husable, hworth⟩
  · refine ⟨1, .inl rfl, iff_of_false (by decide) hnot, ?_⟩
    rw [hfirst, List.range_one, List.findSome?_singleton, husable]
    rfl
  · rw [hfirst, hworth]
    cases hagain : e.isRetryable with
    | false =>
        refine ⟨1, .inl rfl, iff_of_false (by decide) Bool.false_ne_true, ?_⟩
        rw [List.range_one, List.findSome?_singleton, husable]
        simp only [hagain]
        rfl
    | true =>
        refine ⟨2, .inr rfl, iff_of_true rfl rfl, ?_⟩
        have htwo : List.range 2 = [0, 1] := rfl
        rw [htwo, List.findSome?_cons, husable, List.findSome?_singleton]
        simp only [hagain]
        rw [if_neg (by decide), Dialogue.run_bind, run_attempt]
        dsimp only [Dialogue.noting, List.length_singleton]
        rcases bind_use_cases huse (answer 1 (.complete request)) with
          ⟨value, hsecond, husable', -⟩ | ⟨e', hsecond, husable', -⟩
        · rw [hsecond, husable']
          rfl
        · rw [hsecond, husable']
          rfl

end Attempts

/-! ## The tasks -/

/-- What the assistant can be asked to do. -/
inductive Task where
  | interpret (input : String) (context : Option InterpretContext)
  | explain (command : String)
  | suggest (situation : String)
  | test
  | challengeIntro
  | challengeReadme
  | challengeHint (progress : Challenge.Progress)

namespace Task

/-- What comes of a task. -/
def Outcome : Task → Type
  | interpret _ _ => Interpretation
  | suggest _ => List String
  | test => Bool × String
  | explain _ | challengeIntro | challengeReadme | challengeHint _ => String

/-- The task as it is carried out. -/
def dialogue : (t : Task) → Dialogue t.Outcome
  | interpret input context => Assistant.interpret input context
  | explain command => Assistant.explain command
  | suggest situation => Assistant.suggest situation
  | test => Assistant.test
  | challengeIntro => Assistant.challengeIntro
  | challengeReadme => Assistant.challengeReadme
  | challengeHint progress => Assistant.challengeHint progress

/-- What the task makes of a text that the model answers: nothing of one that it cannot use. -/
def ofText? : (t : Task) → String → Option t.Outcome
  | interpret _ context, text => (Interpretation.parse text).toOption.map (repaired context)
  | suggest _, text =>
      match Suggestions.ofText (Text.trim text) with
      | [] => none
      | suggestions => some suggestions
  | test, text => some (true, Text.trim text)
  | explain _, text | challengeIntro, text | challengeReadme, text | challengeHint _, text =>
      some (Text.trim text)

/-- What comes of the task without the model. -/
def fallback : (t : Task) → t.Outcome
  | interpret input _ => Interpretation.direct input
  | explain _ => explainFallback
  | suggest _ => Suggestions.defaults
  | test => (false, offlineMessage)
  | challengeIntro => Challenge.fallbackIntro
  | challengeReadme => Challenge.instructions
  | challengeHint progress => progress.fallbackHint

end Task

theorem uses_any {α : Type} (f : String → α) :
    Uses (fun text => .ok (f text)) fun text => some (f text) :=
  fun text => .inl ⟨f text, rfl, rfl⟩

/-- An answer that cannot be read is malformed. -/
theorem uses_parse (context : Option InterpretContext) :
    Uses (fun text => (Interpretation.parse text).map (repaired context)) fun text =>
      (Interpretation.parse text).toOption.map (repaired context) := by
  intro text
  dsimp only [Interpretation.parse]
  split
  · exact .inr ⟨_, rfl, rfl⟩
  · split
    · exact .inr ⟨_, rfl, rfl⟩
    · exact .inl ⟨_, rfl, rfl⟩

/-- **Every task asks once, or twice the same.** The request does not depend on what is answered; it
is repeated exactly after a first answer that is worth it, never a third time, and nothing else is
asked. The first answer that the task can use decides what comes of it, and if there is none it is
the fallback. -/
theorem asks_once_or_twice (t : Task) : ∃ request : CompletionRequest,
    ∀ answer : Nat → (q : Question) → q.Answer, ∃ n, (n = 1 ∨ n = 2) ∧
      (n = 2 ↔ WorthRepeating t.ofText? (answer 0 (.complete request))) ∧
      t.dialogue.run (Dialogue.noting answer) [] =
        (((List.range n).findSome? fun k =>
            usable? t.ofText? (answer k (.complete request))).getD t.fallback,
          List.replicate n (.complete request)) := by
  cases t with
  | interpret input context => exact ⟨_, run_withFallback (uses_parse context) _ _⟩
  | suggest situation =>
      refine ⟨_, run_withFallback ?_ _ _⟩
      intro text
      dsimp only [Task.ofText?]
      generalize Suggestions.ofText (Text.trim text) = suggestions
      cases suggestions with
      | nil => exact .inr ⟨.noSuggestions, rfl, rfl⟩
      | cons suggestion rest => exact .inl ⟨suggestion :: rest, rfl, rfl⟩
  | test => exact ⟨_, run_withFallback (uses_any _) _ _⟩
  | explain command => exact ⟨_, run_withFallback (uses_any _) _ _⟩
  | challengeIntro => exact ⟨_, run_withFallback (uses_any _) _ _⟩
  | challengeReadme => exact ⟨_, run_withFallback (uses_any _) _ _⟩
  | challengeHint progress => exact ⟨_, run_withFallback (uses_any _) _ _⟩

end Assistant

end PlainTerminal
