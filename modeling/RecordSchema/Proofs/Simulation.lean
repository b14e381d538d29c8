import RecordSchema.Proofs.Course.Inner
import RecordSchema.Proofs.Moves

/-!
# Two encoders side by side

The same work over two universes, on two encoders that a relation joins.  `Build.Simulates` says of
two build steps that from joined encoders both end, on joined encoders again, and either both
succeed with values that correspond, or both fail with one error.  There is a lemma for each way to
combine steps, so a request is compared with another by following its text; what a resolution or an
object build does is left to the relation.  `Session.simulates` goes on from requests to sessions.
-/

namespace RecordSchema

variable {n : Nat}

open Encoder

/-- Two steps both succeed, with corresponding values, or both fail, with the same error. -/
inductive Agree {α β : Type} (same : α → β → Prop) :
    Except EncodeError α → Except EncodeError β → Prop
  | ok {a b} (related : same a b) : Agree same (.ok a) (.ok b)
  | error (error : EncodeError) : Agree same (.error error) (.error error)

namespace Agree

variable {α : Type} {result : Except EncodeError α}

theorem of_eq {results : Except EncodeError α} (h : result = results) :
    Agree Eq result results := by
  subst h
  cases result with
  | ok a => exact .ok rfl
  | error error => exact .error error

theorem eq {results : Except EncodeError α} (h : Agree Eq result results) : result = results := by
  cases h with
  | ok related => rw [related]
  | error error => rfl

end Agree

/-- Items that correspond, with what is known of all items on either side. -/
theorem forall₂_within {α β : Type} {R : α → β → Prop} {P : α → Prop} {Q : β → Prop}
    {items : List α} {items' : List β} (listed : List.Forall₂ R items items')
    (within : ∀ a ∈ items, P a) (within' : ∀ b ∈ items', Q b) :
    List.Forall₂ (fun a b => P a ∧ Q b ∧ R a b) items items' := by
  have right : List.Forall₂ (fun b a => Q b ∧ R a b) items' items :=
    (List.forall₂_and_left _ _).2 ⟨within', listed.flip⟩
  exact (List.forall₂_and_left _ _).2 ⟨within, right.flip⟩

namespace Build

variable {α α' β β' : Type} {R : Encoder n → Encoder n → Prop}

theorem map_object_injective :
    Function.Injective (Except.map SchemaType.object : Except EncodeError ObjectId → _) := by
  intro result result' same
  cases result <;> cases result' <;> cases same <;> rfl

/-- From joined encoders two steps end on joined encoders, and their results agree. -/
def Simulates (R : Encoder n → Encoder n → Prop) (same : α → α' → Prop) (step : Build n α)
    (step' : Build n α') : Prop :=
  ∀ e f, R e f → ∃ result e' result' f', step.outcome e = some (result, e') ∧
    step'.outcome f = some (result', f') ∧ R e' f' ∧ Agree same result result'

namespace Simulates

variable {same : α → α' → Prop} {same' : β → β' → Prop}

theorem pure {a : α} {a' : α'} (related : same a a') :
    Simulates R same (Pure.pure a : Build n α) (Pure.pure a') :=
  fun e f joined => ⟨_, e, _, f, rfl, rfl, joined, .ok related⟩

theorem throw (error : EncodeError) :
    Simulates R same (MonadExcept.throw error : Build n α) (MonadExcept.throw error) :=
  fun e f joined => ⟨_, e, _, f, rfl, rfl, joined, .error error⟩

/-- Both encoders may be changed at once. -/
theorem modify {g h : Encoder n → Encoder n} (joined : ∀ e f, R e f → R (g e) (h f)) :
    Simulates R (fun _ _ => True) (modify g : Build n PUnit) (modify h : Build n PUnit) :=
  fun e f before => ⟨_, g e, _, h f, rfl, rfl, joined e f before, .ok trivial⟩

theorem mono {same₁ : α → α' → Prop} {step : Build n α} {step' : Build n α'}
    (h : Simulates R same step step') (imp : ∀ a a', same a a' → same₁ a a') :
    Simulates R same₁ step step' := by
  intro e f joined
  obtain ⟨result, e', result', f', run, run', after, agree⟩ := h e f joined
  refine ⟨result, e', result', f', run, run', after, ?_⟩
  cases agree with
  | ok related => exact .ok (imp _ _ related)
  | error error => exact .error error

theorem bind {step : Build n α} {step' : Build n α'} {next : α → Build n β}
    {next' : α' → Build n β'} (first : Simulates R same step step')
    (second : ∀ a a', same a a' → Simulates R same' (next a) (next' a')) :
    Simulates R same' (step >>= next) (step' >>= next') := by
  intro e f joined
  obtain ⟨result, e₁, result', f₁, run, run', between, agree⟩ := first e f joined
  cases agree with
  | @ok a a' related =>
    obtain ⟨last, e', last', f', ran, ran', after, agree⟩ := second a a' related e₁ f₁ between
    refine ⟨last, e', last', f', ?_, ?_, after, agree⟩
    · rw [outcome_bind_ok run, ran]
    · rw [outcome_bind_ok run', ran']
  | error error =>
    exact ⟨_, e₁, _, f₁, outcome_bind_error run _, outcome_bind_error run' _, between, .error error⟩

theorem map {step : Build n α} {step' : Build n α'} (h : Simulates R same step step') {f : α → β}
    {g : α' → β'} (imp : ∀ a a', same a a' → same' (f a) (g a')) :
    Simulates R same' (f <$> step) (g <$> step') :=
  h.bind fun a a' related => .pure (imp a a' related)

/-- The values of a fold may correspond in a way that depends on the items already used. -/
theorem foldlM {γ γ' : Type} {items : List γ} {items' : List γ'} {paired : γ → γ' → Prop}
    {same : List γ → β → β' → Prop} {step : β → γ → Build n β} {step' : β' → γ' → Build n β'}
    (each : ∀ before a a' b b', paired a a' → same before b b' →
      Simulates R (same (before ++ [a])) (step b a) (step' b' a'))
    (listed : List.Forall₂ paired items items') (before : List γ) {b : β} {b' : β'}
    (start : same before b b') :
    Simulates R (same (before ++ items)) (items.foldlM step b) (items'.foldlM step' b') := by
  induction listed generalizing before b b' with
  | nil => exact .pure (by simpa using start)
  | @cons a a' rest rest' pair others ih =>
    rw [List.foldlM_cons, List.foldlM_cons]
    refine (each before a a' b b' pair start).bind fun c c' related => ?_
    have next := ih (before ++ [a]) related
    rwa [List.append_assoc, List.singleton_append] at next

/-- Two steps that take the courses of calls agree if the calls do. -/
theorem of_courses {U V : Universe n} {call call' : Call n}
    {view : Except EncodeError α → Except EncodeError SchemaType} {step step' : Build n α}
    (distinct : Function.Injective view) (ends : ∀ e, step.Ends e) (ends' : ∀ f, step'.Ends f)
    (course : ∀ {e result e'}, step.outcome e = some (result, e') →
      Course U call e (view result) e')
    (course' : ∀ {f result f'}, step'.outcome f = some (result, f') →
      Course V call' f (view result) f')
    (each : ∀ e f result e', R e f → Course U call e result e' →
      ∃ f', Course V call' f result f' ∧ R e' f') :
    Simulates R Eq step step' := by
  intro e f joined
  obtain ⟨result, e', run⟩ := ends e
  obtain ⟨result', f', run'⟩ := ends' f
  obtain ⟨f₁, ran, after⟩ := each e f _ e' joined (course run)
  obtain ⟨same, rfl⟩ := ran.deterministic (course' run')
  exact ⟨result, e', result', f₁, run, run', after, .of_eq (distinct same)⟩

end Simulates

end Build

/-! ## Sessions -/

/-- The requests of two sessions and their answers correspond one by one. -/
inductive Session.Corresponds
    (same : Request n → Request n → Except EncodeError Answer → Except EncodeError Answer → Prop) :
    List (Request n) → List (Request n) → List (Except EncodeError Answer) →
      List (Except EncodeError Answer) → Prop
  | nil : Corresponds same [] [] [] []
  | cons {request request' answer answer' requests requests' answers answers'}
      (first : same request request' answer answer')
      (rest : Corresponds same requests requests' answers answers') :
      Corresponds same (request :: requests) (request' :: requests') (answer :: answers)
        (answer' :: answers')

/-- Sessions of requests that are answered alike end on joined encoders, if they begin on such. -/
theorem Session.simulates {U V : Universe n} {R : Encoder n → Encoder n → Prop}
    {same : Request n → Request n → Except EncodeError Answer → Except EncodeError Answer → Prop}
    {paired : Request n → Request n → Prop}
    (each : ∀ request request' e f, paired request request' → R e f →
      ∃ answer e' answer' f', (request.run U).outcome e = some (answer, e') ∧
        (request'.run V).outcome f = some (answer', f') ∧ R e' f' ∧
          same request request' answer answer')
    {requests requests' : List (Request n)} (listed : List.Forall₂ paired requests requests')
    {e f : Encoder n} (joined : R e f) :
    ∃ answers e' answers' f', Session.run U requests e = some (answers, e') ∧
      Session.run V requests' f = some (answers', f') ∧ R e' f' ∧
        Session.Corresponds same requests requests' answers answers' := by
  induction listed generalizing e f with
  | nil => exact ⟨[], e, [], f, rfl, rfl, joined, .nil⟩
  | @cons request request' rest rest' pair others ih =>
    obtain ⟨answer, e₁, answer', f₁, run, run', between, first⟩ :=
      each request request' e f pair joined
    obtain ⟨answers, e', answers', f', ran, ran', after, corresponds⟩ := ih between
    exact ⟨_, e', _, f', Session.run_cons run ran, Session.run_cons run' ran', after,
      .cons first corresponds⟩

end RecordSchema
