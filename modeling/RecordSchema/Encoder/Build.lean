import RecordSchema.Encoder.Event
import RecordSchema.Encoder.TypeCache
import RecordSchema.Registry.Basic
import RecordSchema.Schema.Arena

/-!
# Encoders and build steps

An encoder holds what every build goes through: the cache of resolved types, the registry of hooks,
the arena of built objects, and the handles of the objects begun by the outermost build in
progress.  It also keeps a journal of its work.

A build step takes an encoder to a result and the encoder after it.  Three outcomes are apart.  A
step can succeed; it can fail with an `EncodeError`, and then the encoder is still the one that the
failed work left behind, for nothing is rolled back; or it has no outcome at all, which stands for
an exceeded bound on the depth of nested objects.  `Build.outcome` is the view of a step, and the
lemmas on it say what each way to combine steps does: after a failure nothing else is done.
-/

namespace RecordSchema

/-- What every build goes through. -/
structure Encoder (n : Nat) where
  cache : TypeCache
  registry : Registry n
  arena : Arena
  /-- The objects begun by the outermost build in progress, first begun first. -/
  building : List ObjectId := []
  /-- What the encoder did, newest event first. -/
  journal : List (Event n) := []
  deriving DecidableEq, Repr

/-- An encoder that has built nothing. -/
def Encoder.new {n : Nat} (U : Universe n) (policy : KeyPolicy) : Encoder n :=
  { cache := .empty policy, registry := .standard U, arena := .empty }

/-- The structs that objects were begun for, first begun first. -/
def Encoder.begun {n : Nat} (e : Encoder n) : List (TypeExpr n) :=
  (e.journal.filterMap Event.begun?).reverse

/-- A step that uses an encoder and may fail. -/
abbrev Build (n : Nat) := ExceptT EncodeError (StateT (Encoder n) Option)

namespace Build

variable {n : Nat} {α : Type}

/-- The outcome of a step on an encoder. -/
def outcome (step : Build n α) (e : Encoder n) : Option (Except EncodeError α × Encoder n) :=
  (step.run).run e

/-- The step that exceeds the bound on nested objects. -/
def exhausted : Build n α := ExceptT.mk fun _ => none

/-- Run a step and report its failure as a value. -/
def attempt (step : Build n α) : Build n (Except EncodeError α) :=
  ExceptT.mk (Except.ok <$> step.run)

/-- Note an event. -/
def note (event : Event n) : Build n Unit :=
  modify fun e => { e with journal := event :: e.journal }

/-- Register a type with its dependencies. -/
def register (U : Universe n) (type : TypeExpr n) : Build n Unit :=
  ExceptT.mk fun e => (e.registry.register U type).map fun r => (.ok (), { e with registry := r })

/-- The hooks of a type, which is registered alone if it was not. -/
def hooksOf (U : Universe n) (type : TypeExpr n) : Build n Hooks := do
  modify fun e => { e with registry := e.registry.getOrRegister U type }
  return ((← get).registry.hooks? type).getD .empty

/-- The schema type cached for a type.  If it names an object that could not be built, the step
fails with the recorded error. -/
def cached (U : Universe n) (type : TypeExpr n) : Build n (Option SchemaType) := do
  let cache := (← get).cache
  match cache.lookup U type with
  | none => return none
  | some found =>
    match cache.failure? found with
    | some error => throw error
    | none => return some found

/-- Store the schema type of a type in the cache. -/
def remember (U : Universe n) (type : TypeExpr n) (resolved : SchemaType) : Build n Unit :=
  modify fun e => { e with cache := e.cache.register U type resolved }

/-! ## Outcomes -/

variable {β : Type}

@[simp] theorem outcome_pure (a : α) (e : Encoder n) :
    (pure a : Build n α).outcome e = some (.ok a, e) := rfl

@[simp] theorem outcome_throw (error : EncodeError) (e : Encoder n) :
    (throw error : Build n α).outcome e = some (.error error, e) := rfl

@[simp] theorem outcome_exhausted (e : Encoder n) : (exhausted : Build n α).outcome e = none := rfl

@[simp] theorem outcome_get (e : Encoder n) :
    (get : Build n (Encoder n)).outcome e = some (.ok e, e) := rfl

@[simp] theorem outcome_modify (f : Encoder n → Encoder n) (e : Encoder n) :
    (modify f : Build n PUnit).outcome e = some (.ok ⟨⟩, f e) := rfl

/-- The second step goes on from where a successful first one stopped. -/
theorem outcome_bind (step : Build n α) (next : α → Build n β) (e : Encoder n) :
    (step >>= next).outcome e = (step.outcome e).bind fun
      | (.ok a, e) => (next a).outcome e
      | (.error error, e) => some (.error error, e) := by
  change ((step.run).run e).bind _ = ((step.run).run e).bind _
  congr 1
  funext r
  obtain ⟨_ | a, e⟩ := r <;> rfl

theorem outcome_bind_ok {step : Build n α} {e e' : Encoder n} {a : α}
    (h : step.outcome e = some (.ok a, e')) (next : α → Build n β) :
    (step >>= next).outcome e = (next a).outcome e' := by
  rw [outcome_bind, h]
  rfl

theorem outcome_bind_error {step : Build n α} {e e' : Encoder n} {error : EncodeError}
    (h : step.outcome e = some (.error error, e')) (next : α → Build n β) :
    (step >>= next).outcome e = some (.error error, e') := by
  rw [outcome_bind, h]
  rfl

/-- An attempt fails never, and leaves the same encoder as the step it attempts. -/
theorem outcome_attempt (step : Build n α) (e : Encoder n) :
    step.attempt.outcome e = (step.outcome e).map fun r => (.ok r.1, r.2) := by
  change ((step.run).run e).bind _ = ((step.run).run e).map _
  cases (step.run).run e <;> rfl

end Build

end RecordSchema
