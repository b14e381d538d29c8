import RecordSchema.Proofs.Moves

/-!
# What providers give

A hook may provide any schema type, and the encoder passes it on unchecked.  So whatever is promised
of schema types has to be asked of the providers first: of those that the declarations bring along,
and of those that are attached later.  `Encoder.ProvidesOnly` says that every type that an encoder
could be given has a property; builds do not change this, for they change the hooks of no type.
-/

namespace RecordSchema

variable {n : Nat}

/-- The declarations bring along only providers of types with a property. -/
def Universe.ProvidesOnly (U : Universe n) (good : SchemaType → Prop) : Prop :=
  ∀ index, ∀ given ∈ (U.declaration index).hooks.typeProvider, good given

/-- A hook that provides a type with a property, or none at all. -/
def Hook.ProvidesOnly (good : SchemaType → Prop) (hook : Hook) : Prop :=
  ∀ given, hook = .typeProvider given → good given

namespace Encoder

/-- Every hook that the encoder finds provides a type with a property, or none at all. -/
def ProvidesOnly (U : Universe n) (good : SchemaType → Prop) (e : Encoder n) : Prop :=
  ∀ type given, (e.hooksOf U type).typeProvider = some given → good given

variable {U : Universe n} {good : SchemaType → Prop} {e e' : Encoder n}

theorem providesOnly_new (brought : U.ProvidesOnly good) (policy : KeyPolicy) :
    ProvidesOnly U good (.new U policy) := by
  intro type given hook
  rw [hooksOf_new] at hook
  cases type with
  | declared index => exact brought index given hook
  | native | list | array | pointer | map => cases hook

namespace ProvidesOnly

variable (provides : ProvidesOnly U good e)

include provides

theorem congr (same : ∀ type, e'.hooksOf U type = e.hooksOf U type) : ProvidesOnly U good e' := by
  intro type given hook
  rw [same] at hook
  exact provides type given hook

theorem met (path : String) (type : TypeExpr n) :
    ProvidesOnly U good ((e.note (.resolving path)).meet U type) :=
  provides.congr (hooksOf_of_met U rfl)

theorem expose (id : ObjectId) (structPath fieldName : String) (tag : FieldTag)
    (type : TypeExpr n) (resolved : SchemaType) :
    ProvidesOnly U good (e.expose U id structPath fieldName tag type resolved) :=
  provides.congr (hooksOf_of_met U (e.expose_registry U id structPath fieldName tag type resolved))

theorem know {registry : Registry n} (grown : e.registry.Extends U registry) :
    ProvidesOnly U good (e.know registry) :=
  provides.congr (hooksOf_know grown)

theorem attach {hook : Hook} (allowed : hook.ProvidesOnly good) (holder : TypeExpr n) :
    ProvidesOnly U good (e.know (e.registry.attach holder hook)) := by
  intro type given found
  rw [hooksOf_attach] at found
  split at found
  · rw [Hooks.typeProvider_attach] at found
    cases hook with
    | typeProvider provided =>
      cases found
      exact allowed given rfl
    | resolverProvider | custom => exact provides type given found
  · exact provides type given found

theorem store (type : TypeExpr n) (resolved : SchemaType) :
    ProvidesOnly U good (e.store U type resolved) :=
  provides.congr (hooksOf_of_registry U (e.store_registry U type resolved))

theorem course {call : Call n} {result : Except EncodeError SchemaType}
    (course : Course U call e result e') : ProvidesOnly U good e' :=
  provides.congr course.hooksOf

end ProvidesOnly

end Encoder

/-- Sessions that may ask for any type, but attach only providers of types with a property. -/
def Scope.providing (n : Nat) (good : SchemaType → Prop) : Scope n where
  hook := Hook.ProvidesOnly good
  type _ := True

open Encoder

theorem Move.providesOnly {U : Universe n} {good : SchemaType → Prop} {e e' : Encoder n}
    (move : Move U (.providing n good) e e') (provides : ProvidesOnly U good e) :
    ProvidesOnly U good e' := by
  cases move with
  | note other => exact provides
  | register grown => exact provides.know grown
  | attach allowed => exact provides.attach allowed _
  | call asked inside course => exact provides.course course
  | enter asked plain inside miss course => exact (provides.course course).store _ _

end RecordSchema
