import RecordSchema.Value

/-!
# Resolvers

A resolver answers for a field: from the value it is resolved on, the arguments supplied and the
name it was asked under, it produces a value or fails with a message.  Resolvers are kept as data,
so two fields can be compared, and `Resolver.run` gives each its meaning.
-/

namespace RecordSchema

/-- What a resolver is given. -/
structure ResolveParams where
  /-- The parent value that the field is resolved on. -/
  source : Value
  /-- The arguments supplied for the field, by name. -/
  arguments : List (String × Value)
  /-- The exposed name of the field being resolved. -/
  fieldName : String
  deriving DecidableEq, Repr

/-- The failure of a resolver. -/
structure ResolveError where
  message : String
  deriving DecidableEq, Repr

/-- A field resolver. -/
inductive Resolver where
  /-- The source itself. -/
  | source
  /-- The name of the field as a text. -/
  | fieldName
  /-- The number of arguments supplied. -/
  | argumentCount
  /-- The argument of this name, null if it is not supplied. -/
  | argument (name : String)
  /-- Always this value. -/
  | constant (value : Value)
  /-- Always a failure with this message. -/
  | failure (message : String)
  deriving DecidableEq, Repr

/-- Resolve a field. -/
def Resolver.run (resolver : Resolver) (params : ResolveParams) : Except ResolveError Value :=
  match resolver with
  | .source => .ok params.source
  | .fieldName => .ok (.text params.fieldName)
  | .argumentCount => .ok (.number params.arguments.length)
  | .argument name => .ok ((params.arguments.lookup name).getD .null)
  | .constant value => .ok value
  | .failure message => .error ⟨message⟩

end RecordSchema
