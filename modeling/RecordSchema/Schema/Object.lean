import RecordSchema.OrderedMap
import RecordSchema.Schema.Resolver
import RecordSchema.Schema.SchemaType

/-!
# Fields, arguments and objects

An object is a named list of fields, a field has a type and may have documentation, a resolver and
arguments.  Fields and arguments are exposed under names and keep the order in which they were
added.
-/

namespace RecordSchema

/-- An input argument. -/
structure Argument where
  type : SchemaType
  description : Option String := none
  defaultValue : Option Value := none
  deriving DecidableEq, Repr

/-- Arguments by exposed name. -/
abbrev ArgumentMap := OrderedMap Argument

/-- An output field. -/
structure Field where
  name : String
  type : SchemaType
  description : Option String := none
  deprecationReason : Option String := none
  resolver : Option Resolver := none
  arguments : ArgumentMap := .empty
  deriving DecidableEq, Repr

/-- Fields by exposed name. -/
abbrev FieldMap := OrderedMap Field

/-- A named output object. -/
structure ObjectType where
  name : String
  description : Option String := none
  fields : FieldMap := .empty
  deriving DecidableEq, Repr

/-- The field exposed under a name. -/
def ObjectType.field? (object : ObjectType) (name : String) : Option Field :=
  object.fields.get? name

/-- Expose a field under a name.  The field takes that name as its own, and the first component is
the field that it replaces. -/
def ObjectType.addField (object : ObjectType) (name : String) (field : Field) :
    Option Field × ObjectType :=
  let (replaced, fields) := object.fields.insert name { field with name }
  (replaced, { object with fields })

/-- An argument as inspection text. -/
def Argument.inspect (argument : Argument) : String :=
  Inspect.record "Argument"
    [("ty", argument.type.inspect),
     ("description", Inspect.option (argument.description.map quoted)),
     ("default_value", Inspect.option (argument.defaultValue.map Value.inspect))]

/-- A field as inspection text.  A resolver is only said to be there. -/
def Field.inspect (field : Field) : String :=
  Inspect.record "Field"
    [("name", quoted field.name),
     ("ty", field.type.inspect),
     ("description", Inspect.option (field.description.map quoted)),
     ("deprecation_reason", Inspect.option (field.deprecationReason.map quoted)),
     ("resolve", Inspect.option (field.resolver.map fun _ => quoted "<fn>")),
     ("args", field.arguments.inspect Argument.inspect)]

end RecordSchema
