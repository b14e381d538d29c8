import RecordSchema.Encoder.EncodeError
import RecordSchema.Reflection.TypeInfo
import RecordSchema.Schema.Object

/-!
# Options

An option changes one attribute of a field, an argument or an object.  Which attributes a target
has is decided by its kind; any other option is refused with `EncodeError.notSupported`.  The one
option that needs an encoder is `SchemaOption.arguments`, whose argument map has to be built.
-/

namespace RecordSchema

/-- A change to one attribute of a target. -/
inductive SchemaOption (n : Nat) where
  | description (text : String)
  | defaultValue (value : Value)
  | deprecationReason (reason : String)
  | resolver (replacement : Resolver)
  | type (replacement : SchemaType)
  /-- The arguments are the tagged fields of this type. -/
  | arguments (source : TypeExpr n)
  deriving DecidableEq, Repr

/-- The kinds of things that options apply to. -/
inductive TargetKind where
  | field
  | argument
  | object
  deriving DecidableEq, Repr

def TargetKind.name : TargetKind → String
  | .field => "Field"
  | .argument => "Argument"
  | .object => "Object"

/-- The refusal of an option that a kind of target does not know. -/
def TargetKind.refusal (kind : TargetKind) : EncodeError := .notSupported kind.name

namespace SchemaOption

variable {n : Nat}

/-- An object knows descriptions only. -/
def applyToObject (option : SchemaOption n) (object : ObjectType) :
    Except EncodeError ObjectType :=
  match option with
  | .description text => .ok { object with description := some text }
  | _ => .error TargetKind.object.refusal

/-- An argument knows its description, its default value and its type. -/
def applyToArgument (option : SchemaOption n) (argument : Argument) :
    Except EncodeError Argument :=
  match option with
  | .description text => .ok { argument with description := some text }
  | .defaultValue value => .ok { argument with defaultValue := some value }
  | .type replacement => .ok { argument with type := replacement }
  | _ => .error TargetKind.argument.refusal

/-- Apply options to an object from left to right, up to the first that is refused. -/
def applyAllToObject (options : List (SchemaOption n)) (object : ObjectType) :
    Except EncodeError ObjectType :=
  options.foldlM (fun object option => option.applyToObject object) object

/-- An option as inspection text. -/
def inspect (U : Universe n) : SchemaOption n → String
  | .description text => Inspect.applied "Description" [quoted text]
  | .defaultValue value => Inspect.applied "DefaultValue" [value.inspect]
  | .deprecationReason reason => Inspect.applied "DeprecationReason" [quoted reason]
  | .resolver _ => Inspect.applied "Resolve" ["<fn>"]
  | .type replacement => Inspect.applied "Type" [replacement.inspect]
  | .arguments source => Inspect.applied "Args" [U.inspect source]

end SchemaOption

end RecordSchema
