import RecordSchema.Text.Inspect

/-!
# Schema types

A schema type is a scalar, an object given by its handle, or one of these under list and non-null
layers.  Equality is structural, and by handle for objects.  `SchemaType.required` adds a non-null
layer unless the type has one at its top, so layers made by it never stack.
-/

namespace RecordSchema

/-- A leaf of the schema.  A custom scalar differs from every built-in one, whatever its name. -/
inductive Scalar where
  | int
  | float
  | string
  | boolean
  | id
  | dateTime
  | custom (name : String)
  deriving DecidableEq, Repr

/-- The name a scalar is exposed under. -/
def Scalar.name : Scalar → String
  | .int => "Int"
  | .float => "Float"
  | .string => "String"
  | .boolean => "Boolean"
  | .id => "ID"
  | .dateTime => "DateTime"
  | .custom name => name

/-- A scalar as inspection text. -/
def Scalar.inspect : Scalar → String
  | .id => "Id"
  | .custom name => Inspect.applied "Custom" [quoted name]
  | scalar => scalar.name

/-- The handle of an object.  The objects of an arena are numbered from one in the order in which
they were inserted; any other number names no object of it. -/
structure ObjectId where
  number : Nat
  deriving DecidableEq, Repr

/-- The handle that is reserved to name no object at all: the last number of 32 bits. -/
def ObjectId.null : ObjectId := ⟨0xFFFFFFFF⟩

/-- A handle as inspection text.  No slot is used twice, so the version is always the first. -/
def ObjectId.inspect (id : ObjectId) : String :=
  Inspect.applied "ObjectId" [if id = .null then "null" else toString id.number ++ "v1"]

/-- A reference to a schema type. -/
inductive SchemaType where
  | scalar (leaf : Scalar)
  | list (item : SchemaType)
  | nonNull (inner : SchemaType)
  | object (id : ObjectId)
  deriving DecidableEq, Repr

namespace SchemaType

def isNonNull : SchemaType → Bool
  | .nonNull _ => true
  | _ => false

def isList : SchemaType → Bool
  | .list _ => true
  | _ => false

/-- The type under a non-null layer; a type that is non-null already is kept as it is. -/
def required (type : SchemaType) : SchemaType :=
  if type.isNonNull then type else .nonNull type

/-- The type below the topmost layer. -/
def ofType? : SchemaType → Option SchemaType
  | .list inner | .nonNull inner => some inner
  | .scalar _ | .object _ => none

/-- The scalar or object below all layers. -/
def named : SchemaType → SchemaType
  | .list inner | .nonNull inner => inner.named
  | type => type

/-- The handle of an object without layers. -/
def object? : SchemaType → Option ObjectId
  | .object id => some id
  | _ => none

/-- The scalar of a scalar type without layers. -/
def scalar? : SchemaType → Option Scalar
  | .scalar leaf => some leaf
  | _ => none

/-- The handle of the object below all layers, if there is one. -/
def namedObject? (type : SchemaType) : Option ObjectId := type.named.object?

/-- A schema type as inspection text. -/
def inspect : SchemaType → String
  | .scalar leaf => Inspect.applied "Scalar" [leaf.inspect]
  | .list inner => Inspect.applied "List" [inner.inspect]
  | .nonNull inner => Inspect.applied "NonNull" [inner.inspect]
  | .object id => Inspect.applied "Object" [id.inspect]

/-! ## Layers -/

@[simp] theorem isNonNull_required (type : SchemaType) : type.required.isNonNull := by
  unfold required
  split <;> simp_all [isNonNull]

@[simp] theorem required_required (type : SchemaType) : type.required.required = type.required := by
  simp [required.eq_def (required type)]

@[simp] theorem named_required (type : SchemaType) : type.required.named = type.named := by
  unfold required
  split <;> simp [named]

end SchemaType

end RecordSchema
