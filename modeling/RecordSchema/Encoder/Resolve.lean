import RecordSchema.Encoder.Build
import RecordSchema.Encoder.FieldTag

/-!
# The schema type of a type

A type is resolved below its pointers, and once: the result is stored in the cache.  A hook that
provides a schema type decides first.  After it come the scalars, then structs, which are exposed
as objects, then lists and arrays, which are lists of what their items resolve to.  Any other type
is not recognized.

How an object comes to be is left to a parameter here, so that `resolve` is a plain recursion over
the type expression.  `Encoder/Objects` closes the circle.
-/

namespace RecordSchema

variable {n : Nat}

/-- The built-in scalar of a primitive: all integers are one, and all floats. -/
def Primitive.scalar (kind : Primitive) : Scalar :=
  if kind.isInteger then .int
  else if kind.isFloat then .float
  else if kind.isString then .string
  else .boolean

/-- The built-in scalar that a described type maps to.  Points in time are looked for first. -/
def TypeInfo.scalar? (info : TypeInfo n) : Option Scalar :=
  if info.type.isDateTime then some .dateTime
  else
    match info.detail with
    | .primitive kind => some kind.scalar
    | _ => none

namespace Build

variable (U : Universe n) (object : TypeExpr n → Build n ObjectId)

/-- The failure to map a type. -/
def unrecognized (type : TypeExpr n) : Build n SchemaType :=
  throw (.typeNotRecognized (U.path type))

/-- Build a schema type past the cache.  A provided type comes first, then a scalar, and then what
the structure of the type gives. -/
def buildBy (type : TypeExpr n) (structural : Build n SchemaType) : Build n SchemaType := do
  note (.resolving (U.path type))
  match (← hooksOf U type).typeProvider with
  | some provided => return provided
  | none =>
    match (U.info type).scalar? with
    | some scalar => return .scalar scalar
    | none => structural

/-- The cached schema type of a type, or else a new one, which is then cached. -/
def recalled (type : TypeExpr n) (build : Build n SchemaType) : Build n SchemaType := do
  match ← cached U type with
  | some found =>
    note (.typeCacheHit (U.path type))
    return found
  | none =>
    let built ← build
    remember U type built
    return built

/-- Build the list of what an item resolves to. -/
def buildList (type : TypeExpr n) (item : Build n SchemaType) : Build n SchemaType :=
  buildBy U type (SchemaType.list <$> item)

/-- Build the schema type of a type that is neither a list nor an array: a struct is exposed as an
object, and nothing else is recognized. -/
def buildNamed (type : TypeExpr n) : Build n SchemaType :=
  buildBy U type
    (if U.isStruct type then SchemaType.object <$> object type else unrecognized U type)

/-- The schema type of a type. -/
def resolve : TypeExpr n → Build n SchemaType
  | .pointer _ pointee => resolve pointee
  | .list shape item =>
    recalled U (.list shape item) (buildList U (.list shape item) (resolve item))
  | .array item length =>
    recalled U (.array item length) (buildList U (.array item length) (resolve item))
  | .native type => recalled U (.native type) (buildNamed U object (.native type))
  | .declared index => recalled U (.declared index) (buildNamed U object (.declared index))
  | .map shape key value =>
    recalled U (.map shape key value) (buildNamed U object (.map shape key value))

/-- The schema type of a type, built past the cache.  The items of lists still go through it. -/
def buildType : TypeExpr n → Build n SchemaType
  | .list shape item => buildList U (.list shape item) (resolve U object item)
  | .array item length => buildList U (.array item length) (resolve U object item)
  | type => buildNamed U object type

/-- The schema type of a field: the mark of its tag adds a non-null layer. -/
def tagged (resolve : TypeExpr n → Build n SchemaType) (type : TypeExpr n) (tag : FieldTag) :
    Build n SchemaType := do
  let resolved ← resolve type
  if tag.nonNull then
    if resolved.isNonNull then
      note (.alreadyNonNull (U.path type))
    return resolved.required
  return resolved

/-- The resolver that the type of a field brings along. -/
def resolverOf (type : TypeExpr n) : Build n (Option Resolver) := do
  return (← hooksOf U type.withoutPointers).resolverProvider

/-! ## Resolution below pointers -/

/-- Resolving goes through the cache and builds what it does not find there. -/
theorem resolve_eq_recalled {type : TypeExpr n} (h : type.isPointer = false) :
    resolve U object type = recalled U type (buildType U object type) := by
  cases type with
  | pointer => cases h
  | _ => rfl

/-- A type resolves as the type below its pointers. -/
theorem resolve_withoutPointers (type : TypeExpr n) :
    resolve U object type.withoutPointers = resolve U object type := by
  induction type with
  | pointer shape pointee ih => simpa [resolve] using ih
  | _ => rfl

end Build

end RecordSchema
