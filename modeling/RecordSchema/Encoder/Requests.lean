import RecordSchema.Encoder.Objects

/-!
# Requests to an encoder

The public operations on an encoder.  Those that take a type as such register it and its
dependencies first; those that end in `OfInfo`, and `resolveType`, take the description of a type
and leave the registry to the types that the build meets.
-/

namespace RecordSchema

variable {n : Nat}

namespace Encoder

variable (U : Universe n)

/-- The object of a described type.  The options apply to a new object and are ignored where the
object is cached. -/
def structOfInfo (type : TypeExpr n) (options : List (SchemaOption n)) : Build n ObjectId :=
  Build.objectOf U type options

/-- The object of a type. -/
def structOf (type : TypeExpr n) (options : List (SchemaOption n)) : Build n ObjectId := do
  Build.register U type
  structOfInfo U type options

/-- The schema type of a type. -/
def resolveType (type : TypeExpr n) : Build n SchemaType :=
  Build.resolve U (fun type => structOfInfo U type []) type

/-- The argument map of a described type.  The map is not cached, the types in it are. -/
def argsOfInfo (type : TypeExpr n) : Build n ArgumentMap :=
  Build.argumentsWith U (resolveType U) ((U.info type).withoutPointers U)

/-- The argument map of a type. -/
def argsOf (type : TypeExpr n) : Build n ArgumentMap := do
  Build.register U type
  argsOfInfo U type

/-- The schema type of a list item.  A struct becomes its object with the given options, whatever
hooks it has; any other type is built as in a field. -/
def itemType (type : TypeExpr n) (options : List (SchemaOption n)) : Build n SchemaType :=
  if U.isStruct type then SchemaType.object <$> structOfInfo U type options
  else Build.buildType U (fun type => structOfInfo U type []) type

/-- The list of the schema type of a type. -/
def arrayOf (type : TypeExpr n) (options : List (SchemaOption n)) : Build n SchemaType := do
  Build.register U type
  let item := type.withoutPointers
  match ← Build.cached U item with
  | some found =>
    Build.note (.itemCacheHit (U.path item))
    return .list found
  | none =>
    let resolved ← itemType U item options
    Build.remember U item resolved
    return .list resolved

/-- Apply an option to a field. -/
def applyToField (option : SchemaOption n) (field : Field) : Build n Field :=
  match option with
  | .description text => return { field with description := some text }
  | .deprecationReason reason => return { field with deprecationReason := some reason }
  | .resolver replacement => return { field with resolver := some replacement }
  | .type replacement => return { field with type := replacement }
  | .arguments source => do
    let arguments ← argsOfInfo U source
    return { field with arguments }
  | .defaultValue _ => throw TargetKind.field.refusal

/-- The object behind a handle. -/
def object (id : ObjectId) : Build n ObjectType := do
  match (← get).arena.get? id with
  | some object => return object
  | none => throw (.danglingObject id)

/-- A field that holds the object of a type, named after the object, with the given options. -/
def fieldOf (type : TypeExpr n) (options : List (SchemaOption n)) : Build n Field := do
  let id ← structOf U type []
  let target ← object id
  options.foldlM (fun field option => applyToField U option field)
    { name := target.name, type := .object id }

/-! ## Queries -/

/-- A schema type in schema style, with the names of this encoder's objects. -/
def display (e : Encoder n) (type : SchemaType) : String := e.arena.display type

/-- The events noted since an earlier state of the same encoder, oldest first. -/
def journalSince (e earlier : Encoder n) : List (Event n) :=
  (e.journal.take (e.journal.length - earlier.journal.length)).reverse

end Encoder

end RecordSchema
