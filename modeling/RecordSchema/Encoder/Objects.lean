import RecordSchema.Encoder.Resolve
import RecordSchema.Encoder.SchemaOption
import RecordSchema.Text.Alphanumeric

/-!
# Objects and argument maps

The tagged fields of a struct become the fields of an object, or the arguments of a map.

An object enters arena and cache before its fields are walked, so a field of the type being built
resolves to this object.  If the walk fails, the object stays as it is.  The outermost build then
marks every object begun since it began, finished or not, since a finished one may point at an
unfinished one.

Objects nest only through structs whose key the cache did not have, so the depth of nesting is
bounded by the number of declarations.
-/

namespace RecordSchema

variable {n : Nat}

/-- The name of an object: the letters, numerals and underscores of a type's name. -/
def objectName (typeName : String) : String :=
  String.ofList (typeName.toList.filter fun c => isAlphanumeric c || c == '_')

namespace Build

variable (U : Universe n)

/-! ## Walking the fields -/

section Walk

variable (resolve : TypeExpr n → Build n SchemaType)

/-- The schema type of a tagged field of a struct, whose failure names the struct and the field. -/
def fieldType (structPath : String) (fieldName : String) (tag : FieldTag) (type : TypeExpr n) :
    Build n SchemaType :=
  ExceptT.adapt (·.inStruct structPath fieldName) (tagged U resolve type tag)

/-- Expose a field on an object of the arena, noting that it replaces an earlier one. -/
def addField (id : ObjectId) (structPath fieldName : String) (field : Field) : Build n Unit := do
  match (← get).arena.get? id with
  | none => throw (.danglingObject id)
  | some object =>
    modify fun e =>
      { e with arena := e.arena.modify id fun object => (object.addField field.name field).2 }
    if (object.addField field.name field).1.isSome then
      note (.fieldReplaced structPath fieldName field.name)

/-- Add a declared field to an object, if the field is tagged. -/
def populateField (id : ObjectId) (structPath : String) (field : RecordField n) : Build n Unit :=
  match field.content with
  | .tagged text type => do
    let tag := FieldTag.parse text
    let resolved ← fieldType U resolve structPath field.name tag type
    let resolver ← resolverOf U type
    addField id structPath field.name { name := tag.name, type := resolved, resolver }
  | _ => pure ()

/-- Add the tagged fields of a struct to an object, in the order of declaration. -/
def populate (id : ObjectId) (structPath : String) (fields : List (RecordField n)) :
    Build n Unit :=
  fields.forM (populateField U resolve id structPath)

/-- Add a declared field to an argument map, if the field is tagged. -/
def addArgument (structPath : String) (arguments : ArgumentMap) (field : RecordField n) :
    Build n ArgumentMap :=
  match field.content with
  | .tagged text type => do
    let tag := FieldTag.parse text
    let resolved ← fieldType U resolve structPath field.name tag type
    let (replaced, arguments) := arguments.insert tag.name { type := resolved }
    if replaced.isSome then
      note (.argumentReplaced structPath field.name tag.name)
    return arguments
  | _ => pure arguments

/-- The argument map of a described type. -/
def argumentsWith (info : TypeInfo n) : Build n ArgumentMap :=
  match info.asStruct with
  | .error _ => throw (.notStruct (U.path info.type))
  | .ok fields => fields.foldlM (addArgument U resolve (U.path info.type)) .empty

end Walk

/-! ## Building an object -/

/-- Give a new object its handle and store it in arena and cache. -/
def beginObject (type : TypeExpr n) (object : ObjectType) : Build n ObjectId := do
  let id := (← get).arena.nextId
  modify fun e => { e with arena := e.arena.insert object }
  remember U type (.object id)
  note (.building object.name (U.path type) type)
  return id

/-- Mark the objects begun by an outermost build as failed. -/
def giveUp (path : String) (started : List ObjectId) (error : EncodeError) : Build n Unit := do
  note (.unfinished started.length path)
  modify fun e => { e with cache := started.foldl (fun cache id => cache.fail id error) e.cache }

/-- Do the work on a begun object.  The outermost of nested works closes the list of begun objects,
and marks them if the work failed. -/
def whileBuilding (path : String) (id : ObjectId) (work : Build n Unit) : Build n Unit := do
  let outermost := (← get).building.isEmpty
  modify fun e => { e with building := e.building ++ [id] }
  let result ← attempt work
  if outermost then
    let started := (← get).building
    modify fun e => { e with building := [] }
    if let .error error := result then
      giveUp path started error
  ofExcept result

/-- The object of a described type: the cached one, or else a new one with the given options.
Nothing changes where no object can be begun. -/
def objectWith (resolve : TypeExpr n → Build n SchemaType) (info : TypeInfo n)
    (options : List (SchemaOption n)) : Build n ObjectId := do
  let path := U.path info.type
  match ← cached U info.type with
  | some found =>
    note (.objectCacheHit path)
    match found.object? with
    | some id => return id
    | none => throw (.notAnObject path)
  | none =>
    match info.asStruct with
    | .error _ => throw (.notStruct path)
    | .ok fields =>
      let object ← ofExcept
        (SchemaOption.applyAllToObject options { name := objectName (U.name info.type) })
      let id ← beginObject U info.type object
      whileBuilding path id (populate U resolve id path fields)
      return id

/-- The object of a type, with at most `depth` objects begun inside it, one in the other. -/
def objectAt : Nat → TypeExpr n → List (SchemaOption n) → Build n ObjectId
  | 0, type, options =>
    objectWith U (fun _ => exhausted) ((U.info type).withoutPointers U) options
  | depth + 1, type, options =>
    objectWith U (Build.resolve U fun type => objectAt depth type [])
      ((U.info type).withoutPointers U) options

/-- The object of a type. -/
def objectOf (type : TypeExpr n) (options : List (SchemaOption n)) : Build n ObjectId :=
  objectAt U n type options

end Build

end RecordSchema
