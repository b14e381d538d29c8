import RecordSchema.Encoder.Session

/-!
# The course of a build

Resolving types, building objects and walking over fields call each other.  `Course` describes what
such a call can do as one inductive relation between the encoder before the call, its result, and
the encoder after it: a rule for each way through the recursion, none of which mentions a bound on
the nesting of objects.

The rules change the encoder by a few plain operations, which come first: `note`, `meet`, `store`,
`begin`, `close` and `expose`.  `Course/Outcome` shows that every outcome of the builder is an
outcome of the course, so the proofs about builds are inductions on the rules.
-/

namespace RecordSchema

variable {n : Nat}

/-! ## Changes to an encoder -/

namespace Encoder

variable (U : Universe n)

/-- The encoder after it noted an event. -/
def note (e : Encoder n) (event : Event n) : Encoder n := { e with journal := event :: e.journal }

/-- The encoder after it met a type, which is then registered. -/
def meet (e : Encoder n) (type : TypeExpr n) : Encoder n :=
  { e with registry := e.registry.getOrRegister U type }

/-- The hooks that an encoder finds when it meets a type. -/
def hooksOf (e : Encoder n) (type : TypeExpr n) : Hooks :=
  ((e.registry.getOrRegister U type).hooks? type).getD .empty

/-- The encoder after it cached the schema type of a type. -/
def store (e : Encoder n) (type : TypeExpr n) (resolved : SchemaType) : Encoder n :=
  { e with cache := e.cache.register U type resolved }

/-- The encoder after it began an object for a struct. -/
def begin (e : Encoder n) (struct : TypeExpr n) (object : ObjectType) : Encoder n :=
  { e with
    arena := e.arena.insert object
    cache := e.cache.register U struct (.object e.arena.nextId)
    journal := .building object.name (U.path struct) struct :: e.journal
    building := e.building ++ [e.arena.nextId] }

/-- The cache in which some objects are marked with an error. -/
def marked (cache : TypeCache) (started : List ObjectId) (error : EncodeError) : TypeCache :=
  started.foldl (fun cache id => cache.fail id error) cache

/-- The encoder after the work on an object ended.  The outermost work closes the list of begun
objects, and marks them if it failed. -/
def close {α : Type} (e : Encoder n) (outermost : Bool) (path : String)
    (result : Except EncodeError α) : Encoder n :=
  match outermost, result with
  | false, _ => e
  | true, .ok _ => { e with building := [] }
  | true, .error error =>
    { e with
      building := []
      cache := marked e.cache e.building error
      journal := .unfinished e.building.length path :: e.journal }

/-- The schema type of a field whose type resolves to `resolved`. -/
def taggedType (tag : FieldTag) (resolved : SchemaType) : SchemaType :=
  if tag.nonNull then resolved.required else resolved

/-- The encoder after it warned of a mark without effect. -/
def warn (e : Encoder n) (type : TypeExpr n) (tag : FieldTag) (resolved : SchemaType) :
    Encoder n :=
  if tag.nonNull && resolved.isNonNull then e.note (.alreadyNonNull (U.path type)) else e

/-- The field that a tag and a type give. -/
def fieldFor (e : Encoder n) (tag : FieldTag) (type : TypeExpr n) (resolved : SchemaType) : Field :=
  { name := tag.name
    type := taggedType tag resolved
    resolver := (e.hooksOf U type.withoutPointers).resolverProvider }

/-- The encoder after a field was added to an object. -/
def addField (e : Encoder n) (id : ObjectId) (structPath fieldName : String) (field : Field) :
    Encoder n :=
  let added :=
    { e with arena := e.arena.modify id fun object => (object.addField field.name field).2 }
  if (e.arena.get? id).any fun object => (object.addField field.name field).1.isSome then
    added.note (.fieldReplaced structPath fieldName field.name)
  else added

/-- The encoder after a tagged field was added to an object. -/
def expose (e : Encoder n) (id : ObjectId) (structPath fieldName : String) (tag : FieldTag)
    (type : TypeExpr n) (resolved : SchemaType) : Encoder n :=
  ((e.warn U type tag resolved).meet U type.withoutPointers).addField id structPath fieldName
    (e.fieldFor U tag type resolved)

/-! ### What a change leaves alone -/

section Fields

variable (e : Encoder n)

@[simp] theorem hooksOf_note (event : Event n) (type : TypeExpr n) :
    (e.note event).hooksOf U type = e.hooksOf U type := rfl

@[simp] theorem note_cache (event : Event n) : (e.note event).cache = e.cache := rfl

@[simp] theorem note_arena (event : Event n) : (e.note event).arena = e.arena := rfl

@[simp] theorem note_registry (event : Event n) : (e.note event).registry = e.registry := rfl

@[simp] theorem note_building (event : Event n) : (e.note event).building = e.building := rfl

@[simp] theorem note_begun (event : Event n) :
    (e.note event).begun = e.begun ++ event.begun?.toList := by
  unfold begun note
  cases h : event.begun? <;> simp [h]

@[simp] theorem meet_cache (type : TypeExpr n) : (e.meet U type).cache = e.cache := rfl

@[simp] theorem meet_arena (type : TypeExpr n) : (e.meet U type).arena = e.arena := rfl

@[simp] theorem meet_registry (type : TypeExpr n) :
    (e.meet U type).registry = e.registry.getOrRegister U type := rfl

@[simp] theorem meet_building (type : TypeExpr n) : (e.meet U type).building = e.building := rfl

@[simp] theorem meet_begun (type : TypeExpr n) : (e.meet U type).begun = e.begun := rfl

@[simp] theorem store_cache (type : TypeExpr n) (resolved : SchemaType) :
    (e.store U type resolved).cache = e.cache.register U type resolved := rfl

@[simp] theorem store_arena (type : TypeExpr n) (resolved : SchemaType) :
    (e.store U type resolved).arena = e.arena := rfl

@[simp] theorem store_registry (type : TypeExpr n) (resolved : SchemaType) :
    (e.store U type resolved).registry = e.registry := rfl

@[simp] theorem store_building (type : TypeExpr n) (resolved : SchemaType) :
    (e.store U type resolved).building = e.building := rfl

@[simp] theorem store_begun (type : TypeExpr n) (resolved : SchemaType) :
    (e.store U type resolved).begun = e.begun := rfl

@[simp] theorem begin_cache (struct : TypeExpr n) (object : ObjectType) :
    (e.begin U struct object).cache = e.cache.register U struct (.object e.arena.nextId) := rfl

@[simp] theorem begin_arena (struct : TypeExpr n) (object : ObjectType) :
    (e.begin U struct object).arena = e.arena.insert object := rfl

@[simp] theorem begin_registry (struct : TypeExpr n) (object : ObjectType) :
    (e.begin U struct object).registry = e.registry := rfl

@[simp] theorem begin_building (struct : TypeExpr n) (object : ObjectType) :
    (e.begin U struct object).building = e.building ++ [e.arena.nextId] := rfl

@[simp] theorem begin_begun (struct : TypeExpr n) (object : ObjectType) :
    (e.begin U struct object).begun = e.begun ++ [struct] := by
  unfold begun begin
  simp [Event.begun?]

section Close

variable {α : Type} (outermost : Bool) (path : String) (result : Except EncodeError α)

@[simp] theorem close_arena : (e.close outermost path result).arena = e.arena := by
  cases outermost <;> cases result <;> rfl

@[simp] theorem close_registry : (e.close outermost path result).registry = e.registry := by
  cases outermost <;> cases result <;> rfl

@[simp] theorem close_types : (e.close outermost path result).cache.types = e.cache.types := by
  have kept : ∀ started cache error, (marked cache started error).types = cache.types := by
    intro started
    induction started with
    | nil => intro cache error; rfl
    | cons id rest ih => intro cache error; exact ih _ error
  cases outermost <;> cases result <;> first | rfl | exact kept _ _ _

@[simp] theorem close_policy : (e.close outermost path result).cache.policy = e.cache.policy := by
  have kept : ∀ started cache error, (marked cache started error).policy = cache.policy := by
    intro started
    induction started with
    | nil => intro cache error; rfl
    | cons id rest ih => intro cache error; exact ih _ error
  cases outermost <;> cases result <;> first | rfl | exact kept _ _ _

@[simp] theorem close_begun : (e.close outermost path result).begun = e.begun := by
  cases outermost <;> cases result <;> rfl

end Close

section Expose

variable (id : ObjectId) (structPath fieldName : String) (tag : FieldTag) (type : TypeExpr n)
  (resolved : SchemaType)

@[simp] theorem warn_cache : (e.warn U type tag resolved).cache = e.cache := by
  unfold warn; split <;> rfl

@[simp] theorem warn_arena : (e.warn U type tag resolved).arena = e.arena := by
  unfold warn; split <;> rfl

@[simp] theorem warn_registry : (e.warn U type tag resolved).registry = e.registry := by
  unfold warn; split <;> rfl

@[simp] theorem warn_building : (e.warn U type tag resolved).building = e.building := by
  unfold warn; split <;> rfl

@[simp] theorem warn_begun : (e.warn U type tag resolved).begun = e.begun := by
  unfold warn; split <;> simp [Event.begun?]

@[simp] theorem expose_cache :
    (e.expose U id structPath fieldName tag type resolved).cache = e.cache := by
  unfold expose addField; simp only; split <;> simp

@[simp] theorem expose_arena :
    (e.expose U id structPath fieldName tag type resolved).arena = e.arena.modify id fun object =>
      (object.addField tag.name (e.fieldFor U tag type resolved)).2 := by
  unfold expose addField; simp only; split <;> simp [fieldFor]

@[simp] theorem expose_registry :
    (e.expose U id structPath fieldName tag type resolved).registry =
      e.registry.getOrRegister U type.withoutPointers := by
  unfold expose addField; simp only; split <;> simp

@[simp] theorem expose_building :
    (e.expose U id structPath fieldName tag type resolved).building = e.building := by
  unfold expose addField; simp only; split <;> simp

@[simp] theorem expose_begun :
    (e.expose U id structPath fieldName tag type resolved).begun = e.begun := by
  unfold expose addField
  simp only
  split
  · rw [note_begun]
    exact (List.append_nil _).trans (e.warn_begun U tag type resolved)
  · exact e.warn_begun U tag type resolved

end Expose

end Fields

end Encoder

/-! ## The rules -/

/-- The item of a list or array. -/
def TypeExpr.item? : TypeExpr n → Option (TypeExpr n)
  | .list _ item | .array item _ => some item
  | _ => none

/-- What a builder can be asked for. -/
inductive Call (n : Nat) where
  /-- The schema type of a type. -/
  | resolve (type : TypeExpr n)
  /-- The schema type of a type without a look into the cache. -/
  | build (type : TypeExpr n)
  /-- The object of a type without pointers. -/
  | object (type : TypeExpr n) (options : List (SchemaOption n))
  /-- The addition of the tagged fields to an object. -/
  | walk (id : ObjectId) (structPath : String) (fields : List (RecordField n))

/-- The type that a call is for, none for a walk over fields. -/
def Call.type? : Call n → Option (TypeExpr n)
  | .resolve type | .build type | .object type _ => some type
  | .walk _ _ _ => none

/-- `Course U call e result e'`: on `e` the call ends with this result and leaves `e'`.  A call for
an object, or a walk over its fields, results in the object's schema type. -/
inductive Course (U : Universe n) :
    Call n → Encoder n → Except EncodeError SchemaType → Encoder n → Prop
  | pointer {shape pointee e result e'} (inner : Course U (.resolve pointee) e result e') :
      Course U (.resolve (.pointer shape pointee)) e result e'
  | recorded {type e found error} (plain : type.isPointer = false)
      (hit : e.cache.lookup U type = some found) (failed : e.cache.failure? found = some error) :
      Course U (.resolve type) e (.error error) e
  | recalled {type e found} (plain : type.isPointer = false)
      (hit : e.cache.lookup U type = some found) (sound : e.cache.failure? found = none) :
      Course U (.resolve type) e (.ok found) (e.note (.typeCacheHit (U.path type)))
  | resolved {type e built e'} (plain : type.isPointer = false)
      (miss : e.cache.lookup U type = none) (inner : Course U (.build type) e (.ok built) e') :
      Course U (.resolve type) e (.ok built) (e'.store U type built)
  | refused {type e error e'} (plain : type.isPointer = false)
      (miss : e.cache.lookup U type = none) (inner : Course U (.build type) e (.error error) e') :
      Course U (.resolve type) e (.error error) e'
  | provided {type e given} (hook : (e.hooksOf U type).typeProvider = some given) :
      Course U (.build type) e (.ok given) ((e.note (.resolving (U.path type))).meet U type)
  | scalar {type e leaf} (free : (e.hooksOf U type).typeProvider = none)
      (native : (U.info type).scalar? = some leaf) :
      Course U (.build type) e (.ok (.scalar leaf))
        ((e.note (.resolving (U.path type))).meet U type)
  | list {type item e result e'} (free : (e.hooksOf U type).typeProvider = none)
      (other : (U.info type).scalar? = none) (listed : type.item? = some item)
      (inner : Course U (.resolve item) ((e.note (.resolving (U.path type))).meet U type)
        result e') :
      Course U (.build type) e (result.map .list) e'
  | struct {type e result e'} (free : (e.hooksOf U type).typeProvider = none)
      (other : (U.info type).scalar? = none) (struct : U.isStruct type)
      (inner : Course U (.object type []) ((e.note (.resolving (U.path type))).meet U type)
        result e') :
      Course U (.build type) e result e'
  | unrecognized {type e} (free : (e.hooksOf U type).typeProvider = none)
      (other : (U.info type).scalar? = none) (unlisted : type.item? = none)
      (noStruct : U.isStruct type = false) :
      Course U (.build type) e (.error (.typeNotRecognized (U.path type)))
        ((e.note (.resolving (U.path type))).meet U type)
  | objectRecorded {type options e found error} (hit : e.cache.lookup U type = some found)
      (failed : e.cache.failure? found = some error) :
      Course U (.object type options) e (.error error) e
  | objectRecalled {type options e id} (hit : e.cache.lookup U type = some (.object id))
      (sound : e.cache.failure? (.object id) = none) :
      Course U (.object type options) e (.ok (.object id))
        (e.note (.objectCacheHit (U.path type)))
  | notAnObject {type options e found} (hit : e.cache.lookup U type = some found)
      (sound : e.cache.failure? found = none) (other : found.object? = none) :
      Course U (.object type options) e (.error (.notAnObject (U.path type)))
        (e.note (.objectCacheHit (U.path type)))
  | notStruct {type options e} (miss : e.cache.lookup U type = none)
      (noStruct : U.isStruct type = false) :
      Course U (.object type options) e (.error (.notStruct (U.path type))) e
  | notSupported {type options e error} (miss : e.cache.lookup U type = none)
      (struct : U.isStruct type)
      (refusal : SchemaOption.applyAllToObject options { name := objectName (U.name type) } =
        .error error) :
      Course U (.object type options) e (.error error) e
  | begun {type options e object fields result e'} (miss : e.cache.lookup U type = none)
      (struct : U.detail type = .struct fields)
      (made : SchemaOption.applyAllToObject options { name := objectName (U.name type) } =
        .ok object)
      (inner : Course U (.walk e.arena.nextId (U.path type) fields) (e.begin U type object)
        result e') :
      Course U (.object type options) e result
        (e'.close e.building.isEmpty (U.path type) result)
  | done {id path e} : Course U (.walk id path []) e (.ok (.object id)) e
  | untagged {id path} {field : RecordField n} {rest e result e'} (untagged : field.tag? = none)
      (inner : Course U (.walk id path rest) e result e') :
      Course U (.walk id path (field :: rest)) e result e'
  | tagged {id path} {field : RecordField n} {text type rest e resolved e₁ result e'}
      (content : field.content = .tagged text type)
      (first : Course U (.resolve type) e (.ok resolved) e₁)
      (live : e₁.arena.contains id)
      (inner : Course U (.walk id path rest)
        (e₁.expose U id path field.name (.parse text) type resolved) result e') :
      Course U (.walk id path (field :: rest)) e result e'
  | stopped {id path} {field : RecordField n} {text type rest e error e'}
      (content : field.content = .tagged text type)
      (first : Course U (.resolve type) e (.error error) e') :
      Course U (.walk id path (field :: rest)) e (.error (error.inStruct path field.name)) e'
  | dangling {id path} {field : RecordField n} {text type rest e resolved e₁}
      (content : field.content = .tagged text type)
      (first : Course U (.resolve type) e (.ok resolved) e₁)
      (dead : e₁.arena.contains id = false) :
      Course U (.walk id path (field :: rest)) e (.error (.danglingObject id))
        ((e₁.warn U type (.parse text) resolved).meet U type.withoutPointers)

end RecordSchema
