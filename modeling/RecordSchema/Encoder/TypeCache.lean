import RecordSchema.Dictionary
import RecordSchema.Encoder.EncodeError
import RecordSchema.Reflection.TypeInfo

/-!
# The cache of resolved types

A cache stores the schema type of every type that was resolved, under a key that is the path or
the bare name of the type below its pointers.  It also records which objects could not be built:
`TypeCache.failure?` finds the recorded error of the object that a schema type names through any
layers.
-/

namespace RecordSchema

/-- What a cache uses as the key of a type. -/
inductive KeyPolicy where
  /-- The path, which tells types of different modules apart. -/
  | qualified
  /-- The bare name, which two types of different modules may share. -/
  | bareName
  deriving DecidableEq, Repr

def KeyPolicy.name : KeyPolicy → String
  | .qualified => "Qualified"
  | .bareName => "BareName"

/-- The text of a type that a policy uses as key. -/
def KeyPolicy.text {n : Nat} (policy : KeyPolicy) (U : Universe n) (type : TypeExpr n) : String :=
  match policy with
  | .qualified => U.path type
  | .bareName => U.name type

/-- The resolved schema types and the failed objects of one encoder. -/
structure TypeCache where
  policy : KeyPolicy
  types : Dictionary String SchemaType
  failures : Dictionary ObjectId EncodeError
  deriving DecidableEq, Repr

namespace TypeCache

variable {n : Nat}

def empty (policy : KeyPolicy) : TypeCache := ⟨policy, .empty, .empty⟩

def size (cache : TypeCache) : Nat := cache.types.size

def isEmpty (cache : TypeCache) : Bool := cache.types.isEmpty

/-- The key of a type, which is that of the type below its pointers. -/
def key (U : Universe n) (cache : TypeCache) (type : TypeExpr n) : String :=
  cache.policy.text U ((U.info type).withoutPointers U).type

/-- The schema type stored for a type. -/
def lookup (U : Universe n) (cache : TypeCache) (type : TypeExpr n) : Option SchemaType :=
  cache.types.get? (cache.key U type)

/-- Store a schema type for a type. -/
def register (U : Universe n) (cache : TypeCache) (type : TypeExpr n) (resolved : SchemaType) :
    TypeCache :=
  { cache with types := cache.types.insert (cache.key U type) resolved }

/-- Record that an object could not be built.  The first recorded error is kept. -/
def fail (cache : TypeCache) (id : ObjectId) (error : EncodeError) : TypeCache :=
  { cache with failures := cache.failures.insertNew id error }

/-- The recorded error of the object that a schema type names. -/
def failure? (cache : TypeCache) (type : SchemaType) : Option EncodeError :=
  type.namedObject?.bind fun id => cache.failures.get? id

end TypeCache

end RecordSchema
