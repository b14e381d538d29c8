import RecordSchema.Reflection.TypeExpr

/-!
# The journal of an encoder

While it builds, an encoder notes what it does.  Each note is an event with a level and a text.
Replaced fields and arguments, and a non-null mark without effect, are worth a warning; the rest
traces the work.  The event of a begun object also holds the struct that the object is for, so the
journal tells which struct each object belongs to.
-/

namespace RecordSchema

/-- How much attention an event deserves. -/
inductive Level where
  | trace
  | debug
  | warn
  deriving DecidableEq, Repr

def Level.name : Level → String
  | .trace => "TRACE"
  | .debug => "DEBUG"
  | .warn => "WARN"

/-- Something that an encoder did.  Types appear by their paths. -/
inductive Event (n : Nat) where
  /-- An object was asked for and found in the cache. -/
  | objectCacheHit (path : String)
  /-- The item of a list was found in the cache. -/
  | itemCacheHit (path : String)
  /-- A type was found in the cache. -/
  | typeCacheHit (path : String)
  /-- A type is built. -/
  | resolving (path : String)
  /-- An object was begun for a struct. -/
  | building (object path : String) (struct : TypeExpr n)
  /-- Objects were given up with the outermost one. -/
  | unfinished (count : Nat) (path : String)
  /-- A field took the exposed name of an earlier one. -/
  | fieldReplaced (structPath field exposed : String)
  /-- An argument took the exposed name of an earlier one. -/
  | argumentReplaced (structPath argument exposed : String)
  /-- A field marked as non-null has a type that is so without the mark. -/
  | alreadyNonNull (path : String)
  deriving DecidableEq, Repr

namespace Event

variable {n : Nat}

def level : Event n → Level
  | .objectCacheHit _ | .itemCacheHit _ | .typeCacheHit _ | .resolving _ => .trace
  | .building _ _ _ | .unfinished _ _ => .debug
  | .fieldReplaced _ _ _ | .argumentReplaced _ _ _ | .alreadyNonNull _ => .warn

def message : Event n → String
  | .objectCacheHit path => "object cache hit: " ++ path
  | .itemCacheHit path => "list item cache hit: " ++ path
  | .typeCacheHit path => "type cache hit: " ++ path
  | .resolving path => "resolving " ++ path
  | .building object path _ => "building object `" ++ object ++ "` (" ++ path ++ ")"
  | .unfinished count path => toString count ++ " objects left unfinished by " ++ path
  | .fieldReplaced structPath field exposed =>
    structPath ++ ": field `" ++ field ++ "` replaces an earlier field exposed as `" ++ exposed ++
      "`"
  | .argumentReplaced structPath argument exposed =>
    structPath ++ ": argument `" ++ argument ++
      "` replaces an earlier argument exposed as `" ++ exposed ++ "`"
  | .alreadyNonNull path => "`!` on " ++ path ++ ", whose schema type is already non-null"

/-- The struct for which an event says that an object was begun. -/
def begun? : Event n → Option (TypeExpr n)
  | .building _ _ struct => some struct
  | _ => none

end Event

end RecordSchema
