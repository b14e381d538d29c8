import RecordSchema.Reflection.TypeMap
import RecordSchema.Reflection.Universe

/-!
# The registry of types

A registry knows a set of types, the hooks of each, and finds types by path and by name.  A name
shared by two registered types is ambiguous and finds neither; a path finds the type registered
under it last.

There are two ways in.  `Registry.getOrRegister` registers a type alone.  `Registry.register` also
registers what the type depends on, and what that depends on, depth first, stopping at types that
are registered already.  The dependencies of declared types may be cyclic, so the walk is bounded:
no more declared structs can be entered one inside the other than there are declarations, since
each is registered when it is entered.  `none` would mean that the bound was exceeded.
-/

namespace RecordSchema

/-- The registered types of a universe with their hooks and indices. -/
structure Registry (n : Nat) where
  /-- The hooks of each registered type, in the order of registration. -/
  table : TypeMap n Hooks
  /-- The type registered last under each path. -/
  paths : Dictionary String (TypeExpr n)
  /-- The type of each name that only one registered type has. -/
  names : Dictionary String (TypeExpr n)
  /-- The names that several registered types have. -/
  ambiguous : List String
  deriving DecidableEq, Repr

namespace Registry

variable {n : Nat}

def empty : Registry n := ⟨.empty, .empty, .empty, []⟩

instance : Inhabited (Registry n) := ⟨empty⟩

def size (r : Registry n) : Nat := r.table.size

/-- The registered types in the order of registration. -/
def types (r : Registry n) : List (TypeExpr n) := r.table.keys

def contains (r : Registry n) (type : TypeExpr n) : Bool := r.table.contains type

/-- The hooks of a registered type. -/
def hooks? (r : Registry n) (type : TypeExpr n) : Option Hooks := r.table.get? type

/-- The hook of a kind that a registered type has. -/
def hook? (r : Registry n) (type : TypeExpr n) (kind : HookKind) : Option Hook :=
  (r.hooks? type).bind fun hooks => hooks.get? kind

/-- The type that a path finds. -/
def ofPath? (r : Registry n) (path : String) : Option (TypeExpr n) := r.paths.get? path

/-- The type that a name finds. -/
def ofName? (r : Registry n) (name : String) : Option (TypeExpr n) := r.names.get? name

/-- Whether several registered types have this name. -/
def isAmbiguous (r : Registry n) (name : String) : Bool := r.ambiguous.contains name

/-- The registered types that have a hook of a kind. -/
def typesWith (r : Registry n) (kind : HookKind) : List (TypeExpr n) :=
  (r.table.entries.filter fun entry => entry.2.contains kind).map Prod.fst

/-! ## Registration -/

/-- Let a name find a new type.  The second type of a name makes it ambiguous for good. -/
def addName (r : Registry n) (name : String) (type : TypeExpr n) : Registry n :=
  if r.isAmbiguous name then r
  else if r.names.contains name then
    { r with names := r.names.erase name, ambiguous := name :: r.ambiguous }
  else { r with names := r.names.insert name type }

/-- Let a path find a new type. -/
def addPath (r : Registry n) (path : String) (type : TypeExpr n) : Registry n :=
  { r with paths := r.paths.insert path type }

/-- Add a type that is not registered, with the hooks it brings along. -/
def add (U : Universe n) (r : Registry n) (type : TypeExpr n) : Registry n :=
  let indexed := (r.addName (U.name type) type).addPath (U.path type) type
  { indexed with table := r.table.insert type (U.hooks type) }

/-- Register a type alone, if it is not registered. -/
def getOrRegister (U : Universe n) (r : Registry n) (type : TypeExpr n) : Registry n :=
  if r.contains type then r else r.add U type

/-- Register a type and then its dependencies, where `fields` registers those of a declared type.
Nothing happens if the type is registered. -/
def visit (U : Universe n) (fields : Fin n → Registry n → Option (Registry n)) :
    TypeExpr n → Registry n → Option (Registry n)
  | .native type, r =>
    if r.contains (.native type) then some r else some (r.add U (.native type))
  | .declared index, r =>
    if r.contains (.declared index) then some r else fields index (r.add U (.declared index))
  | .list shape item, r =>
    if r.contains (.list shape item) then some r
    else visit U fields item (r.add U (.list shape item))
  | .array item length, r =>
    if r.contains (.array item length) then some r
    else visit U fields item (r.add U (.array item length))
  | .pointer shape pointee, r =>
    if r.contains (.pointer shape pointee) then some r
    else visit U fields pointee (r.add U (.pointer shape pointee))
  | .map shape key value, r =>
    if r.contains (.map shape key value) then some r
    else (visit U fields key (r.add U (.map shape key value))).bind (visit U fields value)

/-- Register the types of the tagged fields of a declaration, entering at most `depth` declared
types one inside the other. -/
def registerFields (U : Universe n) : Nat → Fin n → Registry n → Option (Registry n)
  | 0, _, _ => none
  | depth + 1, index, r =>
    (U.taggedTypes index).foldlM (fun r type => visit U (registerFields U depth) type r) r

/-- Register a type and all that it depends on. -/
def register (U : Universe n) (r : Registry n) (type : TypeExpr n) : Option (Registry n) :=
  visit U (registerFields U n) type r

/-! ## Hooks -/

/-- Attach a hook to a registered type; nothing happens to any other. -/
def attach (r : Registry n) (type : TypeExpr n) (hook : Hook) : Registry n :=
  { r with table := r.table.modify type fun hooks => hooks.attach hook }

/-- Register a type with its dependencies and attach a hook to it. -/
def registerHook (U : Universe n) (r : Registry n) (type : TypeExpr n) (hook : Hook) :
    Option (Registry n) :=
  (r.register U type).map fun r => r.attach type hook

/-- Attach a hook to a type that must be registered already.  The first component says whether it
was. -/
def insertHook (r : Registry n) (type : TypeExpr n) (hook : Hook) : Bool × Registry n :=
  (r.contains type, r.attach type hook)

/-- What the registry knows of a type as inspection text: its path and the number of its hooks. -/
def inspectMeta (U : Universe n) (type : TypeExpr n) (hooks : Hooks) : String :=
  Inspect.record "TypeMeta" [("ty", U.path type), ("trait_len", toString hooks.size)]

/-! ## The standard registry -/

/-- The primitives that every encoder knows from the start. -/
def standardPrimitives : List Primitive :=
  [.bool, .u8, .u16, .u32, .u64, .u128, .usize, .i8, .i16, .i32, .i64, .i128, .isize, .f32, .f64,
   .string]

/-- The registry of the standard primitives. -/
def standard (U : Universe n) : Registry n :=
  standardPrimitives.foldl (fun r kind => r.getOrRegister U (.primitive kind)) empty

end Registry

end RecordSchema
