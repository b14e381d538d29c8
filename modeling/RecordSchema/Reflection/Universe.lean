import RecordSchema.Reflection.Hooks
import RecordSchema.Reflection.TypeExpr

/-!
# Universes of declared types

A universe is a finite table of declarations.  A declaration has a path, a name, hooks and a body;
the body of a struct lists its fields, whose types are expressions over the same universe, so
declarations may refer to each other and to themselves in cycles.

The path and the name of a type are put together from those of its parts.  Two declarations are
different types even where their paths are equal.
-/

namespace RecordSchema

/-- What a field says about itself. -/
inductive FieldContent (n : Nat) where
  /-- Nothing: the type of the field is not described. -/
  | hidden
  /-- Its type, without taking part in the schema. -/
  | untagged (type : TypeExpr n)
  /-- Its type, and the tag under which it takes part in the schema. -/
  | tagged (tag : String) (type : TypeExpr n)
  deriving DecidableEq, Repr

/-- A declared field of a struct. -/
structure RecordField (n : Nat) where
  name : String
  content : FieldContent n
  deriving DecidableEq, Repr

namespace RecordField

variable {n : Nat}

def tag? (field : RecordField n) : Option String :=
  match field.content with
  | .tagged tag _ => some tag
  | _ => none

def type? (field : RecordField n) : Option (TypeExpr n) :=
  match field.content with
  | .hidden => none
  | .untagged type | .tagged _ type => some type

end RecordField

/-- What a declaration describes. -/
inductive Body (n : Nat) where
  | struct (fields : List (RecordField n))
  | closed
  | dynamic
  | primitive (kind : Primitive)
  deriving DecidableEq, Repr

/-- A declared type. -/
structure Declaration (n : Nat) where
  path : String
  name : String
  body : Body n
  /-- The hooks that the type brings along. -/
  hooks : Hooks := .empty
  deriving DecidableEq, Repr

/-- The declarations of `n` types. -/
structure Universe (n : Nat) where
  declaration : Fin n → Declaration n

/-! ## Paths and names -/

def ListShape.name : ListShape → String → String
  | .vec, item => "Vec<" ++ item ++ ">"
  | .deque, item => "VecDeque<" ++ item ++ ">"
  | .slice, item => "[" ++ item ++ "]"

def ListShape.path : ListShape → String → String
  | .vec, item => "alloc::vec::Vec<" ++ item ++ ">"
  | .deque, item => "alloc::collections::VecDeque<" ++ item ++ ">"
  | .slice, item => "[" ++ item ++ "]"

def PointerShape.name : PointerShape → String → String
  | .reference, pointee => "&" ++ pointee
  | .box, pointee => "Box<" ++ pointee ++ ">"
  | .rc, pointee => "Rc<" ++ pointee ++ ">"
  | .arc, pointee => "Arc<" ++ pointee ++ ">"
  | .option, pointee => "Option<" ++ pointee ++ ">"

def PointerShape.path : PointerShape → String → String
  | .reference, pointee => "&" ++ pointee
  | .box, pointee => "alloc::boxed::Box<" ++ pointee ++ ">"
  | .rc, pointee => "alloc::rc::Rc<" ++ pointee ++ ">"
  | .arc, pointee => "alloc::sync::Arc<" ++ pointee ++ ">"
  | .option, pointee => "core::option::Option<" ++ pointee ++ ">"

def MapShape.name : MapShape → String → String → String
  | .hash, key, value => "HashMap<" ++ key ++ ", " ++ value ++ ">"
  | .btree, key, value => "BTreeMap<" ++ key ++ ", " ++ value ++ ">"

def MapShape.path : MapShape → String → String → String
  | .hash, key, value => "std::collections::HashMap<" ++ key ++ ", " ++ value ++ ">"
  | .btree, key, value => "alloc::collections::BTreeMap<" ++ key ++ ", " ++ value ++ ">"

/-- An array in path or name, around the text of its item. -/
def arrayText (item : String) (length : Nat) : String :=
  "[" ++ item ++ "; " ++ toString length ++ "]"

namespace Universe

variable {n : Nat}

/-- The qualified path of a type. -/
def path (U : Universe n) : TypeExpr n → String
  | .native type => type.path
  | .declared index => (U.declaration index).path
  | .list shape item => shape.path (U.path item)
  | .array item length => arrayText (U.path item) length
  | .pointer shape pointee => shape.path (U.path pointee)
  | .map shape key value => shape.path (U.path key) (U.path value)

/-- The bare name of a type, which is its path without the modules. -/
def name (U : Universe n) : TypeExpr n → String
  | .native type => type.name
  | .declared index => (U.declaration index).name
  | .list shape item => shape.name (U.name item)
  | .array item length => arrayText (U.name item) length
  | .pointer shape pointee => shape.name (U.name pointee)
  | .map shape key value => shape.name (U.name key) (U.name value)

/-! ## What a type brings along -/

/-- The hooks that a type has when it is first met.  Only declared types bring any. -/
def hooks (U : Universe n) : TypeExpr n → Hooks
  | .declared index => (U.declaration index).hooks
  | _ => .empty

/-- The fields of a declaration, none unless it is a struct. -/
def fields (U : Universe n) (index : Fin n) : List (RecordField n) :=
  match (U.declaration index).body with
  | .struct fields => fields
  | _ => []

/-- The types of the tagged fields of a declaration. -/
def taggedTypes (U : Universe n) (index : Fin n) : List (TypeExpr n) :=
  (U.fields index).filterMap fun field =>
    match field.content with
    | .tagged _ type => some type
    | _ => none

/-- The types that a type refers to directly: the item of a list or array, the pointee of a pointer,
the key and value of a map, and the types of the tagged fields of a struct. -/
def dependencies (U : Universe n) : TypeExpr n → List (TypeExpr n)
  | .native _ => []
  | .declared index => U.taggedTypes index
  | .list _ item | .array item _ => [item]
  | .pointer _ pointee => [pointee]
  | .map _ key value => [key, value]

end Universe

end RecordSchema
