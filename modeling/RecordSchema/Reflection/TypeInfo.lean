import RecordSchema.Reflection.Kind
import RecordSchema.Reflection.Universe

/-!
# Descriptions of types

`Universe.info` describes a type: its kind and what comes with the kind.  A description can be
asked for the content of one kind and refuses with a `KindMismatch` if it is of another.

Pointers can be stripped from a description as from a type expression, by following the pointees
from description to description.
-/

namespace RecordSchema

/-- The content of a description, by kind. -/
inductive Detail (n : Nat) where
  | primitive (kind : Primitive)
  | struct (fields : List (RecordField n))
  | list (item : TypeExpr n)
  | array (item : TypeExpr n) (length : Nat)
  | pointer (pointee : TypeExpr n) (nullable : Bool)
  | map (key value : TypeExpr n)
  | closed
  | dynamic
  deriving DecidableEq, Repr

/-- A type with its description. -/
structure TypeInfo (n : Nat) where
  type : TypeExpr n
  detail : Detail n
  deriving DecidableEq, Repr

def Detail.kind {n : Nat} : Detail n → Kind
  | .primitive _ => .primitive
  | .struct _ => .struct
  | .list _ => .list
  | .array _ _ => .array
  | .pointer _ _ => .pointer
  | .map _ _ => .map
  | .closed => .closed
  | .dynamic => .dynamic

def Native.detail {n : Nat} : Native → Detail n
  | .primitive kind => .primitive kind
  | .anyValue | .anySendSyncValue => .dynamic
  | _ => .closed

def Body.detail {n : Nat} : Body n → Detail n
  | .struct fields => .struct fields
  | .closed => .closed
  | .dynamic => .dynamic
  | .primitive kind => .primitive kind

namespace Universe

variable {n : Nat}

/-- The content of a type's description. -/
def detail (U : Universe n) : TypeExpr n → Detail n
  | .native type => type.detail
  | .declared index => (U.declaration index).body.detail
  | .list _ item => .list item
  | .array item length => .array item length
  | .pointer shape pointee => .pointer pointee shape.nullable
  | .map _ key value => .map key value

/-- The description of a type. -/
def info (U : Universe n) (type : TypeExpr n) : TypeInfo n := ⟨type, U.detail type⟩

/-- Whether a type is a declared struct. -/
def isStruct (U : Universe n) (type : TypeExpr n) : Bool := (U.detail type).kind == .struct

/-- The description reached from a type by following pointees. -/
def pointedInfo (U : Universe n) : TypeExpr n → TypeInfo n
  | .pointer _ pointee => U.pointedInfo pointee
  | type => U.info type

end Universe

namespace TypeInfo

variable {n : Nat}

def kind (info : TypeInfo n) : Kind := info.detail.kind

/-- The description below all pointers. -/
def withoutPointers (U : Universe n) (info : TypeInfo n) : TypeInfo n :=
  match info.detail with
  | .pointer pointee _ => U.pointedInfo pointee
  | _ => info

/-! ## Asking for the content of one kind -/

/-- The refusal of a description that was asked for another kind. -/
def mismatch (info : TypeInfo n) (expected : Kind) : KindMismatch := ⟨expected, info.kind⟩

def asPrimitive (info : TypeInfo n) : Except KindMismatch Primitive :=
  match info.detail with
  | .primitive kind => .ok kind
  | _ => .error (info.mismatch .primitive)

def asStruct (info : TypeInfo n) : Except KindMismatch (List (RecordField n)) :=
  match info.detail with
  | .struct fields => .ok fields
  | _ => .error (info.mismatch .struct)

def asList (info : TypeInfo n) : Except KindMismatch (TypeExpr n) :=
  match info.detail with
  | .list item => .ok item
  | _ => .error (info.mismatch .list)

def asArray (info : TypeInfo n) : Except KindMismatch (TypeExpr n × Nat) :=
  match info.detail with
  | .array item length => .ok (item, length)
  | _ => .error (info.mismatch .array)

def asPointer (info : TypeInfo n) : Except KindMismatch (TypeExpr n × Bool) :=
  match info.detail with
  | .pointer pointee nullable => .ok (pointee, nullable)
  | _ => .error (info.mismatch .pointer)

def asMap (info : TypeInfo n) : Except KindMismatch (TypeExpr n × TypeExpr n) :=
  match info.detail with
  | .map key value => .ok (key, value)
  | _ => .error (info.mismatch .map)

def asClosed (info : TypeInfo n) : Except KindMismatch Unit :=
  match info.detail with
  | .closed => .ok ()
  | _ => .error (info.mismatch .closed)

def asDynamic (info : TypeInfo n) : Except KindMismatch Unit :=
  match info.detail with
  | .dynamic => .ok ()
  | _ => .error (info.mismatch .dynamic)

/-- Whether a description is of a kind, asked through the content of that kind. -/
def cast (info : TypeInfo n) : Kind → Except KindMismatch Unit
  | .primitive => info.asPrimitive.map fun _ => ()
  | .struct => info.asStruct.map fun _ => ()
  | .list => info.asList.map fun _ => ()
  | .array => info.asArray.map fun _ => ()
  | .pointer => info.asPointer.map fun _ => ()
  | .map => info.asMap.map fun _ => ()
  | .closed => info.asClosed
  | .dynamic => info.asDynamic

end TypeInfo

/-! ## Fields by name -/

/-- The position of the last field declared under a name. -/
def fieldIndex? {n : Nat} (fields : List (RecordField n)) (name : String) : Option Nat :=
  (fields.zipIdx.reverse.find? fun entry => entry.1.name == name).map Prod.snd

/-- The last field declared under a name. -/
def field? {n : Nat} (fields : List (RecordField n)) (name : String) : Option (RecordField n) :=
  (fieldIndex? fields name).bind fun position => fields[position]?

/-- A type as inspection text: a handle on its path. -/
def Universe.inspect {n : Nat} (U : Universe n) (type : TypeExpr n) : String :=
  Inspect.applied "TypeHandle" [U.path type]

end RecordSchema
