import RecordSchema.Text.Padding

/-!
# Kinds of types

A described type is of one of eight kinds.  The kind decides what its description holds: a
primitive its width, a struct its fields, a list or array its item, a pointer its pointee, a map
its key and value; closed and dynamic types hold nothing.
-/

namespace RecordSchema

/-- What a type is, as far as its description goes. -/
inductive Kind where
  | primitive
  | struct
  | list
  | array
  | pointer
  | map
  /-- A type whose content is not described. -/
  | closed
  /-- A type known only while the program runs. -/
  | dynamic
  deriving DecidableEq, Repr

/-- All kinds in their customary order. -/
def Kind.all : List Kind :=
  [.primitive, .struct, .list, .array, .pointer, .map, .closed, .dynamic]

def Kind.name : Kind → String
  | .primitive => "Primitive"
  | .struct => "Struct"
  | .list => "List"
  | .array => "Array"
  | .pointer => "Pointer"
  | .map => "Map"
  | .closed => "Opaque"
  | .dynamic => "Dynamic"

/-- The name of a kind set into a column. -/
def Kind.padded (kind : Kind) (width : Nat) (precision : Option Nat) (alignment : Alignment)
    (fill : Char) : String :=
  RecordSchema.padded kind.name width precision alignment fill

/-- A type was asked for the description of a kind that is not its own. -/
structure KindMismatch where
  expected : Kind
  received : Kind
  deriving DecidableEq, Repr

def KindMismatch.message (mismatch : KindMismatch) : String :=
  "reflect kind mismatch: expected " ++ mismatch.expected.name ++ ", received " ++
    mismatch.received.name

end RecordSchema
