import RecordSchema.Reflection.Native

/-!
# Type expressions

A type is written over a finite supply of `n` declarations: a native type, a declared type given
by its number, or a list, array, pointer or map of such types.  Two expressions denote the same
type exactly when they are equal, so equality of expressions is the identity of types.

`TypeExpr.withoutPointers` strips the pointers around a type.
-/

namespace RecordSchema

/-- The list types. -/
inductive ListShape where
  | vec
  | deque
  | slice
  deriving DecidableEq, Repr

/-- The pointer types. -/
inductive PointerShape where
  | reference
  | box
  | rc
  | arc
  | option
  deriving DecidableEq, Repr

/-- An optional value is the only pointer that may be absent. -/
def PointerShape.nullable : PointerShape → Bool
  | .option => true
  | _ => false

/-- The map types. -/
inductive MapShape where
  | hash
  | btree
  deriving DecidableEq, Repr

/-- A type over `n` declarations. -/
inductive TypeExpr (n : Nat) where
  | native (type : Native)
  | declared (index : Fin n)
  | list (shape : ListShape) (item : TypeExpr n)
  | array (item : TypeExpr n) (length : Nat)
  | pointer (shape : PointerShape) (pointee : TypeExpr n)
  | map (shape : MapShape) (key value : TypeExpr n)
  deriving DecidableEq, Repr

namespace TypeExpr

variable {n : Nat}

instance : Inhabited (TypeExpr n) := ⟨.native (.primitive .bool)⟩

abbrev primitive (kind : Primitive) : TypeExpr n := .native (.primitive kind)

def isPointer : TypeExpr n → Bool
  | .pointer _ _ => true
  | _ => false

/-- The type below all pointers around it. -/
def withoutPointers : TypeExpr n → TypeExpr n
  | .pointer _ pointee => pointee.withoutPointers
  | type => type

/-- Points in time are known by their identity, not by their paths. -/
def isDateTime : TypeExpr n → Bool
  | .native type => type.isDateTime
  | _ => false

/-! ## Stripping pointers -/

theorem isPointer_withoutPointers (type : TypeExpr n) : type.withoutPointers.isPointer = false := by
  induction type with
  | pointer shape pointee ih => simpa [withoutPointers] using ih
  | _ => rfl

theorem withoutPointers_eq_self {type : TypeExpr n} (h : type.isPointer = false) :
    type.withoutPointers = type := by
  cases type with
  | pointer => cases h
  | _ => rfl

@[simp] theorem withoutPointers_pointer (shape : PointerShape) (pointee : TypeExpr n) :
    (TypeExpr.pointer shape pointee).withoutPointers = pointee.withoutPointers := rfl

@[simp] theorem withoutPointers_withoutPointers (type : TypeExpr n) :
    type.withoutPointers.withoutPointers = type.withoutPointers :=
  withoutPointers_eq_self type.isPointer_withoutPointers

/-! ## Numbers of declarations

A numeral in `Fin n` carries a proof that `n` is not zero.  For small `n` the proof is one of these,
so that the number of a declaration is written as the same term everywhere. -/

instance neZero_two : @NeZero Nat Zero.ofOfNat0 2 := Nat.instNeZeroSucc

instance neZero_three : @NeZero Nat Zero.ofOfNat0 3 := Nat.instNeZeroSucc

instance neZero_four : @NeZero Nat Zero.ofOfNat0 4 := Nat.instNeZeroSucc

end TypeExpr

end RecordSchema
