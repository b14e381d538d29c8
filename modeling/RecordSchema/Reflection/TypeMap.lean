import RecordSchema.Dictionary
import RecordSchema.Reflection.TypeExpr

/-!
# Maps keyed by types

A type map is a dictionary whose keys are types.  Beside the operations of dictionaries it has two
that insert only where the type is absent, and say whether they did.
-/

namespace RecordSchema

/-- A dictionary keyed by the identity of types. -/
abbrev TypeMap (n : Nat) (α : Type) := Dictionary (TypeExpr n) α

namespace TypeMap

variable {n : Nat} {α : Type}

/-- Insert a value if the type is absent.  The first component says whether it was inserted. -/
def tryInsert (m : TypeMap n α) (type : TypeExpr n) (value : α) : Bool × TypeMap n α :=
  if m.contains type then (false, m) else (true, m.insert type value)

/-- The value of a type, which is inserted first if the type is absent. -/
def getOrInsert (m : TypeMap n α) (type : TypeExpr n) (value : α) : α × TypeMap n α :=
  match m.get? type with
  | some present => (present, m)
  | none => (value, m.insert type value)

end TypeMap

end RecordSchema
