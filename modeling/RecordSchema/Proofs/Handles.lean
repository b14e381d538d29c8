import RecordSchema.Encoder.Session
import RecordSchema.Proofs.Exposure

/-!
# Handles in schema types and answers

A schema type names at most one object, through any layers, but the fields of an object and the
answers of an encoder may name many.  `handles` lists the handles that occur in each of them.
-/

namespace RecordSchema

/-! ## Handles -/

/-- The handles that occur in a schema type. -/
def SchemaType.handles : SchemaType → List ObjectId
  | .scalar _ => []
  | .list inner | .nonNull inner => inner.handles
  | .object id => [id]

theorem SchemaType.handles_eq (type : SchemaType) : type.handles = type.namedObject?.toList := by
  induction type with
  | scalar | object => rfl
  | list inner ih | nonNull inner ih => exact ih

theorem SchemaType.mem_handles {type : SchemaType} {id : ObjectId} :
    id ∈ type.handles ↔ type.namedObject? = some id := by
  rw [handles_eq, Option.mem_toList]

/-- A type without handles cannot have failed. -/
theorem TypeCache.failure?_of_handles_nil {found : SchemaType} (unnamed : found.handles = [])
    (cache : TypeCache) : cache.failure? found = none := by
  rw [SchemaType.handles_eq, Option.toList_eq_nil_iff] at unnamed
  rw [failure?, unnamed]
  rfl

theorem SchemaType.handles_required (type : SchemaType) : type.required.handles = type.handles := by
  unfold required
  split <;> rfl

/-- The handles in the types of arguments. -/
def ArgumentMap.handles (arguments : ArgumentMap) : List ObjectId :=
  arguments.values.flatMap fun argument => argument.type.handles

/-- The handles in the type of a field and in those of its arguments. -/
def Field.handles (field : Field) : List ObjectId :=
  field.type.handles ++ field.arguments.handles

/-- The handles in an answer of an encoder. -/
def Answer.handles : Answer → List ObjectId
  | .object id => [id]
  | .arguments given => given.handles
  | .type given => given.handles
  | .field given => given.handles
  | .attached _ => []

theorem ArgumentMap.mem_handles_insert {arguments : ArgumentMap} {name : String}
    {argument : Argument} {id : ObjectId}
    (h : id ∈ ArgumentMap.handles (arguments.insert name argument).2) :
    id ∈ argument.type.handles ∨ id ∈ arguments.handles := by
  unfold ArgumentMap.handles at h ⊢
  obtain ⟨other, stored, named⟩ := List.mem_flatMap.1 h
  rcases OrderedMap.mem_values_insert stored with rfl | old
  · exact .inl named
  · exact .inr (List.mem_flatMap.2 ⟨other, old, named⟩)

end RecordSchema
