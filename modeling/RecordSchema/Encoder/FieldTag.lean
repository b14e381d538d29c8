import RecordSchema.Reflection.Universe

/-!
# Field tags

A tag is the text under which a field takes part in the schema.  One leading `!` marks the field as
non-null, and the rest, taken as it is, is the name the field is exposed under.  The name may be
empty and may itself begin with `!`.
-/

namespace RecordSchema

/-- The parts of a tag. -/
structure FieldTag where
  /-- The exposed name. -/
  name : String
  /-- Whether the field is marked as non-null. -/
  nonNull : Bool
  deriving DecidableEq, Repr

namespace FieldTag

/-- Read a tag. -/
def parse (tag : String) : FieldTag :=
  match tag.toList with
  | '!' :: rest => ⟨String.ofList rest, true⟩
  | _ => ⟨tag, false⟩

/-- The text of a tag. -/
def render (tag : FieldTag) : String :=
  if tag.nonNull then "!" ++ tag.name else tag.name

/-- The tag of a field, none if it takes no part in the schema. -/
def of? {n : Nat} (field : RecordField n) : Option FieldTag :=
  field.tag?.map parse

/-- Reading loses nothing. -/
theorem render_parse (tag : String) : (parse tag).render = tag := by
  unfold parse
  split
  · next rest h =>
    have : tag = String.ofList ('!' :: rest) := by rw [← h, String.ofList_toList]
    simp [render, this]
  · simp [render]

end FieldTag

end RecordSchema
