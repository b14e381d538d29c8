import RecordSchema.Proofs.Results
import RecordSchema.Source.Record

/-!
# Tags of fields

A field may have one tag, the argument of its `graphql` attribute.  `Tagged` says which tag some
attributes have, and `Mistagged` what is wrong where they have none that can be read off; other
attributes do not matter.  Where tags have no meaning none may stand (`HasTag`).
-/

namespace RecordSchema

/-- The tag among some attributes: none, or the literal of the one attribute for it. -/
inductive Tagged (attributes : List Attribute) : Option StringLiteral → Prop
  | without (absent : attributes.filter Attribute.isTag = []) : Tagged attributes none
  | with {a delimiter tag} (only : attributes.filter Attribute.isTag = [a])
      (argument : a.body = .arguments delimiter [.string tag]) : Tagged attributes (some tag)

/-- What is wrong with the first tag, or with a second one, among some attributes. -/
inductive Mistagged (attributes : List Attribute) : DeriveError → Prop
  | malformed {a later} (first : attributes.filter Attribute.isTag = a :: later)
      (other : ∀ delimiter tag, a.body ≠ .arguments delimiter [.string tag]) :
      Mistagged attributes .malformedTag
  | repeated {a second later delimiter tag}
      (first : attributes.filter Attribute.isTag = a :: second :: later)
      (argument : a.body = .arguments delimiter [.string tag]) : Mistagged attributes .repeatedTag

/-- Whether a tag is among some attributes. -/
def HasTag (attributes : List Attribute) : Prop := ∃ a ∈ attributes, a.isTag

/-! ## Reading tags off -/

section Tags

variable {attributes : List Attribute} {error : DeriveError}

theorem Attribute.tag_eq_ok_iff {a : Attribute} {tag : StringLiteral} :
    a.tag = .ok tag ↔ ∃ delimiter, a.body = .arguments delimiter [.string tag] := by
  unfold Attribute.tag
  split
  · next delimiter found body =>
    rw [body]
    constructor
    · rintro ⟨⟩
      exact ⟨delimiter, rfl⟩
    · rintro ⟨_, ⟨⟩⟩
      rfl
  · next other =>
    constructor
    · rintro ⟨⟩
    · rintro ⟨delimiter, body⟩
      exact absurd body (other delimiter tag)

theorem Attribute.tag_eq_error_iff {a : Attribute} :
    a.tag = .error error ↔
      (∀ delimiter tag, a.body ≠ .arguments delimiter [.string tag]) ∧ error = .malformedTag := by
  unfold Attribute.tag
  split
  · next delimiter found body =>
    constructor
    · rintro ⟨⟩
    · rintro ⟨other, -⟩
      exact absurd body (other delimiter found)
  · next other =>
    constructor
    · rintro ⟨⟩
      exact ⟨other, rfl⟩
    · rintro ⟨-, rfl⟩
      rfl

theorem tagOf_of_none (absent : attributes.filter Attribute.isTag = []) :
    tagOf attributes = .ok none := by
  unfold tagOf
  rw [absent]
  rfl

theorem tagOf_of_one {a : Attribute} (only : attributes.filter Attribute.isTag = [a]) :
    tagOf attributes = a.tag.map some := by
  unfold tagOf
  rw [only, List.foldlM_cons]
  cases a.tag <;> rfl

/-- A second tag is refused, unless the first one is refused already. -/
theorem tagOf_of_more {a second : Attribute} {later : List Attribute}
    (first : attributes.filter Attribute.isTag = a :: second :: later) :
    tagOf attributes = a.tag >>= fun _ => .error .repeatedTag := by
  unfold tagOf
  rw [first, List.foldlM_cons]
  cases a.tag <;> rfl

/-- Attributes have a tag or none just if the tag can be read off them. -/
theorem tagOf_eq_ok_iff {tag : Option StringLiteral} :
    tagOf attributes = .ok tag ↔ Tagged attributes tag := by
  constructor
  · intro found
    match tags : attributes.filter Attribute.isTag with
    | [] =>
      rw [tagOf_of_none tags] at found
      cases found
      exact .without tags
    | [a] =>
      rw [tagOf_of_one tags, Result.map_eq_ok_iff] at found
      obtain ⟨tag, found, rfl⟩ := found
      obtain ⟨delimiter, argument⟩ := Attribute.tag_eq_ok_iff.1 found
      exact .with tags argument
    | a :: second :: later =>
      rw [tagOf_of_more tags, Result.bind_eq_ok_iff] at found
      obtain ⟨_, -, ⟨⟩⟩ := found
  · rintro (absent | ⟨only, argument⟩)
    · exact tagOf_of_none absent
    · rw [tagOf_of_one only, Attribute.tag_eq_ok_iff.2 ⟨_, argument⟩]
      rfl

/-- No tag can be read off attributes just if one is wrong. -/
theorem tagOf_eq_error_iff : tagOf attributes = .error error ↔ Mistagged attributes error := by
  constructor
  · intro failed
    match tags : attributes.filter Attribute.isTag with
    | [] =>
      rw [tagOf_of_none tags] at failed
      cases failed
    | [a] =>
      rw [tagOf_of_one tags] at failed
      cases tag : a.tag with
      | ok tag =>
        rw [tag] at failed
        cases failed
      | error reported =>
        rw [tag] at failed
        cases failed
        obtain ⟨other, rfl⟩ := Attribute.tag_eq_error_iff.1 tag
        exact .malformed tags other
    | a :: second :: later =>
      rw [tagOf_of_more tags, Result.bind_eq_error_iff] at failed
      obtain failed | ⟨tag, found, ⟨⟩⟩ := failed
      · obtain ⟨other, rfl⟩ := Attribute.tag_eq_error_iff.1 failed
        exact .malformed tags other
      · obtain ⟨delimiter, argument⟩ := Attribute.tag_eq_ok_iff.1 found
        exact .repeated tags argument
  · rintro (@⟨a, later, first, other⟩ | ⟨first, argument⟩)
    · have refused := Attribute.tag_eq_error_iff.2 ⟨other, rfl⟩
      cases later with
      | nil =>
        rw [tagOf_of_one first, refused]
        rfl
      | cons second later =>
        rw [tagOf_of_more first, refused]
        rfl
    · rw [tagOf_of_more first, Attribute.tag_eq_ok_iff.2 ⟨_, argument⟩]
      rfl

theorem forbidTags_eq_ok_iff :
    Record.forbidTags attributes error = .ok () ↔ ¬ HasTag attributes := by
  unfold Record.forbidTags HasTag
  rw [← List.any_eq_true]
  split
  · next given => simp [given]
  · next absent => simp [absent]

theorem forbidTags_eq_error_iff {reported : DeriveError} :
    Record.forbidTags attributes error = .error reported ↔
      HasTag attributes ∧ reported = error := by
  unfold Record.forbidTags HasTag
  rw [← List.any_eq_true]
  split
  · next given => simp [given, eq_comm]
  · next absent => simp [absent]

end Tags

end RecordSchema
