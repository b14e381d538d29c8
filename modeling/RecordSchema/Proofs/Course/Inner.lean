import RecordSchema.Proofs.Course.Outcome

/-!
# One result, and the calls on the way to it

The rules of `Course` leave one result and one encoder for each call (`Course.deterministic`).

Between the encoder before a call and the one after it lie others, which no request ever shows.
`Call.Makes` speaks of them: it says which calls a call makes on its way, and on which encoders.
What is said of all calls that are made holds at every moment of a build.
-/

namespace RecordSchema

variable {n : Nat}

open Encoder

/-! ## The rules leave one result -/

theorem RecordField.tag?_ne_none_of_tagged {field : RecordField n} {text : String}
    {type : TypeExpr n} (content : field.content = .tagged text type) : field.tag? ≠ none := by
  simp [RecordField.tag?, content]

theorem Course.deterministic {U : Universe n} {call : Call n} {e e₁ e₂ : Encoder n}
    {result₁ result₂ : Except EncodeError SchemaType} (first : Course U call e result₁ e₁)
    (second : Course U call e result₂ e₂) : result₁ = result₂ ∧ e₁ = e₂ := by
  induction first generalizing result₂ e₂ with
  | pointer inner ih =>
    cases second with
    | pointer inner' => exact ih inner'
    | recorded plain | recalled plain | resolved plain | refused plain => cases plain
  | recorded plain | recalled plain =>
    cases second with
    | pointer => cases plain
    | recorded | recalled | resolved | refused => simp_all
  | resolved plain miss inner ih | refused plain miss inner ih =>
    cases second with
    | pointer => cases plain
    | recorded _ hit | recalled _ hit => simp_all
    | resolved _ _ inner' | refused _ _ inner' =>
      obtain ⟨same, rfl⟩ := ih inner'
      cases same <;> exact ⟨rfl, rfl⟩
  | provided | scalar | unrecognized => cases second <;> simp_all
  | list free other listed inner ih =>
    cases second with
    | provided | scalar | unrecognized => simp_all
    | list _ _ listed' inner' =>
      obtain rfl := Option.some.inj (listed.symm.trans listed')
      obtain ⟨rfl, rfl⟩ := ih inner'
      exact ⟨rfl, rfl⟩
    | struct _ _ struct =>
      rw [item?_eq_none_of_struct struct] at listed
      cases listed
  | struct free other struct inner ih =>
    cases second with
    | provided | scalar | unrecognized => simp_all
    | list _ _ listed =>
      rw [item?_eq_none_of_struct struct] at listed
      cases listed
    | struct _ _ _ inner' => exact ih inner'
  | objectRecorded | notStruct | notSupported =>
    cases second with
    | begun _ struct => have := Universe.isStruct_of_detail struct; simp_all
    | objectRecorded | objectRecalled | notAnObject | notStruct | notSupported => simp_all
  | objectRecalled hit sound =>
    cases second with
    | notAnObject hit' _ other =>
      obtain rfl := Option.some.inj (hit.symm.trans hit')
      cases other
    | objectRecorded | objectRecalled | notStruct | notSupported | begun => simp_all
  | notAnObject hit sound other =>
    cases second with
    | objectRecalled hit' =>
      obtain rfl := Option.some.inj (hit.symm.trans hit')
      cases other
    | objectRecorded | notAnObject | notStruct | notSupported | begun => simp_all
  | begun miss struct made inner ih =>
    cases second with
    | objectRecorded hit | objectRecalled hit | notAnObject hit => simp_all
    | notStruct => have := Universe.isStruct_of_detail struct; simp_all
    | notSupported => simp_all
    | begun _ struct' made' inner' =>
      rw [struct] at struct'
      rw [made] at made'
      cases struct'
      cases made'
      obtain ⟨rfl, rfl⟩ := ih inner'
      exact ⟨rfl, rfl⟩
  | done => cases second; exact ⟨rfl, rfl⟩
  | untagged untagged inner ih =>
    cases second with
    | untagged _ inner' => exact ih inner'
    | tagged content | stopped content | dangling content =>
      exact absurd untagged (RecordField.tag?_ne_none_of_tagged content)
  | tagged content first live inner ih₁ ih₂ =>
    cases second with
    | untagged untagged => exact absurd untagged (RecordField.tag?_ne_none_of_tagged content)
    | tagged content' first' live' inner' =>
      cases content.symm.trans content'
      obtain ⟨⟨⟩, rfl⟩ := ih₁ first'
      exact ih₂ inner'
    | stopped content' first' | dangling content' first' =>
      cases content.symm.trans content'
      obtain ⟨same, rfl⟩ := ih₁ first'
      simp_all
  | stopped content first ih | dangling content first dead ih =>
    cases second with
    | untagged untagged => exact absurd untagged (RecordField.tag?_ne_none_of_tagged content)
    | tagged content' first' | stopped content' first' | dangling content' first' =>
      cases content.symm.trans content'
      obtain ⟨same, rfl⟩ := ih first'
      simp_all

/-! ## Calls on the way -/

/-- `Makes U call e inner start`: on its way from `e` the call makes the call `inner` on `start`.
Every call makes itself. -/
inductive Call.Makes (U : Universe n) : Call n → Encoder n → Call n → Encoder n → Prop
  | self {call e} : Makes U call e call e
  | pointee {shape pointee e inner start} (makes : Makes U (.resolve pointee) e inner start) :
      Makes U (.resolve (.pointer shape pointee)) e inner start
  | build {type e inner start} (plain : type.isPointer = false)
      (miss : e.cache.lookup U type = none) (makes : Makes U (.build type) e inner start) :
      Makes U (.resolve type) e inner start
  | item {type item e inner start} (free : (e.hooksOf U type).typeProvider = none)
      (listed : type.item? = some item)
      (makes : Makes U (.resolve item) ((e.note (.resolving (U.path type))).meet U type)
        inner start) :
      Makes U (.build type) e inner start
  | object {type e inner start} (free : (e.hooksOf U type).typeProvider = none)
      (struct : U.isStruct type)
      (makes : Makes U (.object type []) ((e.note (.resolving (U.path type))).meet U type)
        inner start) :
      Makes U (.build type) e inner start
  | walk {type options e object fields inner start} (miss : e.cache.lookup U type = none)
      (struct : U.detail type = .struct fields)
      (made : SchemaOption.applyAllToObject options { name := objectName (U.name type) } =
        .ok object)
      (makes : Makes U (.walk e.arena.nextId (U.path type) fields) (e.begin U type object)
        inner start) :
      Makes U (.object type options) e inner start
  | skip {id path} {field : RecordField n} {rest e inner start} (untagged : field.tag? = none)
      (makes : Makes U (.walk id path rest) e inner start) :
      Makes U (.walk id path (field :: rest)) e inner start
  | field {id path} {field : RecordField n} {text type rest e inner start}
      (content : field.content = .tagged text type)
      (makes : Makes U (.resolve type) e inner start) :
      Makes U (.walk id path (field :: rest)) e inner start
  | next {id path} {field : RecordField n} {text type rest e resolved e₁ inner start}
      (content : field.content = .tagged text type)
      (first : Course U (.resolve type) e (.ok resolved) e₁)
      (live : e₁.arena.contains id)
      (makes : Makes U (.walk id path rest)
        (e₁.expose U id path field.name (.parse text) type resolved) inner start) :
      Makes U (.walk id path (field :: rest)) e inner start

end RecordSchema
