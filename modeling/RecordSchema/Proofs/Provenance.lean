import RecordSchema.Proofs.PointerLayers

/-!
# Where a schema type comes from

A successful call marks no object as failed, and an object that it builds itself is not marked
either.  What it recalls from the cache was checked for a mark.  So if the schema type that a type
resolves to names a failed object, then it comes from a provider (`Course.unmarked_or_given`).
`Encoder.Given` says when a provider decides: below pointers and inside lists, and only as long as
nothing is cached for the types on the way.
-/

namespace RecordSchema

variable {n : Nat}

open Encoder

/-- Only objects of the arena are marked. -/
def Encoder.MarksLive (e : Encoder n) : Prop :=
  ∀ id error, e.cache.failures.get? id = some error → e.arena.contains id

/-- What is resolved for a type comes from a provider: the type is unknown to the cache, and its own
provider gives the schema type, or else that of its pointee or of its item does. -/
inductive Encoder.Given (U : Universe n) (e : Encoder n) : TypeExpr n → SchemaType → Prop
  | own {type given} (plain : type.isPointer = false) (miss : e.cache.lookup U type = none)
      (hook : (e.hooksOf U type).typeProvider = some given) : Given U e type given
  | pointee {shape pointee given} (inner : Given U e pointee given) :
      Given U e (.pointer shape pointee) given
  | item {type item given} (listed : type.item? = some item)
      (miss : e.cache.lookup U type = none) (free : (e.hooksOf U type).typeProvider = none)
      (inner : Given U e item given) : Given U e type (.list given)

section Marks

variable {U : Universe n} {call : Call n} {e e₁ e' : Encoder n} {type : TypeExpr n}
  {resolved : SchemaType}

namespace TypeCache

theorem failure?_congr {cache cache' : TypeCache} (same : cache'.failures = cache.failures)
    (found : SchemaType) : cache'.failure? found = cache.failure? found := by
  unfold failure?
  rw [same]

/-- The mark of a field does not change which object its type names. -/
theorem failure?_taggedType (cache : TypeCache) (tag : FieldTag) (found : SchemaType) :
    cache.failure? (taggedType tag found) = cache.failure? found := by
  unfold failure? taggedType SchemaType.namedObject?
  split
  · rw [SchemaType.named_required]
  · rfl

end TypeCache

/-- A call that succeeds marks nothing. -/
theorem Course.failures (course : Course U call e (.ok resolved) e') :
    e'.cache.failures = e.cache.failures := by
  generalize ok : (Except.ok resolved : Except EncodeError SchemaType) = result at course
  induction course generalizing resolved with
  | recorded | refused | unrecognized | objectRecorded | notAnObject | notStruct | notSupported
  | stopped | dangling => cases ok
  | recalled | provided | scalar | objectRecalled | done => rfl
  | pointer inner ih | resolved plain miss inner ih | struct free other struct inner ih
  | untagged untagged inner ih => exact ih ok
  | @list type item e result e' free other listed inner ih =>
    cases result with
    | error error => cases ok
    | ok item => exact ih rfl
  | @begun type options e object fields result e' miss struct made inner ih =>
    subst ok
    rw [← show (e.begin U type object).cache.failures = e.cache.failures from rfl, ← ih rfl]
    cases e.building.isEmpty <;> rfl
  | tagged content first live inner ih₁ ih₂ => rw [ih₂ ok, expose_cache, ih₁ rfl]

theorem Encoder.MarksLive.congr (live : e.MarksLive)
    (failures : e'.cache.failures = e.cache.failures) (grown : e.arena.size ≤ e'.arena.size) :
    e'.MarksLive := by
  intro id error mark
  rw [failures] at mark
  have before := live id error mark
  rw [Arena.contains_iff] at before ⊢
  exact ⟨before.1, before.2.trans grown⟩

/-- After a success, still only objects of the arena are marked. -/
theorem Course.marksLive (course : Course U call e (.ok resolved) e') (live : e.MarksLive) :
    e'.MarksLive :=
  live.congr course.failures course.keeps.size

/-- The next object is not marked. -/
theorem Encoder.MarksLive.unmarked_nextId (live : e.MarksLive) :
    e.cache.failures.get? e.arena.nextId = none := by
  cases mark : e.cache.failures.get? e.arena.nextId with
  | none => rfl
  | some error =>
    have inside := ((Arena.contains_iff _ _).1 (live _ error mark)).2
    rw [Arena.number_nextId] at inside
    omega

/-- The object of a type is looked up with its mark, or is new. -/
theorem Course.unmarked_of_object {options : List (SchemaOption n)}
    (course : Course U (.object type options) e (.ok resolved) e') (live : e.MarksLive) :
    e'.cache.failure? resolved = none := by
  rw [TypeCache.failure?_congr course.failures]
  cases course with
  | objectRecalled hit sound => exact sound
  | begun miss struct made inner =>
    rw [inner.eq_object_of_walk]
    exact live.unmarked_nextId

/-! ## What providers give -/

/-- A provider that decides on an encoder decided wherever less was cached. -/
theorem Encoder.Given.anti {given : SchemaType} (h : e₁.Given U type given)
    (less : ∀ type, e₁.cache.lookup U type = none → e.cache.lookup U type = none)
    (hooks : ∀ type, e₁.hooksOf U type = e.hooksOf U type) : e.Given U type given := by
  induction h with
  | own plain miss hook => exact .own plain (less _ miss) (by rw [← hooks, hook])
  | pointee inner ih => exact .pointee ih
  | item listed miss free inner ih => exact .item listed (less _ miss) (by rw [← hooks, free]) ih

/-- Below pointers the same is given. -/
theorem Encoder.Given.of_withoutPointers {given : SchemaType}
    (h : e.Given U type.withoutPointers given) : e.Given U type given := by
  induction type with
  | pointer shape pointee ih => exact .pointee (ih h)
  | native | declared | list | array | map => exact h

/-- What is given names no failed object if no provider names one. -/
theorem Encoder.Given.unmarked {given : SchemaType} (h : e.Given U type given)
    (provided : ∀ type given, (e.hooksOf U type).typeProvider = some given →
      e.cache.failure? given = none) : e.cache.failure? given = none := by
  induction h with
  | own plain miss hook => exact provided _ _ hook
  | pointee inner ih => exact ih
  | item listed miss free inner ih => exact ih

/-- What is built for an unknown type names no failed object, unless a provider gives it, if this
holds of the item of a list. -/
theorem Course.build_unmarked_or_given (course : Course U (.build type) e (.ok resolved) e')
    (live : e.MarksLive) (plain : type.isPointer = false) (miss : e.cache.lookup U type = none)
    (items : ∀ item, type.item? = some item → ∀ (e e' : Encoder n) (resolved : SchemaType),
      Course U (.resolve item) e (.ok resolved) e' → e.MarksLive →
        e'.cache.failure? resolved = none ∨ e.Given U item resolved) :
    e'.cache.failure? resolved = none ∨ e.Given U type resolved := by
  generalize built : (Except.ok resolved : Except EncodeError SchemaType) = result at course
  cases course with
  | provided hook =>
    cases built
    exact .inr (.own plain miss hook)
  | scalar =>
    cases built
    exact .inl rfl
  | @list _ item _ result _ free other listed inner =>
    cases result with
    | error error => cases built
    | ok resolved =>
      cases built
      refine (items item listed _ _ _ inner live).imp id fun given => .item listed miss free ?_
      exact given.anti (fun _ miss => miss) fun _ => hooksOf_of_met U rfl _
  | struct free other struct object =>
    subst built
    exact .inl (object.unmarked_of_object live)
  | unrecognized => cases built

/-- A type that resolves names no failed object, unless a provider gives it. -/
theorem Course.unmarked_or_given (course : Course U (.resolve type) e (.ok resolved) e')
    (live : e.MarksLive) : e'.cache.failure? resolved = none ∨ e.Given U type resolved := by
  induction type using TypeExpr.layer_induction generalizing e e' resolved with
  | pointer shape pointee ih =>
    cases course with
    | pointer inner => exact (ih inner live).imp_right .pointee
    | recalled plain | resolved plain => cases plain
  | named type named =>
    cases course with
    | pointer => cases named
    | recalled plain hit sound => exact .inl sound
    | resolved plain miss inner =>
      refine inner.build_unmarked_or_given live plain miss fun item listed => ?_
      rw [TypeExpr.item?_eq_none_of_named named] at listed
      cases listed
  | listed type item listed ih =>
    cases course with
    | pointer => cases listed
    | recalled plain hit sound => exact .inl sound
    | resolved plain miss inner =>
      refine inner.build_unmarked_or_given live plain miss fun item' listed' => ?_
      cases listed.symm.trans listed'
      exact fun e e' resolved course live => ih course live

end Marks

end RecordSchema
