import RecordSchema.Proofs.Budget
import RecordSchema.Proofs.Permanence

/-!
# A request for an object begins one or changes nothing

The building of an object looks at four things in turn: what is cached for the type, whether the
cached object has failed, whether the type is a struct, and whether every option is a description.
Each of them can end the request, and then the encoder is as it was, even if some options had been
applied already, since they were applied to an object that nobody has seen yet.

Otherwise an object is begun.  It stands in arena and cache before the first field is looked at, and
at every moment of the walk over the fields, however deep the builds are nested
(`Call.Makes.upholds`): the key of the struct leads to it, and it has the name and the description
that it was begun with.
-/

namespace RecordSchema

variable {n : Nat}

open Encoder

/-! ## Options of an object -/

namespace SchemaOption

/-- The text of a description. -/
def description? : SchemaOption n → Option String
  | .description text => some text
  | _ => none

/-- The text of the last description among options. -/
def lastDescription? (options : List (SchemaOption n)) : Option String :=
  (options.filterMap description?).getLast?

/-- Descriptions can be applied to an object, and the last one is kept. -/
theorem applyAllToObject_of_descriptions {options : List (SchemaOption n)}
    (described : ∀ option ∈ options, option.description?.isSome) (object : ObjectType) :
    applyAllToObject options object =
      .ok { object with description := (lastDescription? options).or object.description } := by
  induction options generalizing object with
  | nil => rfl
  | cons option rest ih =>
    rw [List.forall_mem_cons] at described
    change (option.applyToObject object).bind (applyAllToObject rest) = _
    cases option with
    | description text =>
      change applyAllToObject rest { object with description := some text } = _
      have first : (description text :: rest).filterMap description? =
          text :: rest.filterMap description? := rfl
      rw [ih described.2, lastDescription?, lastDescription?, first, List.getLast?_cons]
      cases (rest.filterMap description?).getLast? <;> rfl
    | defaultValue | deprecationReason | resolver | type | arguments => cases described.1

/-- Any other option is refused, whatever was applied before it. -/
theorem applyAllToObject_of_other {options : List (SchemaOption n)} {other : SchemaOption n}
    (listed : other ∈ options) (noDescription : other.description? = none) (object : ObjectType) :
    applyAllToObject options object = .error (.notSupported "Object") := by
  induction options generalizing object with
  | nil => cases listed
  | cons option rest ih =>
    change (option.applyToObject object).bind (applyAllToObject rest) = _
    cases option with
    | description text =>
      rcases List.mem_cons.1 listed with rfl | later
      · cases noDescription
      · exact ih later { object with description := some text }
    | defaultValue | deprecationReason | resolver | type | arguments => rfl

end SchemaOption

/-! ## Names and descriptions of objects -/

/-- What an object has from its beginning: its name and its description. -/
def ObjectType.heading (object : ObjectType) : String × Option String :=
  (object.name, object.description)

namespace Encoder

/-- All that `e` stores is in `e'` too, and its objects have the same names and descriptions. -/
structure Upholds (e e' : Encoder n) : Prop where
  keeps : Keeps 0 e e'
  headings : ∀ id, e.arena.contains id →
    (e'.arena.get? id).map ObjectType.heading = (e.arena.get? id).map ObjectType.heading

namespace Upholds

variable {U : Universe n} {m : Nat} {e e₁ e' : Encoder n}

/-- A change that leaves the arena alone. -/
theorem of_arena (kept : Keeps m e e') (arena : e'.arena = e.arena) : Upholds e e' where
  keeps := kept.mono (Nat.zero_le m)
  headings id _ := by rw [arena]

theorem refl (e : Encoder n) : Upholds e e := of_arena (Keeps.refl 0 e) rfl

theorem trans (first : Upholds e e₁) (second : Upholds e₁ e') : Upholds e e' where
  keeps := first.keeps.trans second.keeps
  headings id live :=
    (second.headings id (first.keeps.live live)).trans (first.headings id live)

theorem note (e : Encoder n) (event : Event n) : Upholds e (e.note event) :=
  of_arena (keeps_note 0 e event) rfl

theorem met (U : Universe n) (e : Encoder n) (path : String) (type : TypeExpr n) :
    Upholds e ((e.note (.resolving path)).meet U type) :=
  (note e _).trans (of_arena (keeps_meet U 0 _ type) rfl)

theorem begin {struct : TypeExpr n} (miss : e.cache.lookup U struct = none) (object : ObjectType) :
    Upholds e (e.begin U struct object) where
  keeps := (keeps_begin U e miss object).mono (Nat.zero_le _)
  headings id live := by rw [begin_arena, Arena.get?_insert_of_contains object live]

theorem expose (U : Universe n) (e : Encoder n) (id : ObjectId) (structPath fieldName : String)
    (tag : FieldTag) (type : TypeExpr n) (resolved : SchemaType) :
    Upholds e (e.expose U id structPath fieldName tag type resolved) where
  keeps := (keeps_expose U e id structPath fieldName tag type resolved).mono (Nat.zero_le _)
  headings other _ := by
    by_cases same : id = other
    · subst same
      rw [get?_expose_self, Option.map_map]
      rfl
    · rw [get?_expose_of_ne U e id structPath fieldName tag type resolved same]

end Upholds

end Encoder

section Courses

variable {U : Universe n} {call : Call n} {e e' : Encoder n}

/-- A build changes neither the name nor the description of an object. -/
theorem Course.upholds {result : Except EncodeError SchemaType}
    (course : Course U call e result e') : Upholds e e' := by
  induction course with
  | pointer inner ih => exact ih
  | recorded | objectRecorded | notStruct | notSupported | done => exact .refl _
  | recalled | objectRecalled | notAnObject => exact .note _ _
  | resolved plain miss inner ih =>
    exact ⟨ih.keeps.store miss _, ih.headings⟩
  | refused plain miss inner ih => exact ih
  | provided | scalar | unrecognized => exact .met U _ _ _
  | list free other listed inner ih | struct free other struct inner ih =>
    exact (Upholds.met U _ _ _).trans ih
  | @begun type options e object fields result e' miss struct made inner ih =>
    exact ((Upholds.begin miss object).trans ih).trans
      (.of_arena (keeps_close 0 e' _ _ _) (close_arena _ _ _ _))
  | untagged untagged inner ih => exact ih
  | tagged content first live inner ih₁ ih₂ =>
    exact (ih₁.trans (.expose U _ _ _ _ _ _ _)).trans ih₂
  | @dangling id path field text type rest e resolved e₁ content first dead ih =>
    refine ih.trans (Upholds.trans ?_ (.of_arena (keeps_meet U 0 _ _) rfl))
    unfold warn
    split
    · exact .note _ _
    · exact .refl _
  | stopped content first ih => exact ih

/-- So it is at every moment of a build. -/
theorem Call.Makes.upholds {inner : Call n} {moment : Encoder n}
    (makes : call.Makes U e inner moment) : Upholds e moment := by
  induction makes with
  | self => exact .refl _
  | pointee makes ih | build plain miss makes ih | skip untagged makes ih
  | field content makes ih => exact ih
  | item free listed makes ih | object free struct makes ih =>
    exact (Upholds.met U _ _ _).trans ih
  | walk miss struct made makes ih => exact (Upholds.begin miss _).trans ih
  | next content first live makes ih =>
    exact (first.upholds.trans (.expose U _ _ _ _ _ _ _)).trans ih

end Courses

/-! ## Requests for objects -/

/-- The request begins an object for a struct: the object stands in arena and cache, under the key
of the struct, before its fields are walked over, and stays there at every moment of the walk and
whatever the walk ends with.  No other object is begun under this key. -/
structure Encoder.Begins (U : Universe n) (e : Encoder n) (struct : TypeExpr n)
    (description : Option String) (result : Except EncodeError ObjectId) (e' : Encoder n) :
    Prop where
  walked : ∃ fields started, U.detail struct = .struct fields ∧
    started.arena = e.arena.insert { name := objectName (U.name struct), description } ∧
    started.cache = e.cache.register U struct (.object e.arena.nextId) ∧
    started.registry = e.registry ∧
    started.building = e.building ++ [e.arena.nextId] ∧
    (∃ ended e₁,
      (Build.populate U (resolveType U) e.arena.nextId (U.path struct) fields).outcome started =
        some (ended, e₁) ∧
      result = ended.map (fun _ => e.arena.nextId) ∧
      e' = e₁.close e.building.isEmpty (U.path struct) ended) ∧
    ∀ inner moment,
      (Call.walk e.arena.nextId (U.path struct) fields).Makes U started inner moment →
        moment.cache.lookup U struct = some (.object e.arena.nextId) ∧
        (moment.arena.get? e.arena.nextId).map ObjectType.heading =
          some (objectName (U.name struct), description)
  known : e'.cache.lookup U struct = some (.object e.arena.nextId)
  heading : (e'.arena.get? e.arena.nextId).map ObjectType.heading =
    some (objectName (U.name struct), description)
  alone : ∃ nested, e'.begun = e.begun ++ struct :: nested ∧
    ∀ other ∈ nested, e.cache.key U other ≠ e.cache.key U struct

section Requests

variable {U : Universe n} {e e' : Encoder n} {type : TypeExpr n}
  {options : List (SchemaOption n)}

/-- Whatever the walk over the fields ends with, the object was begun. -/
theorem structOfInfo_begins {fields : List (RecordField n)} {result : Except EncodeError ObjectId}
    (miss : e.cache.lookup U type = none)
    (detail : U.detail type.withoutPointers = .struct fields)
    (described : ∀ option ∈ options, option.description?.isSome)
    (run : (structOfInfo U type options).outcome e = some (result, e')) :
    e.Begins U type.withoutPointers (SchemaOption.lastDescription? options) result e' := by
  set struct := type.withoutPointers with stripped
  set object : ObjectType :=
    { name := objectName (U.name struct), description := SchemaOption.lastDescription? options }
    with begins
  have unknown : e.cache.lookup U struct = none := by
    rwa [stripped, TypeCache.lookup_withoutPointers]
  have made : SchemaOption.applyAllToObject options { name := objectName (U.name struct) } =
      .ok object := by
    rw [SchemaOption.applyAllToObject_of_descriptions described, begins, Option.or_none]
  have course := course_object run
  have upheld : ∀ {moment : Encoder n}, Upholds (e.begin U struct object) moment →
      moment.cache.lookup U struct = some (.object e.arena.nextId) ∧
        (moment.arena.get? e.arena.nextId).map ObjectType.heading =
          some (objectName (U.name struct), SchemaOption.lastDescription? options) := by
    intro moment upholds
    have inserted := Arena.get?_insert_nextId e.arena object
    refine ⟨upholds.keeps.lookup (TypeCache.lookup_register_self U e.cache struct _), ?_⟩
    rw [upholds.headings _ (Arena.contains_of_get? inserted), begin_arena, inserted]
    rfl
  rw [structOfInfo_eq_objectWith, ← stripped,
    Build.outcome_objectWith_of_begun U _ unknown detail made] at run
  obtain ⟨⟨ended, e₁⟩, walk, same⟩ := Option.map_eq_some_iff.1 run
  cases same
  have walked := course_walk (fun _ _ _ _ => course_resolve) _ _ _ walk
  have closed : Upholds e₁ (e₁.close e.building.isEmpty (U.path struct) ended) :=
    .of_arena (keeps_close 0 e₁ _ _ _) (close_arena _ _ _ _)
  obtain ⟨known, heading⟩ := upheld (walked.upholds.trans closed)
  refine ⟨⟨fields, e.begin U struct object, detail, rfl, rfl, rfl, rfl, ⟨ended, e₁, walk, rfl, rfl⟩,
    fun inner moment makes => upheld makes.upholds⟩, known, heading, ?_⟩
  obtain ⟨nested, brings⟩ := walked.brings
  refine ⟨nested, ?_, fun other listed same => ?_⟩
  · rw [close_begun, brings.begun, begin_begun, List.append_assoc, List.singleton_append]
  · have sameKey : (e.begin U struct object).cache.key U other =
        (e.begin U struct object).cache.key U struct := same
    have absent := brings.unknown other listed
    rw [TypeCache.lookup_of_key sameKey, (upheld (.refl _)).1] at absent
    cases absent

/-- **A request for an object begins one or changes nothing.**  On every encoder, with any options,
the request ends.  If the object that is cached for the type has failed, it returns the recorded
error; if another object is cached, this one, and if something else is, it says that this is no
object; a type that is no struct is refused next, and then any option but a description.  Nothing is
changed by this.  If nothing of all that holds, one object is begun, with the last description. -/
theorem Encoder.object_requests_begin_or_change_nothing (U : Universe n) (e : Encoder n)
    (type : TypeExpr n) (options : List (SchemaOption n)) :
    ∃ result e', (structOfInfo U type options).outcome e = some (result, e') ∧
      (∀ found error, e.cache.lookup U type = some found →
        e.cache.failure? found = some error → result = .error error ∧ Unchanged e e') ∧
      (∀ id, e.cache.lookup U type = some (.object id) →
        e.cache.failure? (.object id) = none → result = .ok id ∧ Unchanged e e') ∧
      (∀ found, e.cache.lookup U type = some found → e.cache.failure? found = none →
        found.object? = none →
          result = .error (.notAnObject (U.path type.withoutPointers)) ∧ Unchanged e e') ∧
      (e.cache.lookup U type = none → U.isStruct type.withoutPointers = false →
        result = .error (.notStruct (U.path type.withoutPointers)) ∧ Unchanged e e') ∧
      (e.cache.lookup U type = none → U.isStruct type.withoutPointers →
        (∃ option ∈ options, option.description? = none) →
          result = .error (.notSupported "Object") ∧ Unchanged e e') ∧
      (e.cache.lookup U type = none → U.isStruct type.withoutPointers →
        (∀ option ∈ options, option.description?.isSome) →
          e.Begins U type.withoutPointers (SchemaOption.lastDescription? options) result e') := by
  obtain ⟨result, e', run⟩ := structOfInfo_ends U type options e
  have steps := run
  rw [structOfInfo_eq_objectWith] at steps
  have bare := TypeCache.lookup_withoutPointers U e.cache type
  refine ⟨result, e', run, ?_, ?_, ?_, ?_, ?_, ?_⟩
  · intro found error hit failed
    rw [Build.outcome_objectWith_of_failed U _ (bare.trans hit) failed] at steps
    cases steps
    exact ⟨rfl, .refl e⟩
  · intro id hit sound
    rw [Build.outcome_objectWith_of_hit U _ (bare.trans hit) sound] at steps
    cases steps
    exact ⟨rfl, .note e _ rfl⟩
  · intro found hit sound other
    rw [Build.outcome_objectWith_of_hit U _ (bare.trans hit) sound, other] at steps
    cases steps
    exact ⟨rfl, .note e _ rfl⟩
  · intro miss noStruct
    rw [Build.outcome_objectWith_of_other U _ (bare.trans miss) noStruct] at steps
    cases steps
    exact ⟨rfl, .refl e⟩
  · rintro miss struct ⟨option, listed, noDescription⟩
    obtain ⟨fields, detail⟩ := U.fields_of_isStruct struct
    have refused := SchemaOption.applyAllToObject_of_other listed noDescription
      { name := objectName (U.name type.withoutPointers) }
    rw [Build.outcome_objectWith_of_refused U _ (bare.trans miss) detail refused] at steps
    cases steps
    exact ⟨rfl, .refl e⟩
  · intro miss struct described
    obtain ⟨fields, detail⟩ := U.fields_of_isStruct struct
    exact structOfInfo_begins miss detail described run

end Requests

/-- A description is applied before the second option is refused, and the encoder is as it was. -/
example : (structOfInfo Sample.types (.pointer .box Sample.node)
    [.description "A node.", .resolver .source]).outcome (.new Sample.types .bareName) =
      some (.error (.notSupported "Object"), .new Sample.types .bareName) := by
  decide +kernel

end RecordSchema
