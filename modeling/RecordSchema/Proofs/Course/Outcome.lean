import RecordSchema.Proofs.Course

/-!
# Outcomes of the builder are courses

What holds of every course holds of every build: `course_object`, `course_resolve` and
`course_build` say that an outcome of the builder is one that the rules of `Course` allow.  Before
them stands one equation for each step of the builder, which gives its outcome by plain operations
on the encoder.  The bound on the nesting of objects does not matter here, since it takes outcomes
away and adds none.
-/

namespace RecordSchema

variable {n : Nat}

/-! ## Outcomes of the steps -/

theorem Universe.isStruct_of_detail {U : Universe n} {type : TypeExpr n}
    {fields : List (RecordField n)} (struct : U.detail type = .struct fields) :
    U.isStruct type := by
  simp [Universe.isStruct, struct, Detail.kind]

theorem Universe.struct_or_not (U : Universe n) (type : TypeExpr n) :
    (∃ fields, U.detail type = .struct fields) ∨ U.isStruct type = false := by
  unfold isStruct
  cases U.detail type with
  | struct fields => exact .inl ⟨fields, rfl⟩
  | primitive | list | array | pointer | map | closed | dynamic => exact .inr rfl

theorem Universe.fields_of_isStruct (U : Universe n) {type : TypeExpr n}
    (struct : U.isStruct type) :
    ∃ fields, U.detail type = .struct fields := by
  rcases U.struct_or_not type with fields | noStruct
  · exact fields
  · rw [struct] at noStruct
    cases noStruct

@[simp] theorem Encoder.close_map {α β : Type} (e : Encoder n) (outermost : Bool) (path : String)
    (f : α → β) (result : Except EncodeError α) :
    e.close outermost path (result.map f) = e.close outermost path result := by
  cases outermost <;> cases result <;> rfl

namespace Build

variable (U : Universe n) {α β : Type}

theorem outcome_note (event : Event n) (e : Encoder n) :
    (note event).outcome e = some (.ok (), e.note event) := rfl

theorem outcome_hooksOf (type : TypeExpr n) (e : Encoder n) :
    (hooksOf U type).outcome e = some (.ok (e.hooksOf U type), e.meet U type) := rfl

theorem outcome_map (f : α → β) (step : Build n α) (e : Encoder n) :
    (f <$> step).outcome e = (step.outcome e).map fun r => (r.1.map f, r.2) := by
  rw [← bind_pure_comp, outcome_bind]
  cases step.outcome e with
  | none => rfl
  | some r => obtain ⟨_ | a, e⟩ := r <;> rfl

theorem outcome_map_error {step : Build n α} {e e' : Encoder n} {error : EncodeError}
    (run : step.outcome e = some (.error error, e')) (f : α → β) :
    (f <$> step).outcome e = some (.error error, e') := by
  rw [outcome_map, run]
  rfl

theorem outcome_adapt (f : EncodeError → EncodeError) (step : Build n α) (e : Encoder n) :
    Build.outcome (ExceptT.adapt f step) e =
      (step.outcome e).map fun r => (r.1.mapError f, r.2) := by
  change ((step.run).run e).bind _ = ((step.run).run e).map _
  cases (step.run).run e <;> rfl

theorem outcome_ofExcept (r : Except EncodeError α) (e : Encoder n) :
    (ofExcept r : Build n α).outcome e = some (r, e) := by
  cases r <;> rfl

theorem outcome_cached (type : TypeExpr n) (e : Encoder n) :
    (cached U type).outcome e = some
      (match e.cache.lookup U type with
        | none => .ok none
        | some found =>
          match e.cache.failure? found with
          | some error => .error error
          | none => .ok (some found), e) := by
  unfold cached
  rw [outcome_bind_ok (outcome_get e)]
  cases hit : e.cache.lookup U type with
  | none => simp [hit]
  | some found => cases failed : e.cache.failure? found <;> simp [hit, failed]

/-- What the cache does not know is built, and then cached if that succeeds. -/
theorem outcome_recalled_of_miss {type : TypeExpr n} {e : Encoder n}
    (miss : e.cache.lookup U type = none) (build : Build n SchemaType) :
    (recalled U type build).outcome e = (build.outcome e).map fun r =>
      (r.1, match r.1 with | .ok built => r.2.store U type built | .error _ => r.2) := by
  unfold recalled
  have known : (cached U type).outcome e = some (.ok none, e) := by simp [outcome_cached, miss]
  rw [outcome_bind_ok known, outcome_bind]
  cases build.outcome e with
  | none => rfl
  | some r => obtain ⟨_ | built, e⟩ := r <;> rfl

theorem outcome_recalled_of_hit {type : TypeExpr n} {e : Encoder n} {found : SchemaType}
    (hit : e.cache.lookup U type = some found) (sound : e.cache.failure? found = none)
    (build : Build n SchemaType) :
    (recalled U type build).outcome e =
      some (.ok found, e.note (.typeCacheHit (U.path type))) := by
  unfold recalled
  have known : (cached U type).outcome e = some (.ok (some found), e) := by
    simp [outcome_cached, hit, sound]
  rw [outcome_bind_ok known]
  rfl

theorem outcome_recalled_of_failed {type : TypeExpr n} {e : Encoder n} {found : SchemaType}
    {error : EncodeError} (hit : e.cache.lookup U type = some found)
    (failed : e.cache.failure? found = some error) (build : Build n SchemaType) :
    (recalled U type build).outcome e = some (.error error, e) := by
  unfold recalled
  have known : (cached U type).outcome e = some (.error error, e) := by
    simp [outcome_cached, hit, failed]
  exact outcome_bind_error known _

theorem outcome_buildBy (type : TypeExpr n) (structural : Build n SchemaType) (e : Encoder n) :
    (buildBy U type structural).outcome e =
      match (e.hooksOf U type).typeProvider with
      | some given => some (.ok given, (e.note (.resolving (U.path type))).meet U type)
      | none =>
        match (U.info type).scalar? with
        | some leaf => some (.ok (.scalar leaf), (e.note (.resolving (U.path type))).meet U type)
        | none => structural.outcome ((e.note (.resolving (U.path type))).meet U type) := by
  unfold buildBy
  rw [outcome_bind_ok (outcome_note _ e), outcome_bind_ok (outcome_hooksOf U type _),
    Encoder.hooksOf_note]
  cases (e.hooksOf U type).typeProvider with
  | some given => rfl
  | none => cases (U.info type).scalar? <;> rfl

/-- The walk over a field without a tag does nothing. -/
theorem populateField_of_untagged (resolve : TypeExpr n → Build n SchemaType) (id : ObjectId)
    (structPath : String) {field : RecordField n} (untagged : field.tag? = none) :
    populateField U resolve id structPath field = pure () := by
  unfold populateField
  unfold RecordField.tag? at untagged
  split
  · next content => simp [content] at untagged
  · rfl

theorem outcome_tagged (resolve : TypeExpr n → Build n SchemaType) (type : TypeExpr n)
    (tag : FieldTag) (e : Encoder n) :
    (tagged U resolve type tag).outcome e = ((resolve type).outcome e).map fun r =>
      (r.1.map (Encoder.taggedType tag),
        match r.1 with | .ok resolved => r.2.warn U type tag resolved | .error _ => r.2) := by
  unfold tagged
  rw [outcome_bind]
  cases (resolve type).outcome e with
  | none => rfl
  | some r =>
    obtain ⟨error | resolved, e⟩ := r
    · rfl
    · by_cases mark : tag.nonNull <;> by_cases already : resolved.isNonNull <;>
        simp [mark, already, Encoder.taggedType, Encoder.warn, Except.map, outcome_map,
          outcome_note]

theorem outcome_addField (id : ObjectId) (structPath fieldName : String) (field : Field)
    (e : Encoder n) :
    (addField id structPath fieldName field).outcome e =
      if e.arena.contains id then some (.ok (), e.addField id structPath fieldName field)
      else some (.error (.danglingObject id), e) := by
  unfold addField
  rw [outcome_bind_ok (outcome_get e)]
  cases found : e.arena.get? id with
  | none => simp [Arena.contains, found]
  | some object =>
    simp only [Arena.contains, found, Option.isSome_some, if_true]
    rw [outcome_bind_ok (outcome_modify _ e)]
    by_cases replaced : (object.addField field.name field).1.isSome
    · simp [replaced, Encoder.addField, found, outcome_note]
    · simp [replaced, Encoder.addField, found]

section FieldType

variable {resolve : TypeExpr n → Build n SchemaType} {type : TypeExpr n} {tag : FieldTag}
  {structPath fieldName : String} {e e' : Encoder n}

theorem outcome_fieldType_ok {resolved : SchemaType}
    (run : (resolve type).outcome e = some (.ok resolved, e')) :
    (fieldType U resolve structPath fieldName tag type).outcome e =
      some (.ok (Encoder.taggedType tag resolved), e'.warn U type tag resolved) := by
  rw [fieldType, outcome_adapt, outcome_tagged, run]
  rfl

theorem outcome_fieldType_error {error : EncodeError}
    (run : (resolve type).outcome e = some (.error error, e')) :
    (fieldType U resolve structPath fieldName tag type).outcome e =
      some (.error (error.inStruct structPath fieldName), e') := by
  rw [fieldType, outcome_adapt, outcome_tagged, run]
  rfl

end FieldType

/-- The walk over a tagged field resolves its type, looks for its resolver and exposes it. -/
theorem outcome_populateField (resolve : TypeExpr n → Build n SchemaType) (id : ObjectId)
    (structPath : String) {field : RecordField n} {text : String} {type : TypeExpr n}
    (content : field.content = .tagged text type) (e : Encoder n) :
    (populateField U resolve id structPath field).outcome e =
      ((resolve type).outcome e).map fun r =>
        match r with
        | (.error error, e) => (.error (error.inStruct structPath field.name), e)
        | (.ok resolved, e) =>
          if e.arena.contains id then
            (.ok (), e.expose U id structPath field.name (.parse text) type resolved)
          else
            (.error (.danglingObject id),
              (e.warn U type (.parse text) resolved).meet U type.withoutPointers) := by
  unfold populateField
  rw [content]
  simp only
  cases run : (resolve type).outcome e with
  | none =>
    rw [outcome_bind, fieldType, outcome_adapt, outcome_tagged, run]
    rfl
  | some r =>
    obtain ⟨error | resolved, e⟩ := r
    · exact outcome_bind_error (outcome_fieldType_error U run) _
    · rw [outcome_bind_ok (outcome_fieldType_ok U run)]
      have resolver : (resolverOf U type).outcome (e.warn U type (.parse text) resolved) =
          some (.ok (e.hooksOf U type.withoutPointers).resolverProvider,
            (e.warn U type (.parse text) resolved).meet U type.withoutPointers) := by
        unfold resolverOf
        rw [outcome_bind_ok (outcome_hooksOf U _ _)]
        unfold Encoder.warn
        split <;> rfl
      rw [outcome_bind_ok resolver, outcome_addField]
      have same : ((e.warn U type (.parse text) resolved).meet U type.withoutPointers).arena =
          e.arena := by
        unfold Encoder.warn
        split <;> rfl
      rw [same]
      simp only [Option.map_some]
      split <;> rfl

/-- The work on an object ends by closing the list of begun objects. -/
theorem outcome_whileBuilding (path : String) (id : ObjectId) (work : Build n Unit)
    (e : Encoder n) :
    (whileBuilding path id work).outcome e =
      (work.outcome { e with building := e.building ++ [id] }).map fun r =>
        (r.1, r.2.close e.building.isEmpty path r.1) := by
  unfold whileBuilding
  rw [outcome_bind_ok (outcome_get e), outcome_bind_ok (outcome_modify _ e), outcome_bind,
    outcome_attempt]
  cases work.outcome { e with building := e.building ++ [id] } with
  | none => rfl
  | some r =>
    obtain ⟨error | ⟨⟩, e₁⟩ := r <;> cases e.building.isEmpty <;> rfl

section ObjectWith

variable (resolve : TypeExpr n → Build n SchemaType) {type : TypeExpr n}
  {options : List (SchemaOption n)} {e : Encoder n}

theorem outcome_objectWith_of_failed {found : SchemaType} {error : EncodeError}
    (hit : e.cache.lookup U type = some found) (failed : e.cache.failure? found = some error) :
    (objectWith U resolve (U.info type) options).outcome e = some (.error error, e) := by
  have known : (cached U type).outcome e = some (.error error, e) := by
    simp [outcome_cached, hit, failed]
  exact outcome_bind_error known _

theorem outcome_objectWith_of_hit {found : SchemaType}
    (hit : e.cache.lookup U type = some found) (sound : e.cache.failure? found = none) :
    (objectWith U resolve (U.info type) options).outcome e =
      some (match found.object? with
        | some id => .ok id
        | none => .error (.notAnObject (U.path type)),
        e.note (.objectCacheHit (U.path type))) := by
  have known : (cached U type).outcome e = some (.ok (some found), e) := by
    simp [outcome_cached, hit, sound]
  unfold objectWith
  change Build.outcome (cached U type >>= _) e = _
  rw [outcome_bind_ok known]
  simp only
  rw [outcome_bind_ok (outcome_note _ e)]
  cases found <;> rfl

theorem outcome_objectWith_of_other (miss : e.cache.lookup U type = none)
    (noStruct : U.isStruct type = false) :
    (objectWith U resolve (U.info type) options).outcome e =
      some (.error (.notStruct (U.path type)), e) := by
  have known : (cached U type).outcome e = some (.ok none, e) := by simp [outcome_cached, miss]
  unfold objectWith
  change Build.outcome (cached U type >>= _) e = _
  rw [outcome_bind_ok known]
  unfold TypeInfo.asStruct Universe.info
  cases detail : U.detail type with
  | struct fields => simp [Universe.isStruct, detail, Detail.kind] at noStruct
  | primitive | list | array | pointer | map | closed | dynamic => rfl

theorem outcome_objectWith_of_refused {fields : List (RecordField n)} {error : EncodeError}
    (miss : e.cache.lookup U type = none) (struct : U.detail type = .struct fields)
    (made : SchemaOption.applyAllToObject options { name := objectName (U.name type) } =
      .error error) :
    (objectWith U resolve (U.info type) options).outcome e = some (.error error, e) := by
  have known : (cached U type).outcome e = some (.ok none, e) := by simp [outcome_cached, miss]
  unfold objectWith
  change Build.outcome (cached U type >>= _) e = _
  rw [outcome_bind_ok known]
  simp only [TypeInfo.asStruct, Universe.info, struct]
  rw [made]
  exact outcome_bind_error (outcome_ofExcept _ e) _

/-- A struct that the cache does not know gets a new object, whose fields are then walked. -/
theorem outcome_objectWith_of_begun {fields : List (RecordField n)} {object : ObjectType}
    (miss : e.cache.lookup U type = none) (struct : U.detail type = .struct fields)
    (made : SchemaOption.applyAllToObject options { name := objectName (U.name type) } =
      .ok object) :
    (objectWith U resolve (U.info type) options).outcome e =
      ((populate U resolve e.arena.nextId (U.path type) fields).outcome
        (e.begin U type object)).map fun r =>
          (r.1.map fun _ => e.arena.nextId, r.2.close e.building.isEmpty (U.path type) r.1) := by
  have known : (cached U type).outcome e = some (.ok none, e) := by simp [outcome_cached, miss]
  unfold objectWith
  change Build.outcome (cached U type >>= _) e = _
  rw [outcome_bind_ok known]
  simp only [TypeInfo.asStruct, Universe.info, struct]
  rw [made, outcome_bind_ok (outcome_ofExcept _ e)]
  have started : (beginObject U type object).outcome e = some (.ok e.arena.nextId,
      { e.begin U type object with building := e.building }) := rfl
  rw [outcome_bind_ok started, outcome_bind, outcome_whileBuilding]
  change Option.bind (Option.map _
    ((populate U resolve e.arena.nextId (U.path type) fields).outcome
      (e.begin U type object))) _ = _
  cases (populate U resolve e.arena.nextId (U.path type) fields).outcome
      (e.begin U type object) with
  | none => rfl
  | some r => obtain ⟨error | ⟨⟩, e₁⟩ := r <;> rfl

end ObjectWith

end Build

/-! ## Every outcome is the outcome of a course -/

section Outcomes

variable {U : Universe n}

theorem course_walk {resolve : TypeExpr n → Build n SchemaType}
    (resolves : ∀ type e result e', (resolve type).outcome e = some (result, e') →
      Course U (.resolve type) e result e')
    (id : ObjectId) (path : String) (fields : List (RecordField n)) {e e' : Encoder n}
    {result : Except EncodeError Unit}
    (run : (Build.populate U resolve id path fields).outcome e = some (result, e')) :
    Course U (.walk id path fields) e (result.map fun _ => .object id) e' := by
  induction fields generalizing e with
  | nil =>
    cases run
    exact .done
  | cons field rest ih =>
    change Build.outcome (Build.populateField U resolve id path field >>= fun _ =>
      Build.populate U resolve id path rest) e = _ at run
    cases content : field.content with
    | hidden | untagged =>
      have untagged : field.tag? = none := by simp [RecordField.tag?, content]
      rw [Build.populateField_of_untagged U resolve id path untagged, pure_bind] at run
      exact .untagged untagged (ih run)
    | tagged text type =>
      rw [Build.outcome_bind, Build.outcome_populateField U resolve id path content] at run
      cases first : (resolve type).outcome e with
      | none => simp [first] at run
      | some r =>
        obtain ⟨error | resolved, e₁⟩ := r
        · simp only [first, Option.map_some, Option.bind_some, Option.some.injEq,
            Prod.mk.injEq] at run
          obtain ⟨rfl, rfl⟩ := run
          exact .stopped content (resolves _ _ _ _ first)
        · simp only [first, Option.map_some, Option.bind_some] at run
          by_cases live : e₁.arena.contains id
          · simp only [live, if_true] at run
            exact .tagged content (resolves _ _ _ _ first) live (ih run)
          · simp only [live] at run
            cases run
            exact .dangling content (resolves _ _ _ _ first) (by simpa using live)

theorem course_objectWith {resolve : TypeExpr n → Build n SchemaType}
    (resolves : ∀ type e result e', (resolve type).outcome e = some (result, e') →
      Course U (.resolve type) e result e')
    {type : TypeExpr n} {options : List (SchemaOption n)} {e e' : Encoder n}
    {result : Except EncodeError ObjectId}
    (run : (Build.objectWith U resolve (U.info type) options).outcome e = some (result, e')) :
    Course U (.object type options) e (result.map .object) e' := by
  cases hit : e.cache.lookup U type with
  | some found =>
    cases failed : e.cache.failure? found with
    | some error =>
      rw [Build.outcome_objectWith_of_failed U resolve hit failed] at run
      cases run
      exact .objectRecorded hit failed
    | none =>
      rw [Build.outcome_objectWith_of_hit U resolve hit failed] at run
      cases found with
      | object id =>
        cases run
        exact .objectRecalled hit failed
      | scalar | list | nonNull =>
        cases run
        exact .notAnObject hit failed rfl
  | none =>
    rcases Universe.struct_or_not U type with ⟨fields, struct⟩ | noStruct
    · cases made : SchemaOption.applyAllToObject options
          { name := objectName (U.name type) } with
      | error error =>
        rw [Build.outcome_objectWith_of_refused U resolve hit struct made] at run
        cases run
        exact .notSupported hit (Universe.isStruct_of_detail struct) made
      | ok object =>
        rw [Build.outcome_objectWith_of_begun U resolve hit struct made] at run
        cases walked : (Build.populate U resolve e.arena.nextId (U.path type) fields).outcome
            (e.begin U type object) with
        | none => simp [walked] at run
        | some r =>
          obtain ⟨outcome, e₁⟩ := r
          have course := Course.begun hit struct made (course_walk resolves _ _ _ walked)
          simp only [walked, Option.map_some, Option.some.injEq, Prod.mk.injEq] at run
          obtain ⟨rfl, rfl⟩ := run
          rw [Encoder.close_map] at course
          cases outcome <;> exact course
    · rw [Build.outcome_objectWith_of_other U resolve hit noStruct] at run
      cases run
      exact .notStruct hit noStruct

theorem buildType_eq (object : TypeExpr n → Build n ObjectId) (type : TypeExpr n) :
    Build.buildType U object type = Build.buildBy U type
      (match type.item? with
        | some item => SchemaType.list <$> Build.resolve U object item
        | none =>
          if U.isStruct type then SchemaType.object <$> object type
          else Build.unrecognized U type) := by
  cases type <;> rfl

theorem isPointer_eq_false_of_struct {type : TypeExpr n} (struct : U.isStruct type) :
    type.isPointer = false := by
  cases type with
  | pointer => cases struct
  | native | declared | list | array | map => rfl

theorem isPointer_eq_false_of_item {type item : TypeExpr n} (listed : type.item? = some item) :
    type.isPointer = false := by
  cases type with
  | list | array => rfl
  | native | declared | pointer | map => cases listed

/-- Neither structs nor lists are scalars, and a struct is no list. -/
theorem scalar?_eq_none_of_struct {type : TypeExpr n} (struct : U.isStruct type) :
    (U.info type).scalar? = none := by
  obtain ⟨fields, detail⟩ := U.fields_of_isStruct struct
  cases type with
  | native type => cases type <;> cases detail
  | declared => simp [TypeInfo.scalar?, Universe.info, detail, TypeExpr.isDateTime]
  | list | array | pointer | map => cases detail

theorem scalar?_eq_none_of_item {type item : TypeExpr n} (listed : type.item? = some item) :
    (U.info type).scalar? = none := by
  cases type with
  | list | array => rfl
  | native | declared | pointer | map => cases listed

theorem item?_eq_none_of_struct {type : TypeExpr n} (struct : U.isStruct type) :
    type.item? = none := by
  cases type with
  | list | array => cases struct
  | native | declared | pointer | map => rfl

/-- A type depends on its item, and a struct on the types of its tagged fields. -/
theorem Universe.mem_dependencies_of_item (U : Universe n) {type item : TypeExpr n}
    (listed : type.item? = some item) : item ∈ U.dependencies type := by
  cases type with
  | list | array =>
    cases listed
    exact List.mem_cons_self
  | native | declared | pointer | map => cases listed

theorem Universe.mem_dependencies_of_field (U : Universe n) {type content : TypeExpr n}
    {fields : List (RecordField n)} {field : RecordField n} {text : String}
    (struct : U.detail type = .struct fields) (listed : field ∈ fields)
    (tagged : field.content = .tagged text content) : content ∈ U.dependencies type := by
  cases type with
  | native type => cases type <;> cases struct
  | declared index =>
    have own : U.fields index = fields := by
      change (U.declaration index).body.detail = _ at struct
      unfold Universe.fields
      cases declared : (U.declaration index).body with
      | struct others =>
        rw [declared] at struct
        cases struct
        rfl
      | closed | dynamic | primitive =>
        rw [declared] at struct
        cases struct
    change content ∈ U.taggedTypes index
    unfold Universe.taggedTypes
    rw [own]
    exact List.mem_filterMap.2 ⟨field, listed, by rw [tagged]⟩
  | list | array | pointer | map => cases struct

theorem course_recalled_of {type : TypeExpr n} {build : Build n SchemaType}
    (plain : type.isPointer = false)
    (builds : ∀ e result e', build.outcome e = some (result, e') →
      Course U (.build type) e result e')
    {e e' : Encoder n} {result : Except EncodeError SchemaType}
    (run : (Build.recalled U type build).outcome e = some (result, e')) :
    Course U (.resolve type) e result e' := by
  cases hit : e.cache.lookup U type with
  | some found =>
    cases failed : e.cache.failure? found with
    | some error =>
      rw [Build.outcome_recalled_of_failed U hit failed] at run
      cases run
      exact .recorded plain hit failed
    | none =>
      rw [Build.outcome_recalled_of_hit U hit failed] at run
      cases run
      exact .recalled plain hit failed
  | none =>
    rw [Build.outcome_recalled_of_miss U hit, Option.map_eq_some_iff] at run
    obtain ⟨⟨error | built, e₁⟩, inner, same⟩ := run
    · cases same
      exact .refused plain hit (builds _ _ _ inner)
    · cases same
      exact .resolved plain hit (builds _ _ _ inner)

section Recursion

variable {object : TypeExpr n → Build n ObjectId}
  (objects : ∀ type e result e', U.isStruct type →
    (object type).outcome e = some (result, e') →
      Course U (.object type []) e (result.map .object) e')

include objects

theorem course_build_of (type : TypeExpr n)
    (items : ∀ item, type.item? = some item → ∀ e result e',
      (Build.resolve U object item).outcome e = some (result, e') →
        Course U (.resolve item) e result e')
    {e e' : Encoder n} {result : Except EncodeError SchemaType}
    (run : (Build.buildType U object type).outcome e = some (result, e')) :
    Course U (.build type) e result e' := by
  rw [buildType_eq, Build.outcome_buildBy] at run
  cases hook : (e.hooksOf U type).typeProvider with
  | some given =>
    simp only [hook, Option.some.injEq, Prod.mk.injEq] at run
    obtain ⟨rfl, rfl⟩ := run
    exact .provided hook
  | none =>
    cases native : (U.info type).scalar? with
    | some leaf =>
      simp only [hook, native, Option.some.injEq, Prod.mk.injEq] at run
      obtain ⟨rfl, rfl⟩ := run
      exact .scalar hook native
    | none =>
      simp only [hook, native] at run
      cases listed : type.item? with
      | some item =>
        simp only [listed, Build.outcome_map, Option.map_eq_some_iff, Prod.mk.injEq] at run
        obtain ⟨⟨outcome, e₁⟩, inner, rfl, rfl⟩ := run
        exact .list hook native listed (items item listed _ _ _ inner)
      | none =>
        cases struct : U.isStruct type with
        | true =>
          simp only [listed, struct, if_true, Build.outcome_map, Option.map_eq_some_iff,
            Prod.mk.injEq] at run
          obtain ⟨⟨outcome, e₁⟩, inner, rfl, rfl⟩ := run
          exact .struct hook native struct (objects type _ _ _ struct inner)
        | false =>
          simp only [listed, struct] at run
          cases run
          exact .unrecognized hook native listed struct

/-- Resolving takes the course of the rules if the building of objects does. -/
theorem course_resolve_of (type : TypeExpr n) {e e' : Encoder n}
    {result : Except EncodeError SchemaType}
    (run : (Build.resolve U object type).outcome e = some (result, e')) :
    Course U (.resolve type) e result e' := by
  induction type generalizing e result e' with
  | pointer shape pointee ih => exact .pointer (ih run)
  | list shape item ih =>
    refine course_recalled_of rfl (fun e₁ r e₂ inner => ?_) run
    refine course_build_of objects (.list shape item) (fun item' same => ?_) inner
    cases same
    exact fun _ _ _ => ih
  | array item length ih =>
    refine course_recalled_of rfl (fun e₁ r e₂ inner => ?_) run
    refine course_build_of objects (.array item length) (fun item' same => ?_) inner
    cases same
    exact fun _ _ _ => ih
  | native | declared | map =>
    refine course_recalled_of rfl (fun e₁ r e₂ inner => ?_) run
    exact course_build_of objects _ (fun _ same => by cases same) inner

end Recursion

theorem Universe.withoutPointers_info (U : Universe n) (type : TypeExpr n) :
    (U.info type).withoutPointers U = U.info type.withoutPointers := by
  have pointed : ∀ type : TypeExpr n, U.pointedInfo type = U.info type.withoutPointers := by
    intro type
    induction type with
    | pointer shape pointee ih => exact ih
    | native | declared | list | array | map => rfl
  cases type with
  | pointer shape pointee => exact pointed pointee
  | native type => cases type <;> rfl
  | declared index =>
    unfold TypeInfo.withoutPointers info
    simp only [detail, TypeExpr.withoutPointers]
    cases (U.declaration index).body <;> rfl
  | list | array | map => rfl

/-- The building of an object takes the course of the rules, whatever the bound on the nesting. -/
theorem course_objectAt (depth : Nat) (type : TypeExpr n) (options : List (SchemaOption n))
    {e e' : Encoder n} {result : Except EncodeError ObjectId}
    (run : (Build.objectAt U depth type options).outcome e = some (result, e')) :
    Course U (.object type.withoutPointers options) e (result.map .object) e' := by
  induction depth generalizing type options e e' result with
  | zero =>
    unfold Build.objectAt at run
    rw [Universe.withoutPointers_info] at run
    exact course_objectWith (fun _ _ _ _ exhausted => by cases exhausted) run
  | succ depth ih =>
    unfold Build.objectAt at run
    rw [Universe.withoutPointers_info] at run
    refine course_objectWith (fun type e result e' inner => ?_) run
    refine course_resolve_of (fun type e result e' struct built => ?_) type inner
    have course := ih type [] built
    rwa [TypeExpr.withoutPointers_eq_self (isPointer_eq_false_of_struct struct)] at course

/-- The building of an object takes the course of the rules. -/
theorem course_object {type : TypeExpr n} {options : List (SchemaOption n)} {e e' : Encoder n}
    {result : Except EncodeError ObjectId}
    (run : (Encoder.structOfInfo U type options).outcome e = some (result, e')) :
    Course U (.object type.withoutPointers options) e (result.map .object) e' :=
  course_objectAt n type options run

theorem course_structOfInfo {type : TypeExpr n} {e e' : Encoder n}
    {result : Except EncodeError ObjectId} (struct : U.isStruct type)
    (run : (Encoder.structOfInfo U type []).outcome e = some (result, e')) :
    Course U (.object type []) e (result.map .object) e' := by
  have course := course_object run
  rwa [TypeExpr.withoutPointers_eq_self (isPointer_eq_false_of_struct struct)] at course

/-- Resolving takes the course of the rules. -/
theorem course_resolve {type : TypeExpr n} {e e' : Encoder n}
    {result : Except EncodeError SchemaType}
    (run : (Encoder.resolveType U type).outcome e = some (result, e')) :
    Course U (.resolve type) e result e' :=
  course_resolve_of (fun _ _ _ _ struct built => course_structOfInfo struct built) type run

/-- Building past the cache takes the course of the rules. -/
theorem course_build {type : TypeExpr n} {e e' : Encoder n}
    {result : Except EncodeError SchemaType}
    (run : (Build.buildType U (fun type => Encoder.structOfInfo U type []) type).outcome e =
      some (result, e')) :
    Course U (.build type) e result e' :=
  course_build_of (fun _ _ _ _ struct built => course_structOfInfo struct built) type
    (fun _ _ _ _ _ resolved => course_resolve resolved) run

end Outcomes

end RecordSchema
