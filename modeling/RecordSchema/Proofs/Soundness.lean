import RecordSchema.Proofs.ProvidedTypes

/-!
# Usable handles lead to complete objects

Objects are handed out before they are populated, so while objects are in progress a finished one
may point at an unfinished one.  `Sound` is the invariant that holds all the same, in the middle of
a build and of its failure: an object that is not marked links to such objects only, and is
populated unless it is in progress.  Between builds nothing is in progress, and what is left of
`Sound` is the promise of the encoder: every object that is not marked is populated and links only
to its like, and so does every answer (`usable_objects_are_complete`).

The promise needs that no hook provides a handle, for nobody checks the handles that hooks make up.
-/

namespace RecordSchema

variable {n : Nat}

/-- Options change neither the name nor the fields of an object. -/
theorem SchemaOption.fields_of_applyAllToObject {options : List (SchemaOption n)}
    {start object : ObjectType} (made : applyAllToObject options start = .ok object) :
    object.fields = start.fields ∧ object.name = start.name := by
  induction options generalizing start with
  | nil =>
    cases made
    exact ⟨rfl, rfl⟩
  | cons option rest ih =>
    change (option.applyToObject start).bind (applyAllToObject rest) = _ at made
    cases option with
    | description text => exact @ih { start with description := some text } made
    | defaultValue | deprecationReason | resolver | type | arguments => cases made

/-! ## Usable, populated and complete objects -/

namespace Encoder

/-- A handle of an object that could be built. -/
structure Usable (e : Encoder n) (id : ObjectId) : Prop where
  live : e.arena.contains id
  unmarked : e.cache.failures.get? id = none

/-- The walk over the tagged fields of the struct that an object was begun for is finished: the
object is named after the struct and exposes every name of the struct, and no other. -/
def Populated (U : Universe n) (e : Encoder n) (id : ObjectId) : Prop :=
  ∃ struct fields object, e.struct? id = some struct ∧ U.detail struct = .struct fields ∧
    e.arena.get? id = some object ∧ object.name = objectName (U.name struct) ∧
      object.fields.names = exposedNames fields

/-- An object whose fields name usable objects only. -/
def Linked (e : Encoder n) (id : ObjectId) : Prop :=
  ∀ object, e.arena.get? id = some object →
    ∀ field ∈ object.fields.values, ∀ target ∈ field.handles, e.Usable target

/-- No hook that the encoder finds provides a type that names a handle. -/
def HandleFree (U : Universe n) (e : Encoder n) : Prop :=
  ∀ type given, (e.hooksOf U type).typeProvider = some given → given.handles = []

/-- What holds of the objects at any time. -/
structure Sound (U : Universe n) (e : Encoder n) : Prop extends Tidy e where
  entries : ∀ key found, e.cache.types.get? key = some found →
    ∀ id ∈ found.handles, e.arena.contains id
  indexed : ∀ id object, e.arena.get? id = some object → object.fields.Indexed
  started : ∀ id ∈ e.building, e.cache.failures.get? id = none
  finished : ∀ id, e.Usable id → id ∉ e.building → e.Populated U id
  linked : ∀ id, e.Usable id → e.Linked id

theorem sound_new (U : Universe n) (policy : KeyPolicy) : Sound U (.new U policy) where
  toTidy := (resting_new U policy).toTidy
  entries key found h := by cases h
  indexed id object h := by
    have inside := (Arena.contains_iff _ id).1 (Arena.contains_of_get? h)
    exact absurd inside.1 (not_lt.2 inside.2)
  started id h := by cases h
  finished id usable := by
    have inside := (Arena.contains_iff _ id).1 usable.live
    exact absurd inside.1 (not_lt.2 inside.2)
  linked id usable := by
    have inside := (Arena.contains_iff _ id).1 usable.live
    exact absurd inside.1 (not_lt.2 inside.2)

section Steps

variable {U : Universe n} {e e' : Encoder n}

/-- Soundness depends on the cache, the arena, and the objects begun and in progress. -/
theorem Sound.congr (sound : Sound U e) (cache : e'.cache = e.cache) (arena : e'.arena = e.arena)
    (building : e'.building = e.building) (begun : e'.begun = e.begun) : Sound U e' := by
  have usable : ∀ id, e'.Usable id ↔ e.Usable id := fun id => by
    constructor
    · exact fun h => ⟨arena ▸ h.live, cache ▸ h.unmarked⟩
    · exact fun h => ⟨arena ▸ h.live, cache ▸ h.unmarked⟩
  constructor
  · constructor
    · rw [begun, arena, sound.journal]
    · rw [cache, arena]
      exact sound.marked
    · rw [building, arena]
      exact sound.building
  · rw [cache, arena]
    exact sound.entries
  · rw [arena]
    exact sound.indexed
  · rw [building, cache]
    exact sound.started
  · intro id h outside
    unfold Populated struct?
    rw [begun, arena]
    exact sound.finished id ((usable id).1 h) (building ▸ outside)
  · intro id h object found field listed target named
    rw [arena] at found
    exact (usable target).2
      (sound.linked id ((usable id).1 h) object found field listed target named)

theorem Sound.note (sound : Sound U e) {event : Event n} (other : event.begun? = none) :
    Sound U (e.note event) :=
  sound.congr rfl rfl rfl (by simp [other])

theorem Sound.meet (sound : Sound U e) (type : TypeExpr n) : Sound U (e.meet U type) :=
  sound.congr rfl rfl rfl rfl

theorem Sound.met (sound : Sound U e) (path : String) (type : TypeExpr n) :
    Sound U ((e.note (.resolving path)).meet U type) :=
  (sound.note rfl).meet type

theorem Usable.note {id : ObjectId} (usable : e.Usable id) (event : Event n) :
    (e.note event).Usable id :=
  ⟨usable.live, usable.unmarked⟩

theorem Sound.warn (sound : Sound U e) (type : TypeExpr n) (tag : FieldTag)
    (resolved : SchemaType) : Sound U (e.warn U type tag resolved) :=
  sound.congr (by simp) (by simp) (by simp) (by simp)

/-- A type may be cached if its handles are live. -/
theorem Sound.store (sound : Sound U e) (type : TypeExpr n) {resolved : SchemaType}
    (live : ∀ id ∈ resolved.handles, e.arena.contains id) : Sound U (e.store U type resolved) where
  toTidy := sound.toTidy.store U type resolved
  entries key found stored := by
    rw [store_cache, TypeCache.types_register] at stored
    split at stored
    · cases stored
      exact live
    · exact sound.entries key found stored
  indexed := sound.indexed
  started := sound.started
  finished id usable := sound.finished id ⟨usable.live, usable.unmarked⟩
  linked id usable object found field listed target named := by
    have link :=
      sound.linked id ⟨usable.live, usable.unmarked⟩ object found field listed target named
    exact ⟨link.live, link.unmarked⟩

theorem Populated.mono {m : Nat} (kept : Keeps m e e') {id : ObjectId}
    (same : e'.arena.get? id = e.arena.get? id) (populated : e.Populated U id) :
    e'.Populated U id := by
  obtain ⟨struct, fields, object, begun, detail, found, exposed⟩ := populated
  exact ⟨struct, fields, object, kept.struct? begun, detail, same.trans found, exposed⟩

theorem usable_nextId (object : ObjectType) (struct : TypeExpr n) (tidy : Tidy e) :
    (e.begin U struct object).Usable e.arena.nextId where
  live := by
    rw [Arena.contains_iff, begin_arena, Arena.size_insert, Arena.number_nextId]
    omega
  unmarked := by
    have new : New e (e.begin U struct object) e.arena.nextId := by
      unfold New
      rw [begin_arena, Arena.size_insert, Arena.number_nextId]
      omega
    exact tidy.unmarked new

/-- A new object has no fields yet, and is in progress. -/
theorem Sound.begin (sound : Sound U e) {struct : TypeExpr n}
    (miss : e.cache.lookup U struct = none) {object : ObjectType} (fresh : object.fields = .empty) :
    Sound U (e.begin U struct object) := by
  have kept := keeps_begin U e miss object
  have next := usable_nextId (U := U) object struct sound.toTidy
  -- The live objects are the old ones and the new one.
  have split : ∀ id, (e.begin U struct object).arena.contains id →
      id = e.arena.nextId ∨ e.arena.contains id := fun id live => by
    rcases live_or_new (e := e) live with old | new
    · exact .inr old
    · rw [new_begin_iff U e _ struct object le_rfl] at new
      rcases new with same | later
      · exact .inl same
      · exact absurd later (not_new_of_size rfl id)
  have old : ∀ id, e.arena.contains id →
      (e.begin U struct object).arena.get? id = e.arena.get? id := fun id live =>
    kept.objects id ((e.arena.contains_iff id).1 live).2
  have new : (e.begin U struct object).arena.get? e.arena.nextId = some object :=
    Arena.get?_insert_nextId e.arena object
  constructor
  · exact sound.toTidy.begin U struct object
  · intro key found stored id named
    rw [begin_cache, TypeCache.types_register] at stored
    split at stored
    · cases stored
      cases named with
      | head => exact next.live
      | tail _ none => cases none
    · exact kept.live (sound.entries key found stored id named)
  · intro id other found
    rcases split id (Arena.contains_of_get? found) with rfl | before
    · rw [new] at found
      cases found
      rw [fresh]
      exact OrderedMap.indexed_empty
    · rw [old id before] at found
      exact sound.indexed id other found
  · intro id listed
    rw [begin_building, List.mem_append, List.mem_singleton] at listed
    rcases listed with before | rfl
    · exact sound.started id before
    · exact next.unmarked
  · intro id usable outside
    rw [begin_building, List.mem_append, List.mem_singleton, not_or] at outside
    have before := (split id usable.live).resolve_left outside.2
    exact (sound.finished id ⟨before, usable.unmarked⟩ outside.1).mono kept (old id before)
  · intro id usable other found field listed target named
    rcases split id usable.live with rfl | before
    · rw [new] at found
      cases found
      rw [fresh] at listed
      cases listed
    · rw [old id before] at found
      have link := sound.linked id ⟨before, usable.unmarked⟩ other found field listed target named
      exact ⟨kept.live link.live, link.unmarked⟩

/-- A field may be added to an object in progress if it names usable objects only. -/
theorem Sound.expose (sound : Sound U e) {id : ObjectId} (started : id ∈ e.building)
    (structPath fieldName : String) (tag : FieldTag) (type : TypeExpr n) {resolved : SchemaType}
    (usable : ∀ target ∈ resolved.handles, e.Usable target) :
    Sound U (e.expose U id structPath fieldName tag type resolved) := by
  -- Only the fields of one object change, so the same objects are usable as before.
  have same : ∀ other, (e.expose U id structPath fieldName tag type resolved).Usable other ↔
      e.Usable other := fun other => by
    constructor
    · intro h
      have live := h.live
      have unmarked := h.unmarked
      rw [contains_expose] at live
      rw [expose_cache] at unmarked
      exact ⟨live, unmarked⟩
    · intro h
      constructor
      · rw [contains_expose]
        exact h.live
      · rw [expose_cache]
        exact h.unmarked
  have others : ∀ other, id ≠ other →
      (e.expose U id structPath fieldName tag type resolved).arena.get? other =
        e.arena.get? other := fun other different =>
    get?_expose_of_ne U e id structPath fieldName tag type resolved different
  have self := get?_expose_self U e id structPath fieldName tag type resolved
  have kept := keeps_expose U e id structPath fieldName tag type resolved
  constructor
  · exact sound.toTidy.expose U id structPath fieldName tag type resolved
  · intro key found stored other named
    rw [expose_cache] at stored
    exact kept.live (sound.entries key found stored other named)
  · intro other object found
    by_cases different : id = other
    · subst different
      rw [self, Option.map_eq_some_iff] at found
      obtain ⟨before, present, rfl⟩ := found
      exact OrderedMap.indexed_insert (sound.indexed id before present) _ _
    · rw [others other different] at found
      exact sound.indexed other object found
  · intro other listed
    rw [expose_building] at listed
    rw [expose_cache]
    exact sound.started other listed
  · intro other h outside
    rw [expose_building] at outside
    have different : id ≠ other := fun eq => outside (eq ▸ started)
    exact (sound.finished other ((same other).1 h) outside).mono kept (others other different)
  · intro other h object found field listed target named
    rw [same]
    have before := sound.linked other ((same other).1 h)
    by_cases different : id = other
    · subst different
      rw [self, Option.map_eq_some_iff] at found
      obtain ⟨old, present, rfl⟩ := found
      rcases OrderedMap.mem_values_insert listed with rfl | kept
      · refine usable target ?_
        rcases List.mem_append.1 named with own | argument
        · unfold fieldFor taggedType at own
          simp only at own
          split at own
          · rwa [SchemaType.handles_required] at own
          · exact own
        · cases argument
      · exact before old present field kept target named
    · rw [others other different] at found
      exact before object found field listed target named

end Steps

end Encoder

open Encoder

/-! ## Builds are sound -/

section Courses

variable {U : Universe n} {call : Call n} {e e' : Encoder n}
  {result : Except EncodeError SchemaType}

/-- What is usable before a call is so after it. -/
theorem Accounts.usable {m : Nat} (books : Accounts e result e') (kept : Keeps m e e')
    {id : ObjectId} (usable : e.Usable id) : e'.Usable id where
  live := kept.live usable.live
  unmarked := by
    rw [books.old id (not_new_of_live usable.live)]
    exact usable.unmarked

/-- What a call does on a sound encoder. -/
structure Yields (U : Universe n) (call : Call n) (e : Encoder n)
    (result : Except EncodeError SchemaType) (e' : Encoder n) : Prop where
  sound : Sound U e'
  /-- A success names usable objects only. -/
  usable : ∀ resolved, result = .ok resolved → ∀ id ∈ resolved.handles, e'.Usable id
  /-- After a success, all new objects are populated. -/
  finished : ∀ resolved, result = .ok resolved → ∀ id, New e e' id → e'.Populated U id
  /-- After a success, the object whose fields were walked over exposes all of their names. -/
  walked : ∀ resolved, result = .ok resolved → ∀ id path fields, call = .walk id path fields →
    ∀ object names, e.arena.get? id = some object → object.fields.names = names.eraseDups →
      ∃ object', e'.arena.get? id = some object' ∧ object'.name = object.name ∧
        object'.fields.names = (names ++ tagNames fields).eraseDups

/-- A call that fails while no object is in progress leaves the encoder as sound as before, since it
marks all its objects. -/
theorem Encoder.Sound.of_failed {m : Nat} (sound : Sound U e) (free : e.building = [])
    {error : EncodeError} (books : Accounts e (.error error) e') (kept : Keeps m e e')
    (same : ∀ id, e.arena.contains id → e'.arena.get? id = e.arena.get? id)
    (entries : ∀ key found, e'.cache.types.get? key = some found →
      ∀ id ∈ found.handles, e'.arena.contains id)
    (indexed : ∀ id object, e'.arena.get? id = some object → object.fields.Indexed) :
    Sound U e' := by
  have idle := (books.outside free).1
  -- Every object that is not marked was usable before.
  have before : ∀ id, e'.Usable id → e.Usable id := fun id usable => by
    rcases live_or_new (e := e) usable.live with old | new
    · refine ⟨old, ?_⟩
      rw [← books.old id (not_new_of_live old)]
      exact usable.unmarked
    · have mark := (books.outside free).2 id new
      rw [usable.unmarked] at mark
      cases mark
  constructor
  · exact books.tidy
  · exact entries
  · exact indexed
  · rw [idle]
    intro id listed
    cases listed
  · intro id usable _
    have old := before id usable
    have populated := sound.finished id old (by rw [free]; exact List.not_mem_nil)
    exact populated.mono kept (same id old.live)
  · intro id usable object found field listed target named
    have old := before id usable
    rw [same id old.live] at found
    exact books.usable kept (sound.linked id old object found field listed target named)

/-- A build that succeeds while no object is in progress leaves all new objects populated. -/
theorem Encoder.Sound.of_finished (sound : Sound U e')
    (finished : ∀ id ∈ e'.building, e'.Populated U id) : Sound U { e' with building := [] } where
  journal := sound.journal
  marked := sound.marked
  building id listed := by cases listed
  entries := sound.entries
  indexed := sound.indexed
  started id listed := by cases listed
  finished id usable _ := by
    by_cases listed : id ∈ e'.building
    · exact finished id listed
    · exact sound.finished id ⟨usable.live, usable.unmarked⟩ listed
  linked id usable object found field listed target named := by
    have link :=
      sound.linked id ⟨usable.live, usable.unmarked⟩ object found field listed target named
    exact ⟨link.live, link.unmarked⟩

theorem Yields.of_error (sound : Sound U e') (error : EncodeError) :
    Yields U call e (.error error) e' :=
  ⟨sound, fun _ ok => (nomatch ok), fun _ ok => (nomatch ok), fun _ ok => (nomatch ok)⟩

/-- A call for a type that adds no object. -/
theorem Yields.of_same {type : TypeExpr n} (asked : call.type? = some type) (sound : Sound U e')
    (size : e'.arena.size = e.arena.size) {resolved : SchemaType}
    (usable : ∀ id ∈ resolved.handles, e'.Usable id) : Yields U call e (.ok resolved) e' where
  sound := sound
  usable := by
    rintro _ ⟨⟩
    exact usable
  finished _ _ id new := absurd new (not_new_of_size size id)
  walked := by
    rintro _ _ id path fields rfl
    cases asked

/-- A call for a type that passes on what another call for a type did. -/
theorem Yields.pass {inner : Call n} {type : TypeExpr n} {e₁ : Encoder n}
    (asked : call.type? = some type) (h : Yields U inner e₁ result e')
    (size : e₁.arena.size = e.arena.size) : Yields U call e result e' where
  sound := h.sound
  usable := h.usable
  finished resolved ok id new := by
    refine h.finished resolved ok id ?_
    unfold New at new ⊢
    omega
  walked := by
    rintro _ _ id path fields rfl
    cases asked

theorem Encoder.Sound.usable_of_hit (sound : Sound U e) {key : String} {found : SchemaType}
    (hit : e.cache.types.get? key = some found) (unmarked : e.cache.failure? found = none) :
    ∀ id ∈ found.handles, e.Usable id := by
  intro id named
  refine ⟨sound.entries key found hit id named, ?_⟩
  unfold TypeCache.failure? at unmarked
  rw [SchemaType.mem_handles.1 named] at unmarked
  exact unmarked

/-- A walk over fields happens inside an object build, on an object in progress. -/
def Call.Ready (e : Encoder n) : Call n → Prop
  | .walk id _ _ => id ∈ e.building
  | _ => True

theorem Encoder.handleFree_iff :
    HandleFree U e ↔ ProvidesOnly U (fun given => given.handles = []) e := Iff.rfl

theorem Encoder.HandleFree.met (free : HandleFree U e) (path : String) (type : TypeExpr n) :
    HandleFree U ((e.note (.resolving path)).meet U type) :=
  handleFree_iff.2 ((handleFree_iff.1 free).met path type)

/-- An object build that ends populates the object, and closes the list of begun objects if it is
the outermost one. -/
theorem Yields.close {type : TypeExpr n} {options : List (SchemaOption n)} {object : ObjectType}
    {fields : List (RecordField n)} (sound : Sound U e)
    (miss : e.cache.lookup U type = none) (struct : U.detail type = .struct fields)
    (made : SchemaOption.applyAllToObject options { name := objectName (U.name type) } = .ok object)
    (inner : Course U (.walk e.arena.nextId (U.path type) fields) (e.begin U type object) result e')
    (begins : Sound U (e.begin U type object))
    (walks : Yields U (.walk e.arena.nextId (U.path type) fields) (e.begin U type object)
      result e') :
    Yields U (.object type options) e result
      (e'.close e.building.isEmpty (U.path type) result) := by
  have whole := @Course.begun n U type options e object fields result e' miss struct made inner
  have closes := keeps_close e'.arena.size e' e.building.isEmpty (U.path type) result
  have innerBooks := inner.accounts begins.toTidy (by simp [Call.Busy])
  cases result with
  | error error =>
    refine .of_error ?_ error
    by_cases free : e.building = []
    · refine sound.of_failed free (whole.accounts sound.toTidy trivial) whole.keeps ?_ ?_ ?_
      · exact fun id live => whole.untouched live (by rintro ⟨⟩)
      · rw [close_types, close_arena]
        exact walks.sound.entries
      · rw [close_arena]
        exact walks.sound.indexed
    · have nested : e.building.isEmpty = false := by simpa using free
      rw [nested]
      exact walks.sound
  | ok resolved =>
    have same := inner.eq_object_of_walk
    subst same
    have own : e'.Populated U e.arena.nextId := by
      obtain ⟨fresh, named⟩ := SchemaOption.fields_of_applyAllToObject made
      obtain ⟨object', found, same, names⟩ := walks.walked _ rfl _ _ _ rfl object []
        (Arena.get?_insert_nextId e.arena object) (by rw [fresh]; rfl)
      have begun := inner.keeps.struct? (sound.toTidy.struct?_nextId U type object)
      exact ⟨type, fields, object', begun, struct, found, same.trans named, names⟩
    have finished : ∀ id, New e e' id → e'.Populated U id := fun id new => by
      rw [new_begin_iff U e e' type object inner.keeps.size] at new
      rcases new with rfl | later
      · exact own
      · exact walks.finished _ rfl id later
    have usable := innerBooks.usable inner.keeps (usable_nextId object type sound.toTidy)
    constructor
    · by_cases free : e.building = []
      · rw [free]
        refine walks.sound.of_finished fun id listed => ?_
        have known := ((innerBooks.inside (by simp)).1 id).1 listed
        rw [begin_building, free, List.nil_append, List.mem_singleton] at known
        exact finished id ((new_begin_iff U e e' type object inner.keeps.size id).2 known)
      · have nested : e.building.isEmpty = false := by simpa using free
        rw [nested]
        exact walks.sound
    · rintro _ ⟨⟩ id named
      cases named with
      | tail _ none => cases none
      | head => cases e.building.isEmpty <;> exact ⟨usable.live, usable.unmarked⟩
    · intro _ _ id new
      unfold New at new
      rw [close_arena] at new
      exact (finished id new).mono closes (by rw [close_arena])
    · rintro _ _ id path fields ⟨⟩

/-- A tagged field adds one name to its object, and leaves the other objects as they are. -/
theorem Yields.tagged {id : ObjectId} {path text : String} {field : RecordField n}
    {type : TypeExpr n} {rest : List (RecordField n)} {resolved : SchemaType}
    (content : field.content = .tagged text type)
    (first : Course U (.resolve type) e (.ok resolved) e₁)
    (inner : Course U (.walk id path rest)
      (e₁.expose U id path field.name (.parse text) type resolved) result e')
    (present : e.arena.contains id) (resolves : Yields U (.resolve type) e (.ok resolved) e₁)
    (walks : Yields U (.walk id path rest)
      (e₁.expose U id path field.name (.parse text) type resolved) result e') :
    Yields U (.walk id path (field :: rest)) e result e' where
  sound := walks.sound
  usable := walks.usable
  finished last ok other new := by
    have exposed := keeps_expose U e₁ id path field.name (.parse text) type resolved
    by_cases late : e₁.arena.size < other.number
    · refine walks.finished last ok other ⟨?_, new.2⟩
      rwa [expose_arena, Arena.size_modify]
    · have early : New e e₁ other := ⟨new.1, not_lt.1 late⟩
      have apart : id ≠ other := fun same => not_new_of_live present (same ▸ new)
      have populated := (resolves.finished resolved rfl other early).mono exposed
        (get?_expose_of_ne U e₁ id path field.name _ type resolved apart)
      have still := inner.untouched (exposed.live early.live) fun same => apart (by cases same; rfl)
      exact populated.mono inner.keeps still
  walked := by
    rintro last ok other path' fields ⟨⟩ object names found known
    have found₁ : e₁.arena.get? id = some object := by
      rw [first.untouched present (by rintro ⟨⟩), found]
    have added := get?_expose_self U e₁ id path field.name (.parse text) type resolved
    rw [found₁, Option.map_some] at added
    rw [tagNames_cons_of_tagged content, List.append_cons]
    obtain ⟨object', found', same, exposed⟩ := walks.walked last ok id path rest rfl _ _ added (by
      rw [eraseDups_append_singleton, ← known]
      exact OrderedMap.names_insert (resolves.sound.indexed id object found₁) _ _)
    exact ⟨object', found', same, exposed⟩

theorem Course.yields (course : Course U call e result e') (free : HandleFree U e)
    (sound : Sound U e) (ready : call.Ready e) : Yields U call e result e' := by
  -- By induction on the course.  Inside an object build a handle is usable as soon as its object is
  -- begun; that it is populated as well is only known once the walk over its fields is done.
  induction course with
  | pointer inner ih => exact (ih free sound trivial).pass rfl rfl
  | recorded | objectRecorded | notStruct | notSupported => exact .of_error sound _
  | recalled _ hit unmarked | objectRecalled hit unmarked =>
    have usable := sound.usable_of_hit hit unmarked
    apply Yields.of_same
    · rfl
    · exact sound.note rfl
    · rfl
    · exact fun id named => (usable id named).note _
  | notAnObject => exact .of_error (sound.note rfl) _
  | @resolved type e built e' plain miss inner ih =>
    have built := ih free sound trivial
    exact {
      sound := built.sound.store type fun id named => (built.usable _ rfl id named).live
      usable := by
        rintro _ ⟨⟩ id named
        have usable := built.usable _ rfl id named
        exact ⟨usable.live, usable.unmarked⟩
      finished := fun _ _ id new => built.finished _ rfl id new
      walked := by
        rintro _ _ id path fields ⟨⟩ }
  | refused plain miss inner ih => exact .of_error (ih free sound trivial).sound _
  | provided hook =>
    apply Yields.of_same
    · rfl
    · exact sound.met _ _
    · rfl
    · rw [free _ _ hook]
      intro id named
      cases named
  | scalar =>
    apply Yields.of_same
    · rfl
    · exact sound.met _ _
    · rfl
    · intro id named
      cases named
  | @list type item e result e' hook other listed inner ih =>
    have resolves := ih (free.met _ _) (sound.met _ _) trivial
    cases result with
    | error error => exact .of_error resolves.sound _
    | ok resolved =>
      exact {
        sound := resolves.sound
        usable := by
          rintro _ ⟨⟩
          exact resolves.usable resolved rfl
        finished := fun _ _ id new => resolves.finished resolved rfl id new
        walked := by
          rintro _ _ id path fields ⟨⟩ }
  | struct hook other struct inner ih =>
    exact (ih (free.met _ _) (sound.met _ _) trivial).pass rfl rfl
  | unrecognized => exact .of_error (sound.met _ _) _
  | @begun type options e object fields result e' miss struct made inner ih =>
    have fresh := (SchemaOption.fields_of_applyAllToObject made).1
    have begins := sound.begin miss fresh
    have listed : e.arena.nextId ∈ (e.begin U type object).building := by simp
    exact .close sound miss struct made inner begins (ih free begins listed)
  | @done id path e =>
    have usable : e.Usable id := ⟨sound.building id ready, sound.started id ready⟩
    exact {
      sound := sound
      usable := by
        rintro _ ⟨⟩ other named
        cases named with
        | head => exact usable
        | tail _ none => cases none
      finished := fun _ _ id new => absurd new (not_new_of_size rfl id)
      walked := by
        rintro _ _ other path fields ⟨⟩ object names found exposed
        refine ⟨object, found, rfl, ?_⟩
        rw [exposed]
        exact congrArg List.eraseDups (List.append_nil names).symm }
  | @untagged id path field rest e result e' untagged inner ih =>
    have walks := ih free sound ready
    exact {
      sound := walks.sound
      usable := walks.usable
      finished := walks.finished
      walked := by
        rintro resolved ok other path fields ⟨⟩ object names found exposed
        rw [tagNames_cons_of_untagged untagged]
        exact walks.walked resolved ok _ _ _ rfl object names found exposed }
  | @tagged id path field text type rest e resolved e₁ result e' content first live inner ih₁ ih₂ =>
    have resolves := ih₁ free sound trivial
    have books := first.accounts sound.toTidy trivial
    have ready₁ : id ∈ e₁.building :=
      ((books.inside (List.ne_nil_of_mem ready)).1 id).2 (.inl ready)
    have exposes := resolves.sound.expose ready₁ path field.name (.parse text) type
      (resolves.usable resolved rfl)
    have free' : HandleFree U (e₁.expose U id path field.name (.parse text) type resolved) :=
      ((handleFree_iff.1 free).course first).expose _ _ _ _ _ _
    have ready' : id ∈ (e₁.expose U id path field.name (.parse text) type resolved).building := by
      rw [expose_building]
      exact ready₁
    exact .tagged content first inner (sound.building id ready) resolves (ih₂ free' exposes ready')
  | stopped content first ih => exact .of_error (ih free sound trivial).sound _
  | dangling content first dead ih =>
    exact .of_error (((ih free sound trivial).sound.warn _ _ _).meet _) _

end Courses

/-! ## Sessions are sound -/

/-- No type of the universe brings along a hook that provides a type with a handle. -/
def Universe.HooksNameNoHandle (U : Universe n) : Prop :=
  ∀ index, ∀ given ∈ (U.declaration index).hooks.typeProvider, given.handles = []

/-- A request attaches no hook that provides a type with a handle. -/
def Request.HooksNameNoHandle (request : Request n) : Prop :=
  ∀ given, request.hook? = some (.typeProvider given) → given.handles = []

/-- A request gives no field a type with a handle. -/
def Request.OptionsNameNoHandle (request : Request n) : Prop :=
  ∀ replacement ∈ request.replacements, replacement.handles = []

/-- Sessions that may ask for any type, but attach no hook that provides a type with a handle. -/
def Scope.handleFree (n : Nat) : Scope n where
  hook hook := ∀ given, hook = .typeProvider given → given.handles = []
  type _ := True

theorem Scope.closed_handleFree (U : Universe n) : (Scope.handleFree n).Closed U where
  pointee _ _ _ := trivial
  item _ _ _ _ := trivial
  field _ _ _ _ _ _ _ _ _ := trivial

theorem Request.HooksNameNoHandle.within {request : Request n} (free : request.HooksNameNoHandle) :
    request.Within (Scope.handleFree n) where
  hook _ attached given provides := free given (provides ▸ attached)
  types _ _ := trivial

section Sessions

variable {U : Universe n} {e e' : Encoder n}

theorem Encoder.handleFree_new (free : U.HooksNameNoHandle) (policy : KeyPolicy) :
    HandleFree U (.new U policy) := handleFree_iff.2 (providesOnly_new free policy)

theorem Move.handleFree (move : Move U (.handleFree n) e e') (free : HandleFree U e) :
    HandleFree U e' := by
  have moved : Move U (.providing n fun given => given.handles = []) e e' := move
  exact moved.providesOnly free

theorem Call.ready_of_asked {call : Call n} {type : TypeExpr n} (asked : call.type? = some type) :
    call.Ready e := by
  cases call with
  | walk => cases asked
  | resolve | build | object => trivial

theorem Move.sound (move : Move U (.handleFree n) e e') (free : HandleFree U e)
    (sound : Sound U e) : Sound U e' := by
  cases move with
  | note other => exact sound.note other
  | register | attach => exact sound.congr rfl rfl rfl rfl
  | call asked inside course => exact (course.yields free sound (Call.ready_of_asked asked)).sound
  | enter asked plain inside miss course =>
    have built := course.yields free sound (Call.ready_of_asked asked)
    exact built.sound.store _ fun id named => (built.usable _ rfl id named).live

theorem Moves.sound (moves : Moves U (.handleFree n) e e') (free : HandleFree U e)
    (sound : Sound U e) : HandleFree U e' ∧ Sound U e' := by
  induction moves with
  | refl => exact ⟨free, sound⟩
  | tail first last ih => exact ⟨last.handleFree ih.1, last.sound ih.1 ih.2⟩

theorem Encoder.Lasts.usable {id : ObjectId} (lasting : Lasts e e') (usable : e.Usable id) :
    e'.Usable id where
  live := lasting.keeps.live usable.live
  unmarked := by
    rw [lasting.marks id usable.live]
    exact usable.unmarked

/-- Whatever is returned between builds is usable. -/
theorem Returned.usable {id : ObjectId} (returned : Returned U (.handleFree n) e e' id)
    (free : HandleFree U e) (sound : Sound U e) (resting : Resting e) : e'.Usable id := by
  obtain ⟨start, stop, toStart, returns, fromStop⟩ := returned
  obtain ⟨free, sound⟩ := toStart.sound free sound
  have resting := (toStart.lasts resting).1
  have stops : Resting stop ∧ stop.Usable id := by
    cases returns with
    | call asked inside course named =>
      have yields := course.yields free sound (Call.ready_of_asked asked)
      exact ⟨(course.lasts asked resting).1, yields.usable _ rfl id named⟩
    | entered asked plain inside miss course named =>
      have usable := (course.yields free sound (Call.ready_of_asked asked)).usable _ rfl id named
      have move := @Move.enter n U (.handleFree n) _ _ _ _ _ asked plain inside miss course
      exact ⟨(move.lasts resting).1, usable.live, usable.unmarked⟩
    | cached hit unmarked named => exact ⟨resting, sound.usable_of_hit hit unmarked id named⟩
  exact (fromStop.lasts stops.1).2.usable stops.2

end Sessions

/-- **No usable handle leads to a half-built object.**  After every session, whether its requests
succeeded or failed and whatever keys collided, each object that is not marked as failed is
populated with all names of the struct that it was begun for, and links to objects of this kind
only.  So does every answer that the session gave. -/
theorem Session.usable_objects_are_complete (U : Universe n) (policy : KeyPolicy)
    (requests : List (Request n)) (provided : U.HooksNameNoHandle)
    (attached : ∀ request ∈ requests, request.HooksNameNoHandle)
    (replaced : ∀ request ∈ requests, request.OptionsNameNoHandle) :
    ∃ answers e, Session.run U requests (.new U policy) = some (answers, e) ∧
      (∀ id, e.Usable id → e.Populated U id ∧ e.Linked id) ∧
      ∀ answer, .ok answer ∈ answers → ∀ id ∈ answer.handles, e.Usable id := by
  have free := handleFree_new provided policy
  have sound := sound_new U policy
  have resting := resting_new U policy
  obtain ⟨answers, e, run, moves, returned⟩ := Session.serves (Scope.closed_handleFree U) requests
    (fun request listed => (attached request listed).within) (.new U policy)
  have after := (moves.sound free sound).2
  have idle := (moves.lasts resting).1.idle
  refine ⟨answers, e, run, ?_, ?_⟩
  · intro id usable
    refine ⟨after.finished id usable ?_, after.linked id usable⟩
    rw [idle]
    exact List.not_mem_nil
  · intro answer given id named
    rcases returned answer given id named with ⟨request, listed, type, replacement, inside⟩ | shown
    · rw [replaced request listed type replacement] at inside
      cases inside
    · exact shown.usable free sound resting

/-! ## A session in which builds fail -/

namespace Sample

/-- A field that is exposed under its own name. -/
def field (name : String) (type : TypeExpr 4) : RecordField 4 := ⟨name, .tagged name type⟩

def struct (path name : String) (fields : List (RecordField 4)) : Declaration 4 :=
  { path, name, body := .struct fields }

/-- A recursive struct, two structs that refer to each other and of which one cannot be built, and a
struct that a hook hides, whose bare name is the same as that of the first. -/
def types : Universe 4 where
  declaration
    | 0 => struct "app::Node" "Node"
      [⟨"id", .tagged "!id" (.primitive .u32)⟩,
       field "parent" (.pointer .option (.pointer .box (.declared 0))),
       field "children" (.list .vec (.declared 0))]
    | 1 => struct "app::Broken" "Broken"
      [field "parts" (.list .vec (.declared 2)),
       field "table" (.map .hash (.primitive .string) (.primitive .bool))]
    | 2 => struct "app::Part" "Part" [field "whole" (.pointer .box (.declared 1))]
    | 3 => { struct "money::Node" "Node" [field "amount" (.primitive .f64)] with
        hooks := .of [.typeProvider (.scalar (.custom "Money"))] }

def node : TypeExpr 4 := .declared 0

def broken : TypeExpr 4 := .declared 1

def part : TypeExpr 4 := .declared 2

/-- The second object of the failed build is finished and points at the first, which is not. -/
def requests : List (Request 4) :=
  [.structOf (.declared 1) [], .arrayOf (.declared 2) [],
   .fieldOf (.declared 0) [.description "A node."],
   .registerHook (.declared 2) (.typeProvider (.scalar .id)), .argsOf (.declared 3)]

theorem hooksNameNoHandle_types : types.HooksNameNoHandle := by
  unfold Universe.HooksNameNoHandle
  decide

end Sample

theorem Sample.usable_objects_are_complete_beside_failed_ones :
    ((Session.run types requests (.new types .bareName)).map fun r =>
      (r.2.arena.ids, r.2.cache.failures.keys)) = some ([⟨1⟩, ⟨2⟩, ⟨3⟩], [⟨1⟩, ⟨2⟩]) ∧
    ∃ answers e, Session.run types requests (.new types .bareName) = some (answers, e) ∧
      (∀ id, e.Usable id → e.Populated types id ∧ e.Linked id) ∧
      ∀ answer, .ok answer ∈ answers → ∀ id ∈ answer.handles, e.Usable id := by
  refine ⟨by decide +kernel, ?_⟩
  refine Session.usable_objects_are_complete types .bareName requests hooksNameNoHandle_types ?_ ?_
  · simp [requests, Request.HooksNameNoHandle, Request.hook?, SchemaType.handles]
  · simp [requests, Request.OptionsNameNoHandle, Request.replacements, Build.replacements]

end RecordSchema
