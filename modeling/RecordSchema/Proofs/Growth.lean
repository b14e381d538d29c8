import RecordSchema.Proofs.Course.Outcome
import RecordSchema.Proofs.Registration

/-!
# Builds only add

An encoder never takes back what it stored.  `Encoder.Keeps m e e'` says that `e'` has all that `e`
has: its cache entries and failure marks, its registered types, its begun objects, and the objects
numbered up to `m` with the same content.  Every course keeps everything that was there before it
(`Course.keeps`); only the walk over the fields of an object changes that object and later ones.

This makes the building of objects terminate: an object is begun only for a struct whose key is
absent from the cache, and keys never leave it (`objectOf_outcome`).
-/

namespace RecordSchema

variable {n : Nat}

/-! ## Small facts on the parts of an encoder -/

theorem TypeCache.key_eq (U : Universe n) (cache : TypeCache) (type : TypeExpr n) :
    cache.key U type = cache.policy.text U type.withoutPointers := by
  unfold TypeCache.key
  rw [Universe.withoutPointers_info]
  rfl

@[simp] theorem TypeCache.key_withoutPointers (U : Universe n) (cache : TypeCache)
    (type : TypeExpr n) : cache.key U type.withoutPointers = cache.key U type := by
  simp [TypeCache.key_eq]

@[simp] theorem TypeCache.lookup_withoutPointers (U : Universe n) (cache : TypeCache)
    (type : TypeExpr n) : cache.lookup U type.withoutPointers = cache.lookup U type := by
  simp [TypeCache.lookup]

theorem TypeCache.lookup_eq (U : Universe n) (cache : TypeCache) (type : TypeExpr n) :
    cache.lookup U type = cache.types.get? (cache.policy.text U type.withoutPointers) := by
  rw [TypeCache.lookup, TypeCache.key_eq]

/-- Types of one key share their entry. -/
theorem TypeCache.lookup_of_key {U : Universe n} {cache : TypeCache} {type other : TypeExpr n}
    (same : cache.key U type = cache.key U other) :
    cache.lookup U type = cache.lookup U other := by
  rw [TypeCache.lookup, same, TypeCache.lookup]

/-- Of the cache only the entries and the policy matter to a lookup. -/
theorem TypeCache.lookup_congr {U : Universe n} {cache other : TypeCache}
    (types : other.types = cache.types) (policy : other.policy = cache.policy)
    (type : TypeExpr n) : other.lookup U type = cache.lookup U type := by
  rw [TypeCache.lookup_eq, types, policy, ← TypeCache.lookup_eq]

theorem TypeCache.types_register (U : Universe n) (cache : TypeCache) (type : TypeExpr n)
    (resolved : SchemaType) (key : String) :
    (cache.register U type resolved).types.get? key =
      if cache.key U type = key then some resolved else cache.types.get? key := by
  simp [TypeCache.register, Dictionary.get?_insert]

theorem TypeCache.lookup_register (U : Universe n) (cache : TypeCache) (type other : TypeExpr n)
    (resolved : SchemaType) :
    (cache.register U type resolved).lookup U other =
      if cache.key U type = cache.key U other then some resolved else cache.lookup U other :=
  cache.types_register U type resolved _

theorem TypeCache.lookup_register_self (U : Universe n) (cache : TypeCache) (type : TypeExpr n)
    (resolved : SchemaType) :
    (cache.register U type resolved).lookup U type = some resolved := by
  rw [TypeCache.lookup_register, if_pos rfl]

theorem Arena.contains_of_get? {arena : Arena} {id : ObjectId} {object : ObjectType}
    (found : arena.get? id = some object) : arena.contains id := by
  unfold Arena.contains
  rw [found]
  rfl

theorem Arena.contains_iff (arena : Arena) (id : ObjectId) :
    arena.contains id ↔ 0 < id.number ∧ id.number ≤ arena.size := by
  obtain ⟨_ | position⟩ := id
  · simp [Arena.contains, Arena.get?]
  · have inside : (arena.objects[position]?).isSome ↔ position < arena.objects.length := by simp
    change (arena.objects[position]?).isSome ↔ 0 < position + 1 ∧ position < arena.objects.length
    rw [inside]
    omega

@[simp] theorem Arena.size_insert (arena : Arena) (object : ObjectType) :
    (arena.insert object).size = arena.size + 1 := by
  simp [Arena.size, Arena.insert]

@[simp] theorem Arena.size_modify (arena : Arena) (id : ObjectId) (f : ObjectType → ObjectType) :
    (arena.modify id f).size = arena.size := by
  obtain ⟨_ | position⟩ := id
  · rfl
  · simp [Arena.size, Arena.modify]

@[simp] theorem Arena.number_nextId (arena : Arena) : arena.nextId.number = arena.size + 1 := rfl

/-- The objects up to a number are what they were before another was inserted. -/
theorem Arena.get?_insert_of_le {arena : Arena} {id : ObjectId} (object : ObjectType)
    (below : id.number ≤ arena.size) : (arena.insert object).get? id = arena.get? id := by
  rcases Nat.eq_zero_or_pos id.number with zero | pos
  · obtain ⟨_ | position⟩ := id
    · rfl
    · cases zero
  · exact Arena.get?_insert_of_contains object ((arena.contains_iff id).2 ⟨pos, below⟩)

theorem Encoder.hooksOf_eq (U : Universe n) (e : Encoder n) (type : TypeExpr n) :
    e.hooksOf U type = (e.registry.hooks? type).getD (U.hooks type) := by
  unfold Encoder.hooksOf
  rw [Registry.hooks?_getOrRegister, if_pos rfl]
  rfl

/-! ## What a change keeps -/

namespace Encoder

/-- All that `e` stores is in `e'` too, and the objects numbered up to `m` are the same. -/
structure Keeps (m : Nat) (e e' : Encoder n) : Prop where
  objects : ∀ id, id.number ≤ m → e'.arena.get? id = e.arena.get? id
  size : e.arena.size ≤ e'.arena.size
  entries : ∀ key found, e.cache.types.get? key = some found → e'.cache.types.get? key = some found
  marks : ∀ id error, e.cache.failures.get? id = some error →
    e'.cache.failures.get? id = some error
  policy : e'.cache.policy = e.cache.policy
  begun : e.begun <+: e'.begun
  registered : ∀ type, e.registry.contains type → e'.registry.contains type

namespace Keeps

variable {U : Universe n} {m m' : Nat} {e e₁ e' : Encoder n}

theorem refl (m : Nat) (e : Encoder n) : Keeps m e e where
  objects _ _ := rfl
  size := le_rfl
  entries _ _ found := found
  marks _ _ mark := mark
  policy := rfl
  begun := List.prefix_refl _
  registered _ known := known

theorem trans (first : Keeps m e e₁) (second : Keeps m e₁ e') : Keeps m e e' where
  objects id below := (second.objects id below).trans (first.objects id below)
  size := first.size.trans second.size
  entries key found h := second.entries key found (first.entries key found h)
  marks id error h := second.marks id error (first.marks id error h)
  policy := second.policy.trans first.policy
  begun := first.begun.trans second.begun
  registered type h := second.registered type (first.registered type h)

theorem mono (h : Keeps m e e') (le : m' ≤ m) : Keeps m' e e' :=
  { h with objects := fun id below => h.objects id (below.trans le) }

theorem key (h : Keeps m e e') (type : TypeExpr n) :
    e'.cache.key U type = e.cache.key U type := by
  rw [TypeCache.key_eq, TypeCache.key_eq, h.policy]

theorem lookup (h : Keeps m e e') {type : TypeExpr n} {found : SchemaType}
    (hit : e.cache.lookup U type = some found) : e'.cache.lookup U type = some found := by
  unfold TypeCache.lookup
  rw [h.key]
  exact h.entries _ _ hit

theorem live (h : Keeps m e e') {id : ObjectId} (live : e.arena.contains id) :
    e'.arena.contains id := by
  rw [Arena.contains_iff] at live ⊢
  exact ⟨live.1, live.2.trans h.size⟩

/-- An entry may be stored under a key that was absent from the start. -/
theorem store (h : Keeps m e e') {type : TypeExpr n} (miss : e.cache.lookup U type = none)
    (resolved : SchemaType) : Keeps m e (e'.store U type resolved) :=
  { h with
    begun := h.begun
    entries := by
      intro key found stored
      have other : e'.cache.key U type ≠ key := by
        rintro rfl
        rw [h.key] at stored
        unfold TypeCache.lookup at miss
        rw [miss] at stored
        cases stored
      rw [store_cache, TypeCache.types_register, if_neg other]
      exact h.entries key found stored }

end Keeps

variable (U : Universe n) (m : Nat) (e : Encoder n)

theorem keeps_note (event : Event n) : Keeps m e (e.note event) :=
  { Keeps.refl m e with begun := by simp }

theorem keeps_meet (type : TypeExpr n) : Keeps m e (e.meet U type) :=
  { Keeps.refl m e with
    begun := List.prefix_refl _
    registered := fun other known => Registry.contains_getOrRegister U e.registry type other known }

theorem keeps_begin {struct : TypeExpr n} (miss : e.cache.lookup U struct = none)
    (object : ObjectType) : Keeps e.arena.size e (e.begin U struct object) :=
  { (Keeps.refl e.arena.size e).store miss (.object e.arena.nextId) with
    objects := fun id below => Arena.get?_insert_of_le object below
    size := by simp
    begun := by simp }

theorem failures_marked (started : List ObjectId) (cache : TypeCache) (error : EncodeError)
    (id : ObjectId) :
    (marked cache started error).failures.get? id =
      if id ∈ started then some ((cache.failures.get? id).getD error)
      else cache.failures.get? id := by
  induction started generalizing cache with
  | nil => simp [marked]
  | cons first rest ih =>
    change (marked (cache.fail first error) rest error).failures.get? id = _
    rw [ih, TypeCache.fail, Dictionary.get?_insertNew]
    by_cases same : first = id
    · subst same
      simp
    · have other : ¬ id = first := fun h => same h.symm
      simp [same, other]

theorem keeps_close {α : Type} (outermost : Bool) (path : String)
    (result : Except EncodeError α) : Keeps m e (e.close outermost path result) where
  objects id _ := by rw [close_arena]
  size := by rw [close_arena]
  entries key found h := by rwa [close_types]
  marks id error h := by
    cases outermost with
    | false => exact h
    | true =>
      cases result with
      | ok _ => exact h
      | error reason =>
        change (marked e.cache e.building reason).failures.get? id = some error
        rw [failures_marked]
        split <;> simp [h]
  policy := close_policy e outermost path result
  begun := by rw [close_begun]
  registered type h := by rwa [close_registry]

section Expose

variable (id : ObjectId) (structPath fieldName : String) (tag : FieldTag) (type : TypeExpr n)
  (resolved : SchemaType)

theorem get?_expose_self :
    (e.expose U id structPath fieldName tag type resolved).arena.get? id =
      (e.arena.get? id).map fun object =>
        (object.addField tag.name (e.fieldFor U tag type resolved)).2 := by
  rw [expose_arena]
  exact Arena.get?_modify_self _ _ _

/-- A field is added to one object only. -/
theorem get?_expose_of_ne {other : ObjectId} (apart : id ≠ other) :
    (e.expose U id structPath fieldName tag type resolved).arena.get? other =
      e.arena.get? other := by
  rw [expose_arena]
  exact Arena.get?_modify_of_ne _ _ apart

@[simp] theorem contains_expose (other : ObjectId) :
    (e.expose U id structPath fieldName tag type resolved).arena.contains other =
      e.arena.contains other := by
  rw [Bool.eq_iff_iff, Arena.contains_iff, Arena.contains_iff, expose_arena, Arena.size_modify]

end Expose

theorem keeps_expose (id : ObjectId) (structPath fieldName : String) (tag : FieldTag)
    (type : TypeExpr n) (resolved : SchemaType) :
    Keeps (id.number - 1) e (e.expose U id structPath fieldName tag type resolved) where
  objects other below := by
    by_cases same : id = other
    · subst same
      have zero : id.number = 0 := by omega
      obtain ⟨_ | position⟩ := id
      · rw [expose_arena]
        rfl
      · cases zero
    · exact get?_expose_of_ne U e id structPath fieldName tag type resolved same
  size := by simp
  entries key found h := by rwa [expose_cache]
  marks id error h := by rwa [expose_cache]
  policy := by rw [expose_cache]
  begun := by rw [expose_begun]
  registered other h := by
    rw [expose_registry]
    exact Registry.contains_getOrRegister U e.registry _ other h

end Encoder

/-! ## Courses keep everything before them -/

/-- The number up to which a call leaves objects alone. -/
def Call.base (e : Encoder n) : Call n → Nat
  | .walk id _ _ => min (id.number - 1) e.arena.size
  | _ => e.arena.size

/-- The object whose fields a call walks over. -/
def Call.target? : Call n → Option ObjectId
  | .walk id _ _ => some id
  | _ => none

namespace Course

open Encoder

variable {U : Universe n} {call : Call n} {e e' : Encoder n}
  {result : Except EncodeError SchemaType}

theorem keeps (course : Course U call e result e') : Keeps (call.base e) e e' := by
  induction course with
  | pointer inner ih => exact ih
  | recorded | objectRecorded | notStruct | notSupported | done => exact Keeps.refl _ _
  | recalled | objectRecalled | notAnObject => exact keeps_note _ _ _
  | resolved plain miss inner ih => exact ih.store miss _
  | refused plain miss inner ih => exact ih
  | provided | scalar | unrecognized =>
    exact (keeps_note _ _ _).trans (keeps_meet _ _ _ _)
  | list free other listed inner ih | struct free other struct inner ih =>
    exact ((keeps_note _ _ _).trans (keeps_meet _ _ _ _)).trans ih
  | @begun type options e object fields result e' miss struct made inner ih =>
    have walked : Keeps e.arena.size (e.begin U type object) e' := by
      refine ih.mono ?_
      simp [Call.base]
    exact ((keeps_begin U e miss object).trans walked).trans (keeps_close _ _ _ _ _)
  | untagged untagged inner ih => exact ih
  | @tagged id path field text type rest e resolved e₁ result e' content first live inner ih₁ ih₂ =>
    have start : Keeps (min (id.number - 1) e.arena.size) e e₁ := ih₁.mono (min_le_right _ _)
    have added := (keeps_expose U e₁ id path field.name (.parse text) type resolved).mono
      (min_le_left _ e.arena.size)
    refine (start.trans added).trans (ih₂.mono ?_)
    have grown := start.size
    simp only [Call.base, expose_arena, Arena.size_modify]
    omega
  | stopped content first ih => exact ih.mono (min_le_right _ _)
  | dangling content first dead ih =>
    refine (ih.mono (min_le_right _ _)).trans (Keeps.trans ?_ (keeps_meet _ _ _ _))
    unfold warn
    split
    · exact keeps_note _ _ _
    · exact Keeps.refl _ _

/-- A call changes no object that was there before it but the one whose fields it walks over. -/
theorem untouched (course : Course U call e result e') {other : ObjectId}
    (live : e.arena.contains other) (different : call.target? ≠ some other) :
    e'.arena.get? other = e.arena.get? other := by
  have number_le : ∀ {e : Encoder n}, e.arena.contains other → other.number ≤ e.arena.size :=
    fun live => ((Arena.contains_iff _ other).1 live).2
  cases call with
  | resolve | build | object =>
    exact course.keeps.objects other (number_le live)
  | walk id path fields =>
    have apart : id ≠ other := fun same => different (congrArg some same)
    induction fields generalizing e with
    | nil =>
      cases course
      rfl
    | cons field rest ih =>
      cases course with
      | untagged untagged inner => exact ih live inner different
      | stopped content first => exact first.keeps.objects other (number_le live)
      | @tagged _ _ _ text type _ _ resolved e₁ _ _ content first present inner =>
        have exposed := keeps_expose U e₁ id path field.name (.parse text) type resolved
        have still := exposed.live (first.keeps.live live)
        rw [ih still inner different, get?_expose_of_ne U e₁ id _ _ _ _ _ apart]
        exact first.keeps.objects other (number_le live)
      | dangling content first dead =>
        rw [meet_arena, warn_arena]
        exact first.keeps.objects other (number_le live)

end Course

/-! ## What a course finds and leaves -/

theorem Encoder.hooksOf_of_registry (U : Universe n) {e e' : Encoder n}
    (same : e'.registry = e.registry) (type : TypeExpr n) :
    e'.hooksOf U type = e.hooksOf U type := by
  rw [Encoder.hooksOf_eq, Encoder.hooksOf_eq, same]

theorem Encoder.hooksOf_of_met (U : Universe n) {e e' : Encoder n} {met : TypeExpr n}
    (grown : e'.registry = e.registry.getOrRegister U met) (type : TypeExpr n) :
    e'.hooksOf U type = e.hooksOf U type := by
  rw [Encoder.hooksOf_eq, Encoder.hooksOf_eq, grown, Registry.hooks?_getOrRegister]
  split
  · next same => subst same; rfl
  · rfl

namespace Course

variable {U : Universe n} {call : Call n} {e e' : Encoder n}
  {result : Except EncodeError SchemaType}

/-- A build changes the hooks of no type. -/
theorem hooksOf (course : Course U call e result e') (met : TypeExpr n) :
    e'.hooksOf U met = e.hooksOf U met := by
  induction course with
  | pointer inner ih => exact ih
  | recorded | objectRecorded | notStruct | notSupported | done => rfl
  | recalled | objectRecalled | notAnObject => rfl
  | resolved plain miss inner ih => exact (Encoder.hooksOf_of_registry U rfl met).trans ih
  | refused plain miss inner ih => exact ih
  | provided | scalar | unrecognized => exact Encoder.hooksOf_of_met U rfl met
  | list free other listed inner ih | struct free other struct inner ih =>
    exact ih.trans (Encoder.hooksOf_of_met U rfl met)
  | begun miss struct made inner ih =>
    exact (Encoder.hooksOf_of_registry U (Encoder.close_registry _ _ _ _) met).trans
      (ih.trans (Encoder.hooksOf_of_registry U rfl met))
  | untagged untagged inner ih => exact ih
  | tagged content first live inner ih₁ ih₂ =>
    exact ih₂.trans ((Encoder.hooksOf_of_met U (Encoder.expose_registry U _ _ _ _ _ _ _)
      met).trans ih₁)
  | stopped content first ih => exact ih
  | @dangling id path field text type rest e resolved e₁ content first dead ih =>
    have grown : ((e₁.warn U type (.parse text) resolved).meet U type.withoutPointers).registry =
        e₁.registry.getOrRegister U type.withoutPointers := by
      rw [Encoder.meet_registry, Encoder.warn_registry]
    exact (Encoder.hooksOf_of_met U grown met).trans ih

/-- A walk over the fields of an object ends with this object. -/
theorem eq_object_of_walk {id : ObjectId} {path : String} {fields : List (RecordField n)}
    {resolved : SchemaType} (course : Course U (.walk id path fields) e (.ok resolved) e') :
    resolved = .object id := by
  induction fields generalizing e with
  | nil => cases course; rfl
  | cons field rest ih =>
    cases course with
    | untagged untagged inner => exact ih inner
    | tagged content first live inner => exact ih inner

/-- An object that was built is cached. -/
theorem lookup_of_object {type : TypeExpr n} {options : List (SchemaOption n)}
    {resolved : SchemaType} (course : Course U (.object type options) e (.ok resolved) e') :
    e'.cache.lookup U type = some resolved := by
  cases course with
  | objectRecalled hit sound => exact hit
  | @begun _ _ _ object fields _ e₁ miss struct made inner =>
    have stored : (e.begin U type object).cache.lookup U type = some (.object e.arena.nextId) :=
      TypeCache.lookup_register_self U e.cache type _
    have kept := inner.keeps.lookup stored
    rw [inner.eq_object_of_walk]
    exact (Encoder.keeps_close 0 e₁ _ _ _).lookup kept

/-- A type that was resolved is cached. -/
theorem lookup_of_resolve {type : TypeExpr n} {resolved : SchemaType}
    (course : Course U (.resolve type) e (.ok resolved) e') :
    e'.cache.lookup U type = some resolved := by
  induction type with
  | pointer shape pointee ih =>
    cases course with
    | pointer inner =>
      rw [← TypeCache.lookup_withoutPointers]
      exact (TypeCache.lookup_withoutPointers U _ pointee).trans (ih inner)
    | recalled plain | resolved plain => cases plain
  | native | declared | list | array | map =>
    cases course with
    | recalled plain hit sound => exact hit
    | resolved plain miss inner => exact TypeCache.lookup_register_self U _ _ _

end Course

end RecordSchema
