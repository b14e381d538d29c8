import RecordSchema.Proofs.Growth
import RecordSchema.Proofs.Reference

/-!
# The encoder mirrors the meanings of types

While schema types are built, the structs that objects were begun for are numbered in the order in
which they were begun, and what is cached for a type is its meaning in this order: `Mirrors` says
so.  A type whose meaning needs an unfinished object is no exception, for the order has numbered the
object already.  Every call goes on from there: it fails only on a type that is not recognized, and
otherwise adds to the order what a depth-first walk adds, finishes the objects that it begins and
results in the meaning of its type (`Course.mirrors`).

All this is about a region of types that is closed under what its types lead to and whose types have
different keys.  The types that are reached from a struct are one such region, those that are
reached from any of several requests another.
-/

namespace RecordSchema

variable {n : Nat}

open Encoder Reference

/-- A region of types without pointers that holds whatever its types lead to, and whose types have
different keys. -/
structure Reference.Regular (U : Universe n) (hooks : TypeExpr n → Hooks) (policy : KeyPolicy)
    (region : TypeExpr n → Prop) : Prop where
  plain : ∀ type, region type → type.isPointer = false
  closed : ∀ a b, region a → Leads U hooks a b → region b
  distinct : ∀ a b, region a → region b → policy.text U a = policy.text U b → a = b

/-! ## The encoder on the way -/

/-- What holds while types of a region are built, when objects were begun for structs in this order.
-/
structure Encoder.Mirrors (U : Universe n) (hooks : TypeExpr n → Hooks) (policy : KeyPolicy)
    (region : TypeExpr n → Prop) (order : List (TypeExpr n)) (e : Encoder n) : Prop where
  hooked : ∀ type, e.hooksOf U type = hooks type
  policy : e.cache.policy = policy
  unmarked : ∀ id, e.cache.failures.get? id = none
  size : e.arena.size = order.length
  nodup : order.Nodup
  reached : ∀ struct ∈ order, region struct
  structs : ∀ struct ∈ order, U.isStruct struct ∧ (hooks struct).typeProvider = none
  /-- What is cached is meant. -/
  entries : ∀ type found, region type → e.cache.lookup U type = some found →
    meaning U hooks order type = some found
  /-- All structs with an object are cached. -/
  known : ∀ struct ∈ order, ∃ found, e.cache.lookup U struct = some found

section Steps

variable {U : Universe n} {hooks : TypeExpr n → Hooks} {policy : KeyPolicy}
  {region : TypeExpr n → Prop} {type : TypeExpr n}
  {order : List (TypeExpr n)} {e e' : Encoder n}

namespace Encoder.Mirrors

theorem congr (faithful : Mirrors U hooks policy region order e) (cache : e'.cache = e.cache)
    (size : e'.arena.size = e.arena.size) (hooked : ∀ type, e'.hooksOf U type = e.hooksOf U type) :
    Mirrors U hooks policy region order e' where
  hooked type := (hooked type).trans (faithful.hooked type)
  policy := by rw [cache, faithful.policy]
  unmarked := by rw [cache]; exact faithful.unmarked
  size := size.trans faithful.size
  nodup := faithful.nodup
  reached := faithful.reached
  structs := faithful.structs
  entries := by rw [cache]; exact faithful.entries
  known := by rw [cache]; exact faithful.known

theorem met (faithful : Mirrors U hooks policy region order e) (event : Event n)
    (type : TypeExpr n) :
    Mirrors U hooks policy region order ((e.note event).meet U type) :=
  faithful.congr rfl rfl fun _ => hooksOf_of_met U rfl _

theorem sound (faithful : Mirrors U hooks policy region order e) (found : SchemaType) :
    e.cache.failure? found = none := by
  unfold TypeCache.failure?
  cases found.namedObject? with
  | none => rfl
  | some id => exact faithful.unmarked id

/-- The types of the region are told apart by the cache. -/
theorem eq_of_key (faithful : Mirrors U hooks policy region order e)
    (regular : Regular U hooks policy region) {a b : TypeExpr n} (reachedA : region a)
    (reachedB : region b) (same : e.cache.key U a = e.cache.key U b) : a = b := by
  rw [TypeCache.key_eq, TypeCache.key_eq, faithful.policy,
    TypeExpr.withoutPointers_eq_self (regular.plain a reachedA),
    TypeExpr.withoutPointers_eq_self (regular.plain b reachedB)] at same
  exact regular.distinct a b reachedA reachedB same

/-- A type may be cached with its meaning. -/
theorem store (faithful : Mirrors U hooks policy region order e)
    (regular : Regular U hooks policy region) (reached : region type)
    {resolved : SchemaType} (means : meaning U hooks order type = some resolved) :
    Mirrors U hooks policy region order (e.store U type resolved) where
  hooked := faithful.hooked
  policy := faithful.policy
  unmarked := faithful.unmarked
  size := faithful.size
  nodup := faithful.nodup
  reached := faithful.reached
  structs := faithful.structs
  entries other found reached' hit := by
    rw [store_cache, TypeCache.lookup_register] at hit
    split at hit
    · next same =>
      cases hit
      rwa [← faithful.eq_of_key regular reached reached' same]
    · exact faithful.entries other found reached' hit
  known struct listed := by
    rw [store_cache, TypeCache.lookup_register]
    split
    · exact ⟨resolved, rfl⟩
    · exact faithful.known struct listed

/-- The next object is that of the next struct. -/
theorem handle?_nextId (faithful : Mirrors U hooks policy region order e)
    (outside : type ∉ order) :
    handle? (order ++ [type]) type = some e.arena.nextId := by
  unfold handle? Arena.nextId
  rw [if_pos (by simp), List.idxOf_append, if_neg outside, faithful.size]
  simp

theorem not_mem_of_miss (faithful : Mirrors U hooks policy region order e)
    (miss : e.cache.lookup U type = none) : type ∉ order := fun inside => by
  obtain ⟨found, hit⟩ := faithful.known type inside
  rw [miss] at hit
  cases hit

/-- An object may be begun for a struct without provider that has none. -/
theorem begin (faithful : Mirrors U hooks policy region order e)
    (regular : Regular U hooks policy region) (reached : region type)
    (struct : U.isStruct type) (free : (hooks type).typeProvider = none)
    (miss : e.cache.lookup U type = none) (object : ObjectType) :
    Mirrors U hooks policy region (order ++ [type]) (e.begin U type object) where
  hooked := faithful.hooked
  policy := faithful.policy
  unmarked := faithful.unmarked
  size := by simp [faithful.size]
  nodup := by
    rw [List.nodup_append]
    refine ⟨faithful.nodup, by simp, ?_⟩
    rintro a inside b once rfl
    rw [List.mem_singleton.1 once] at inside
    exact faithful.not_mem_of_miss miss inside
  reached other listed := by
    rcases List.mem_append.1 listed with old | new
    · exact faithful.reached other old
    · rwa [List.mem_singleton.1 new]
  structs other listed := by
    rcases List.mem_append.1 listed with old | new
    · exact faithful.structs other old
    · rw [List.mem_singleton.1 new]
      exact ⟨struct, free⟩
  entries other found reached' hit := by
    rw [begin_cache, TypeCache.lookup_register] at hit
    split at hit
    · next same =>
      cases hit
      have leaf : leaf? U hooks type = none := leaf?_of_struct struct free
      rw [← faithful.eq_of_key regular reached reached' same, meaning_of_struct leaf struct,
        faithful.handle?_nextId (faithful.not_mem_of_miss miss), Option.map_some]
    · exact meaning_mono (List.prefix_append _ _) (faithful.entries other found reached' hit)
  known other listed := by
    rw [begin_cache, TypeCache.lookup_register]
    split
    · exact ⟨_, rfl⟩
    · next apart =>
      rcases List.mem_append.1 listed with old | new
      · exact faithful.known other old
      · rw [List.mem_singleton.1 new] at apart
        exact absurd rfl apart

end Encoder.Mirrors

end Steps

/-- An encoder that has built nothing. -/
theorem Encoder.mirrors_start {U : Universe n} {policy : KeyPolicy} {e : Encoder n}
    (region : TypeExpr n → Prop) (cache : e.cache = .empty policy) (arena : e.arena = .empty) :
    Mirrors U (e.hooksOf U) policy region [] e where
  hooked _ := rfl
  policy := by rw [cache]; rfl
  unmarked id := by rw [cache]; rfl
  size := by rw [arena]; rfl
  nodup := List.nodup_nil
  reached _ listed := nomatch listed
  structs _ listed := nomatch listed
  entries type found _ hit := by
    rw [cache] at hit
    cases hit
  known _ listed := nomatch listed

/-! ## What a call adds -/

/-- The structs that a call needs. -/
def Call.needed (U : Universe n) (hooks : TypeExpr n → Hooks) : Call n → List (TypeExpr n)
  | .resolve type | .build type => (needed? U hooks type).toList
  | .object type _ => [type]
  | .walk _ _ fields => allNeeded U hooks fields

/-- A call that can be made on the way: for a type of the region, or for an object of the arena and
fields of such types. -/
def Call.Fits (U : Universe n) (hooks : TypeExpr n → Hooks) (region : TypeExpr n → Prop)
    (e : Encoder n) : Call n → Prop
  | .resolve type => region type.withoutPointers
  | .build type => region type
  | .object type options => region type ∧ U.isStruct type ∧
      (hooks type).typeProvider = none ∧ options = []
  | .walk id _ fields => e.arena.contains id ∧
      ∀ field ∈ fields, ∀ text content, field.content = .tagged text content →
        region content.withoutPointers

/-- What a successful call does to the reference schema: it goes on with the depth-first walk,
finishes the objects of all structs that it comes to, and results in the meaning of its type. -/
structure Call.Adds (U : Universe n) (hooks : TypeExpr n → Hooks) (policy : KeyPolicy)
    (region : TypeExpr n → Prop) (order : List (TypeExpr n)) (call : Call n) (e : Encoder n)
    (resolved : SchemaType) (e' : Encoder n) (order' : List (TypeExpr n)) : Prop where
  faithful : Mirrors U hooks policy region order' e'
  walk : DepthFirst (nested U hooks) order (call.needed U hooks) order'
  means : ∀ type, call.type? = some type → meaning U hooks order' type = some resolved
  finished : ∀ position struct, order.length ≤ position → order'[position]? = some struct →
    Finished U hooks order' e'.arena position struct
  walked : ∀ id path fields, call = .walk id path fields → ∀ before object,
    e.arena.get? id = some object → Describes U hooks order before object →
      ∃ object', e'.arena.get? id = some object' ∧ object'.name = object.name ∧
        object'.description = object.description ∧
          Describes U hooks order' (before ++ fields) object'

/-- A call fails only if the region holds a type that is not recognized. -/
def Call.Computes (U : Universe n) (hooks : TypeExpr n → Hooks) (policy : KeyPolicy)
    (region : TypeExpr n → Prop) (order : List (TypeExpr n)) (call : Call n) (e : Encoder n)
    (result : Except EncodeError SchemaType) (e' : Encoder n) : Prop :=
  match result with
  | .error _ => ∃ type, region type ∧ Unrecognized U hooks type
  | .ok resolved => ∃ order', call.Adds U hooks policy region order e resolved e' order'

section Calls

variable {U : Universe n} {hooks : TypeExpr n → Hooks} {policy : KeyPolicy}
  {region : TypeExpr n → Prop} {type item struct : TypeExpr n}
  {order order' order₁ : List (TypeExpr n)} {e e₁ e' : Encoder n} {call : Call n}
  {resolved : SchemaType}

/-- The struct that a type needs was seen if the type has a meaning. -/
theorem walk_of_means (means : meaning U hooks order type = some resolved) :
    DepthFirst (nested U hooks) order (needed? U hooks type).toList order := by
  cases needs : needed? U hooks type with
  | none => exact .done
  | some struct => exact .known (needed?_mem means needs) .done

/-- A call for a type that already has a meaning adds nothing. -/
theorem Call.adds_nothing (faithful : Mirrors U hooks policy region order e')
    (asked : call.type? = some type) (needs : DepthFirst (nested U hooks) order
      (call.needed U hooks) order) (means : meaning U hooks order type = some resolved) :
    call.Adds U hooks policy region order e resolved e' order where
  faithful := faithful
  walk := needs
  means other asked' := by
    rw [asked] at asked'
    cases asked'
    exact means
  finished position struct above inside := by
    have below := (List.getElem?_eq_some_iff.1 inside).1
    omega
  walked id path fields same := by
    subst same
    cases asked

/-- Building a leaf adds nothing. -/
theorem Call.adds_leaf (faithful : Mirrors U hooks policy region order e')
    (plain : type.isPointer = false) (leaf : leaf? U hooks type = some resolved) :
    (Call.build type).Adds U hooks policy region order e resolved e' order := by
  have means : meaning U hooks order type = some resolved := meaning_of_leaf plain leaf
  exact Call.adds_nothing faithful rfl (walk_of_means means) means

/-- A call adds what a call inside it adds. -/
theorem Call.Adds.pass {inner : Call n} {start : Encoder n} {resolved' : SchemaType}
    (adds : inner.Adds U hooks policy region order start resolved e₁ order')
    (faithful : Mirrors U hooks policy region order' e') (arena : e'.arena = e₁.arena)
    (needs : call.needed U hooks = inner.needed U hooks) (asked : call.type? = some type)
    (means : meaning U hooks order' type = some resolved') :
    call.Adds U hooks policy region order e resolved' e' order' where
  faithful := faithful
  walk := by
    rw [needs]
    exact adds.walk
  means other asked' := by
    rw [asked] at asked'
    cases asked'
    exact means
  finished position struct above inside := by
    refine (adds.finished position struct above inside).mono ?_ (List.prefix_refl _)
    rw [arena]
  walked id path fields same := by
    subst same
    cases asked

/-- A new object is finished by the walk over its fields. -/
theorem Call.Adds.begun {fields : List (RecordField n)} {path : String} {outermost : Bool}
    (faithful : Mirrors U hooks policy region order e) (detail : U.detail type = .struct fields)
    (leaf : leaf? U hooks type = none) (miss : e.cache.lookup U type = none)
    (adds : (Call.walk e.arena.nextId path fields).Adds U hooks policy region (order ++ [type])
      (e.begin U type { name := objectName (U.name type) }) (.object e.arena.nextId) e₁ order') :
    (Call.object type []).Adds U hooks policy region order e (.object e.arena.nextId)
      (e₁.close outermost path (.ok (SchemaType.object e.arena.nextId))) order' := by
  have outside := faithful.not_mem_of_miss miss
  have struct : U.isStruct type := Universe.isStruct_of_detail detail
  have closed : Mirrors U hooks policy region order'
      (e₁.close outermost path (.ok (SchemaType.object e.arena.nextId))) := by
    refine adds.faithful.congr ?_ (by rw [close_arena]) fun other => ?_
    · cases outermost <;> rfl
    · exact hooksOf_of_registry U (close_registry _ _ _ _) other
  constructor
  · exact closed
  · have inner := adds.walk
    refine .new outside ?_ .done
    unfold nested
    rw [detail]
    exact inner
  · rintro _ ⟨⟩
    rw [meaning_of_struct leaf struct,
      handle?_mono adds.walk.grows (faithful.handle?_nextId outside),
      Option.map_some]
  · intro position other above inside
    rcases Nat.eq_or_lt_of_le above with rfl | later
    · have own : order'[order.length]? = some type := by
        obtain ⟨rest, rfl⟩ := adds.walk.grows
        simp
      rw [own] at inside
      cases inside
      have started : (e.begin U type { name := objectName (U.name type) }).arena.get?
          e.arena.nextId = some { name := objectName (U.name type) } :=
        Arena.get?_insert_nextId _ _
      obtain ⟨object, found, name, description, describes⟩ :=
        adds.walked _ _ _ rfl [] _ started (.nil rfl)
      refine ⟨fields, object, detail, ?_, named_iff.2 name, description, describes⟩
      rw [close_arena, ← faithful.size]
      exact found
    · have above : (order ++ [type]).length ≤ position := by
        rw [List.length_append]
        exact later
      refine (adds.finished position other above inside).mono ?_ (List.prefix_refl _)
      rw [close_arena]
  · intro id path fields same
    cases same

/-- A field without tag adds nothing. -/
theorem Call.Adds.untagged {id : ObjectId} {path : String} {field : RecordField n}
    {rest : List (RecordField n)} (untagged : field.tag? = none)
    (adds : (Call.walk id path rest).Adds U hooks policy region order e resolved e' order') :
    (Call.walk id path (field :: rest)).Adds U hooks policy region order e resolved e' order' where
  faithful := adds.faithful
  walk := by
    change DepthFirst _ order (allNeeded U hooks (field :: rest)) order'
    rw [allNeeded_cons_of_untagged untagged]
    exact adds.walk
  means _ asked := nomatch asked
  finished := adds.finished
  walked := by
    rintro _ _ _ ⟨⟩ before object found describes
    obtain ⟨object', rest⟩ := adds.walked id path rest rfl (before ++ [field]) object found
      (describes.untagged untagged)
    rw [List.append_assoc] at rest
    exact ⟨object', rest⟩

/-- The type of a tagged field is resolved, the object exposes the field, and the walk goes on. -/
theorem Call.Adds.tagged {id : ObjectId} {path text : String} {field : RecordField n}
    {rest : List (RecordField n)} {final : SchemaType}
    (faithful : Mirrors U hooks policy region order e) (live : e.arena.contains id)
    (content : field.content = .tagged text type)
    (course : Course U (.resolve type) e (.ok resolved) e₁)
    (first : (Call.resolve type).Adds U hooks policy region order e resolved e₁ order₁)
    (course' : Course U (.walk id path rest)
      (e₁.expose U id path field.name (.parse text) type resolved) (.ok final) e')
    (second : (Call.walk id path rest).Adds U hooks policy region order₁
      (e₁.expose U id path field.name (.parse text) type resolved) final e' order') :
    (Call.walk id path (field :: rest)).Adds U hooks policy region order e final e' order' := by
  have below := (Arena.contains_iff _ id).1 live
  have means := first.means type rfl
  constructor
  · exact second.faithful
  · change DepthFirst _ order (allNeeded U hooks (field :: rest)) order'
    rw [allNeeded_cons_of_tagged content]
    exact first.walk.append second.walk
  · exact fun _ asked => nomatch asked
  · intro position struct above inside
    by_cases early : position < order₁.length
    · have own : order₁[position]? = some struct := by
        obtain ⟨later, rfl⟩ := second.walk.grows
        rwa [List.getElem?_append_left early] at inside
      refine (first.finished position struct above own).mono ?_ second.walk.grows
      have apart : id ≠ ⟨position + 1⟩ := fun same => by
        rw [same, faithful.size] at below
        simp at below
        omega
      have present : (e₁.expose U id path field.name (.parse text) type resolved).arena.contains
          ⟨position + 1⟩ := by
        rw [contains_expose, Arena.contains_iff, first.faithful.size]
        exact ⟨Nat.succ_pos _, early⟩
      rw [course'.untouched present fun same => apart (Option.some.inj same),
        get?_expose_of_ne U e₁ id _ _ _ _ _ apart]
    · exact second.finished position struct (not_lt.1 early) inside
  · rintro _ _ _ ⟨⟩ before object found describes
    have still : e₁.arena.get? id = some object := by
      rw [course.untouched live (fun same => nomatch same), found]
    have added : (e₁.expose U id path field.name (.parse text) type resolved).arena.get? id =
        some (object.addField (FieldTag.parse text).name
          (exposed hooks (.parse text) type resolved)).2 := by
      rw [get?_expose_self, still, Option.map_some]
      unfold fieldFor exposed
      rw [first.faithful.hooked, typeUnder_eq]
    obtain ⟨object', rest'⟩ := second.walked id path rest rfl (before ++ [field]) _ added
      ((describes.mono first.walk.grows).tagged content means)
    rw [List.append_assoc] at rest'
    exact ⟨object', rest'⟩

/-- A call computes what a call inside it computes if it adds what that one adds. -/
theorem Call.Computes.through {inner : Call n} {inside : List (TypeExpr n)} {start : Encoder n}
    {result : Except EncodeError SchemaType}
    (computes : inner.Computes U hooks policy region inside start result e₁)
    (adds : ∀ resolved order', result = .ok resolved →
      inner.Adds U hooks policy region inside start resolved e₁ order' →
        call.Adds U hooks policy region order e resolved e' order') :
    call.Computes U hooks policy region order e result e' := by
  cases result with
  | error error => exact computes
  | ok resolved =>
    obtain ⟨order', added⟩ := computes
    exact ⟨order', adds resolved order' rfl added⟩

theorem Call.reached_of_fits (plain : type.isPointer = false)
    (fits : (Call.resolve type).Fits U hooks region e) : region type := by
  have reached : region type.withoutPointers := fits
  rwa [TypeExpr.withoutPointers_eq_self plain] at reached

/-- Whatever the encoder does on the way is what the reference schema says. -/
theorem Course.mirrors {result : Except EncodeError SchemaType}
    (course : Course U call e result e')
    (regular : Regular U hooks policy region)
    (order : List (TypeExpr n)) (fits : call.Fits U hooks region e)
    (faithful : Mirrors U hooks policy region order e) :
    call.Computes U hooks policy region order e result e' := by
  -- By induction on the course.  The order is not fixed: each call goes on from the structs that
  -- the calls before it have come to.
  induction course generalizing order with
  | @pointer shape pointee e result e' inner ih =>
    refine (ih order fits faithful).through fun resolved order' _ adds => ?_
    exact adds.pass adds.faithful rfl rfl rfl (adds.means pointee rfl)
  | recorded plain' hit failed | objectRecorded hit failed =>
    rw [faithful.sound] at failed
    cases failed
  | recalled plain' hit sound =>
    have means := faithful.entries _ _ (Call.reached_of_fits plain' fits) hit
    refine ⟨order, Call.adds_nothing ?_ rfl (walk_of_means means) means⟩
    exact faithful.congr rfl rfl fun _ => rfl
  | @resolved type e built e' plain' miss inner ih =>
    have reached := Call.reached_of_fits plain' fits
    obtain ⟨order', adds⟩ := ih order reached faithful
    have means := adds.means type rfl
    exact ⟨order', adds.pass (adds.faithful.store regular reached means) rfl rfl rfl means⟩
  | refused plain' miss inner ih => exact ih order (Call.reached_of_fits plain' fits) faithful
  | @provided type e given hook =>
    have leaf : leaf? U hooks type = some given := by
      rw [leaf?_eq, ← faithful.hooked, hook, Option.some_or]
    exact ⟨order, Call.adds_leaf (faithful.met _ _) (regular.plain type fits) leaf⟩
  | @scalar type e scalar free native =>
    have leaf : leaf? U hooks type = some (.scalar scalar) := by
      rw [leaf?_eq, ← faithful.hooked, free, native]
      rfl
    exact ⟨order, Call.adds_leaf (faithful.met _ _) (regular.plain type fits) leaf⟩
  | @list type item e result e' free other listed inner ih =>
    rw [faithful.hooked] at free
    have leaf : leaf? U hooks type = none := leaf?_of_item listed free
    have computes := ih order (regular.closed _ _ fits (.item free listed)) (faithful.met _ _)
    cases result with
    | error error => exact computes
    | ok resolved =>
      obtain ⟨order', adds⟩ := computes
      refine ⟨order', adds.pass adds.faithful rfl ?_ rfl ?_⟩
      · exact congrArg Option.toList (needed?_of_item leaf listed)
      · rw [meaning_of_item leaf listed, adds.means item rfl, Option.map_some]
  | @struct type e result e' free other struct inner ih =>
    rw [faithful.hooked] at free
    have leaf : leaf? U hooks type = none := leaf?_of_struct struct free
    have computes := ih order ⟨fits, struct, free, rfl⟩ (faithful.met _ _)
    refine computes.through fun resolved order' _ adds => ?_
    refine adds.pass adds.faithful rfl ?_ rfl (adds.means type rfl)
    exact congrArg Option.toList (needed?_of_struct leaf struct)
  | @unrecognized type e free other unlisted noStruct =>
    refine ⟨type, fits, regular.plain type fits, ?_, noStruct, unlisted⟩
    rw [leaf?_eq, ← faithful.hooked, free, other]
    rfl
  | @objectRecalled type options e id hit sound =>
    have means := faithful.entries _ _ fits.1 hit
    refine ⟨order, Call.adds_nothing ?_ rfl ?_ means⟩
    · exact faithful.congr rfl rfl fun _ => rfl
    · have leaf : leaf? U hooks type = none := leaf?_of_struct fits.2.1 fits.2.2.1
      have walk := walk_of_means means
      rwa [needed?_of_struct leaf fits.2.1] at walk
  | @notAnObject type options e found hit sound other =>
    obtain ⟨reached, struct, free, -⟩ := fits
    have means := faithful.entries _ _ reached hit
    rw [meaning_of_struct (leaf?_of_struct struct free) struct, Option.map_eq_some_iff] at means
    obtain ⟨id, -, rfl⟩ := means
    cases other
  | notStruct miss noStruct =>
    rw [fits.2.1] at noStruct
    cases noStruct
  | notSupported miss struct refusal =>
    rw [fits.2.2.2] at refusal
    cases refusal
  | @begun type options e object fields result e' miss detail made inner ih =>
    obtain ⟨reached, struct, free, rfl⟩ := fits
    cases made
    have leaf : leaf? U hooks type = none := leaf?_of_struct struct free
    have begins := faithful.begin regular reached struct free miss
      { name := objectName (U.name type) }
    have live := Arena.contains_of_get? (Arena.get?_insert_nextId e.arena
      { name := objectName (U.name type) })
    have computes := ih _ ⟨live, fun field listed text content tagged =>
      regular.closed _ _ reached (.field free detail listed tagged)⟩ begins
    refine computes.through fun resolved order' ok adds => ?_
    subst ok
    have own := inner.eq_object_of_walk
    subst own
    exact .begun faithful detail leaf miss adds
  | @done id path e =>
    refine ⟨order, faithful, .done, fun _ asked => (nomatch asked), ?_, ?_⟩
    · intro position struct above inside
      have below := (List.getElem?_eq_some_iff.1 inside).1
      omega
    · rintro _ _ _ ⟨⟩ before object found describes
      rw [List.append_nil]
      exact ⟨object, found, rfl, rfl, describes⟩
  | @untagged id path field rest e result e' untagged inner ih =>
    have computes := ih order
      ⟨fits.1, fun other listed => fits.2 other (List.mem_cons_of_mem _ listed)⟩ faithful
    exact computes.through fun resolved order' _ adds => adds.untagged untagged
  | @tagged id path field text type rest e resolved e₁ result e' content first live inner ih₁ ih₂ =>
    obtain ⟨order₁, adds₁⟩ := ih₁ order (fits.2 field List.mem_cons_self text type content) faithful
    have exposed : Mirrors U hooks policy region order₁
        (e₁.expose U id path field.name (.parse text) type resolved) := by
      refine adds₁.faithful.congr (by simp) (by simp) fun other => ?_
      exact hooksOf_of_met U (e₁.expose_registry U id path field.name _ type resolved) other
    have still :
        (e₁.expose U id path field.name (.parse text) type resolved).arena.contains id := by
      rw [contains_expose]
      exact live
    have computes := ih₂ order₁
      ⟨still, fun other listed => fits.2 other (List.mem_cons_of_mem _ listed)⟩ exposed
    refine computes.through fun final order' ok adds₂ => ?_
    subst ok
    exact .tagged faithful fits.1 content first adds₁ inner adds₂
  | stopped content first ih =>
    exact ih order (fits.2 _ List.mem_cons_self _ _ content) faithful
  | dangling content first dead ih =>
    have live := first.keeps.live fits.1
    rw [dead] at live
    cases live

end Calls

end RecordSchema
