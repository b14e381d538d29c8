import RecordSchema.Proofs.Ensured
import RecordSchema.Proofs.Soundness

/-!
# Properties of all schema types

Schema types come into an encoder through providers and through the options of fields.  All others
are made from scalars and handles by two operations: a list is put around a type, and a tag makes a
type required.  A property that respects this (`SchemaType.Inherited`) and that all types from
outside have is therefore a property of every schema type in the cache, in the arena and in the
answers, after every session (`Session.throughout`).
-/

namespace RecordSchema

variable {n : Nat}

open Encoder

/-- A property of schema types that an encoder cannot lose by what it makes of them. -/
structure SchemaType.Inherited (good : SchemaType → Prop) : Prop where
  scalar : ∀ leaf, good (.scalar leaf)
  object : ∀ id, good (.object id)
  list : ∀ item, good item → good (.list item)
  required : ∀ type, good type → good type.required

/-- Every schema type that an encoder stores has a property, be it cached or shown by an object. -/
structure Encoder.Throughout (good : SchemaType → Prop) (e : Encoder n) : Prop where
  entries : ∀ key found, e.cache.types.get? key = some found → good found
  fields : ∀ id object, e.arena.get? id = some object →
    ∀ field ∈ object.fields.values, field.Throughout good

/-- Every schema type in an answer has a property. -/
def Answer.Throughout (good : SchemaType → Prop) : Answer → Prop
  | .arguments given => ArgumentMap.Throughout good given
  | .type given => good given
  | .field given => given.Throughout good
  | .object _ | .attached _ => True

/-- A request gives a field only types with a property in the place of its own. -/
def Request.ReplacesOnly (good : SchemaType → Prop) (request : Request n) : Prop :=
  ∀ replacement ∈ request.replacements, good replacement

/-- A request attaches no provider of a type without a property. -/
def Request.AttachesOnly (good : SchemaType → Prop) (request : Request n) : Prop :=
  ∀ hook, request.hook? = some hook → hook.ProvidesOnly good

/-! ## Builds -/

namespace Encoder.Throughout

variable {U : Universe n} {good : SchemaType → Prop} {e e' : Encoder n}

theorem new (U : Universe n) (policy : KeyPolicy) : Throughout good (.new U policy) where
  entries key found hit := by cases hit
  fields id object found := by
    have inside := (Arena.contains_iff _ id).1 (Arena.contains_of_get? found)
    exact absurd inside.1 (not_lt.2 inside.2)

variable (throughout : Throughout good e)

include throughout

theorem congr (types : e'.cache.types = e.cache.types) (arena : e'.arena = e.arena) :
    Throughout good e' where
  entries := by rw [types]; exact throughout.entries
  fields := by rw [arena]; exact throughout.fields

theorem store (type : TypeExpr n) {resolved : SchemaType} (given : good resolved) :
    Throughout good (e.store U type resolved) where
  entries key found stored := by
    rw [store_cache, TypeCache.types_register] at stored
    split at stored
    · cases stored
      exact given
    · exact throughout.entries key found stored
  fields := throughout.fields

/-- A new object has no fields yet. -/
theorem begin (struct : TypeExpr n) {object : ObjectType} (fresh : object.fields = .empty)
    (handle : good (.object e.arena.nextId)) : Throughout good (e.begin U struct object) where
  entries key found stored := by
    rw [begin_cache, TypeCache.types_register] at stored
    split at stored
    · cases stored
      exact handle
    · exact throughout.entries key found stored
  fields id other found field listed := by
    by_cases new : id.number ≤ e.arena.size
    · rw [begin_arena, Arena.get?_insert_of_le object new] at found
      exact throughout.fields id other found field listed
    · have last := (Arena.contains_iff _ id).1 (Arena.contains_of_get? found)
      rw [begin_arena, Arena.size_insert] at last
      have same : id = e.arena.nextId := by
        obtain ⟨number⟩ := id
        exact congrArg ObjectId.mk (by simp only at last new; omega)
      rw [same, begin_arena, Arena.get?_insert_nextId] at found
      cases found
      rw [fresh] at listed
      cases listed

theorem expose (inherited : SchemaType.Inherited good) (id : ObjectId)
    (structPath fieldName : String) (tag : FieldTag) (type : TypeExpr n) {resolved : SchemaType}
    (given : good resolved) :
    Throughout good (e.expose U id structPath fieldName tag type resolved) where
  entries key found stored := by
    rw [expose_cache] at stored
    exact throughout.entries key found stored
  fields other object found field listed := by
    by_cases different : id = other
    · subst different
      rw [get?_expose_self, Option.map_eq_some_iff] at found
      obtain ⟨old, present, rfl⟩ := found
      rcases OrderedMap.mem_values_insert listed with rfl | kept
      · refine ⟨?_, ArgumentMap.throughout_empty good⟩
        change good (taggedType tag resolved)
        unfold taggedType
        split
        · exact inherited.required resolved given
        · exact given
      · exact throughout.fields id old present field kept
    · rw [get?_expose_of_ne U e id structPath fieldName tag type resolved different] at found
      exact throughout.fields other object found field listed

end Encoder.Throughout

section Builds

variable {U : Universe n} {good : SchemaType → Prop} {call : Call n} {e e' : Encoder n}
  {result : Except EncodeError SchemaType}

/-- Whatever a build ends with, no schema type without the property was stored, and it does not
result in one. -/
theorem Course.throughout (inherited : SchemaType.Inherited good)
    (course : Course U call e result e') (provides : ProvidesOnly U good e)
    (before : e.Throughout good) :
    e'.Throughout good ∧ ∀ resolved, result = .ok resolved → good resolved := by
  have failed : ∀ {error : EncodeError} {resolved : SchemaType},
      (.error error : Except EncodeError SchemaType) = .ok resolved → good resolved :=
    fun ok => nomatch ok
  induction course with
  | pointer inner ih => exact ih provides before
  | recorded | objectRecorded | notStruct | notSupported => exact ⟨before, fun _ => failed⟩
  | recalled plain hit sound | objectRecalled hit sound =>
    refine ⟨before.congr rfl rfl, ?_⟩
    rintro _ ⟨⟩
    exact before.entries _ _ hit
  | notAnObject => exact ⟨before.congr rfl rfl, fun _ => failed⟩
  | resolved plain miss inner ih =>
    obtain ⟨after, results⟩ := ih provides before
    exact ⟨after.store _ (results _ rfl), results⟩
  | refused plain miss inner ih => exact ih provides before
  | provided hook =>
    refine ⟨before.congr rfl rfl, ?_⟩
    rintro _ ⟨⟩
    exact provides _ _ hook
  | scalar =>
    refine ⟨before.congr rfl rfl, ?_⟩
    rintro _ ⟨⟩
    exact inherited.scalar _
  | @list type item e result e' free other listed inner ih =>
    obtain ⟨after, results⟩ := ih (provides.met _ _) (before.congr rfl rfl)
    refine ⟨after, fun resolved ok => ?_⟩
    cases result with
    | error error => cases ok
    | ok item =>
      cases ok
      exact inherited.list item (results item rfl)
  | struct free other struct inner ih => exact ih (provides.met _ _) (before.congr rfl rfl)
  | unrecognized => exact ⟨before.congr rfl rfl, fun _ => failed⟩
  | @begun type options e object fields result e' miss struct made inner ih =>
    have fresh := (SchemaOption.fields_of_applyAllToObject made).1
    obtain ⟨after, results⟩ := ih provides (before.begin type fresh (inherited.object _))
    exact ⟨after.congr (close_types _ _ _ _) (close_arena _ _ _ _), results⟩
  | done =>
    refine ⟨before, ?_⟩
    rintro _ ⟨⟩
    exact inherited.object _
  | untagged untagged inner ih => exact ih provides before
  | tagged content first live inner ih₁ ih₂ =>
    obtain ⟨between, results⟩ := ih₁ provides before
    exact ih₂ ((provides.course first).expose _ _ _ _ _ _)
      (between.expose inherited _ _ _ _ _ (results _ rfl))
  | stopped content first ih => exact ⟨(ih provides before).1, fun _ => failed⟩
  | dangling content first dead ih =>
    exact ⟨(ih provides before).1.congr (by simp) (by simp), fun _ => failed⟩

end Builds

/-! ## Requests and sessions -/

/-- Every schema type of the encoder has a property, and so has every type that it may be given by a
provider. -/
structure Encoder.Pervaded (U : Universe n) (good : SchemaType → Prop) (e : Encoder n) : Prop where
  provides : ProvidesOnly U good e
  throughout : e.Throughout good

section Requests

variable {U : Universe n} {good : SchemaType → Prop} (inherited : SchemaType.Inherited good)

theorem Encoder.Pervaded.note {e : Encoder n} (h : e.Pervaded U good) (event : Event n) :
    (e.note event).Pervaded U good :=
  ⟨h.provides, h.throughout.congr rfl rfl⟩

theorem Encoder.Pervaded.store {e : Encoder n} (h : e.Pervaded U good) (type : TypeExpr n)
    {resolved : SchemaType} (given : good resolved) : (e.store U type resolved).Pervaded U good :=
  ⟨h.provides.store type resolved, h.throughout.store type given⟩

theorem Build.ensures_register (type : TypeExpr n) :
    Ensures (Pervaded U good) (fun _ => True) (register U type) := by
  intro e result e' run before
  obtain ⟨registry, run', grown, -⟩ := outcome_register U type e
  rw [run'] at run
  cases run
  exact ⟨⟨before.provides.know grown, before.throughout.congr rfl rfl⟩, fun _ _ => trivial⟩

theorem Build.ensures_attach (type : TypeExpr n) {hook : Hook} (allowed : hook.ProvidesOnly good) :
    Ensures (Pervaded U good) (fun _ => True) (attach type hook) := by
  intro e result e' run before
  cases run
  exact ⟨⟨before.provides.attach allowed type, before.throughout.congr rfl rfl⟩,
    fun _ _ => trivial⟩

theorem Build.ensures_remember (type : TypeExpr n) {resolved : SchemaType} (given : good resolved) :
    Ensures (Pervaded U good) (fun _ => True) (remember U type resolved) := by
  intro e result e' run before
  cases run
  exact ⟨before.store type given, fun _ _ => trivial⟩

theorem Build.ensures_cached (type : TypeExpr n) :
    Ensures (Pervaded U good) (fun found => ∀ known, found = some known → good known)
      (cached U type) := by
  intro e result e' run before
  rw [outcome_cached] at run
  split at run
  · cases run
    refine ⟨before, ?_⟩
    rintro _ ⟨⟩ known ⟨⟩
  · next found hit =>
    split at run
    · cases run
      exact ⟨before, fun _ ok => nomatch ok⟩
    · cases run
      refine ⟨before, ?_⟩
      rintro _ ⟨⟩ known ⟨⟩
      exact before.throughout.entries _ _ hit

include inherited

theorem Course.pervaded {call : Call n} {e e' : Encoder n} {result : Except EncodeError SchemaType}
    (course : Course U call e result e') (before : e.Pervaded U good) :
    e'.Pervaded U good ∧ ∀ resolved, result = .ok resolved → good resolved := by
  obtain ⟨after, results⟩ := course.throughout inherited before.provides before.throughout
  exact ⟨⟨before.provides.course course, after⟩, results⟩

theorem Build.ensures_resolveType (type : TypeExpr n) :
    Ensures (Pervaded U good) good (resolveType U type) :=
  fun _ _ _ run before => (course_resolve run).pervaded inherited before

theorem Build.ensures_structOfInfo (type : TypeExpr n) (options : List (SchemaOption n)) :
    Ensures (Pervaded U good) (fun id => good (.object id)) (structOfInfo U type options) := by
  intro e result e' run before
  exact ⟨((course_object run).pervaded inherited before).1, fun id _ => inherited.object id⟩

theorem Build.ensures_structOf (type : TypeExpr n) (options : List (SchemaOption n)) :
    Ensures (Pervaded U good) (fun id => good (.object id)) (structOf U type options) :=
  .bind (ensures_register type) fun _ _ => ensures_structOfInfo inherited type options

theorem Build.ensures_itemType (type : TypeExpr n) (options : List (SchemaOption n)) :
    Ensures (Pervaded U good) good (itemType U type options) := by
  unfold itemType
  split
  · exact .map (ensures_structOfInfo inherited type options) fun _ handle => handle
  · exact fun _ _ _ run before => (course_build run).pervaded inherited before

theorem Build.ensures_arrayOf (type : TypeExpr n) (options : List (SchemaOption n)) :
    Ensures (Pervaded U good) good (arrayOf U type options) := by
  refine .bind (ensures_register type) fun _ _ => ?_
  refine .bind (ensures_cached type.withoutPointers) fun found known => ?_
  cases found with
  | some found =>
    refine .bind (ensures_note (fun _ event h => h.note event) _) fun _ _ => ?_
    exact .pure (inherited.list found (known found rfl))
  | none =>
    refine .bind (ensures_itemType inherited _ options) fun resolved given => ?_
    exact .bind (ensures_remember _ given) fun _ _ => .pure (inherited.list resolved given)

theorem Request.ensures {request : Request n} (attached : request.AttachesOnly good)
    (replaced : request.ReplacesOnly good) :
    Build.Ensures (Pervaded U good) (Answer.Throughout good) (request.run U) := by
  have arguments : ∀ type, Build.Ensures (Pervaded U good) (ArgumentMap.Throughout good)
      (Encoder.argsOfInfo U type) := fun type =>
    Build.ensures_argsOfInfo (fun _ event h => h.note event) inherited.required
      (fun type _ => Build.ensures_resolveType inherited type) (Scope.closed_everything U) trivial
  cases request with
  | structOf type options =>
    exact .map (Build.ensures_structOf inherited type options) fun _ _ => trivial
  | structOfInfo type options =>
    exact .map (Build.ensures_structOfInfo inherited type options) fun _ _ => trivial
  | argsOf type =>
    refine .map (.bind (Build.ensures_register type) fun _ _ => arguments type) fun _ given => given
  | argsOfInfo type => exact .map (arguments type) fun _ given => given
  | arrayOf type options =>
    exact .map (Build.ensures_arrayOf inherited type options) fun _ given => given
  | fieldOf type options =>
    refine .map (.bind (Build.ensures_structOf inherited type []) fun id handle => ?_)
      fun _ given => given
    exact Build.ensures_options (fun _ event h => h.note event) inherited.required
      (fun type _ => Build.ensures_resolveType inherited type) (Scope.closed_everything U)
      (fun _ _ => trivial) replaced handle
  | resolveType type =>
    exact .map (Build.ensures_resolveType inherited type) fun _ given => given
  | registerHook type hook =>
    refine .bind (Build.ensures_register type) fun _ _ => ?_
    exact .map (Build.ensures_attach type (attached hook rfl)) fun _ _ => trivial
  | insertHook type hook =>
    exact .map (Build.ensures_attach type (attached hook rfl)) fun _ _ => trivial

/-- After a session, every schema type that the encoder stores and every one that an answer shows
has the property, if all from outside have it. -/
theorem Session.throughout {requests : List (Request n)} {e e' : Encoder n}
    (attached : ∀ request ∈ requests, request.AttachesOnly good)
    (replaced : ∀ request ∈ requests, request.ReplacesOnly good) (before : e.Pervaded U good)
    {answers : List (Except EncodeError Answer)}
    (run : Session.run U requests e = some (answers, e')) :
    e'.Pervaded U good ∧ ∀ answer, .ok answer ∈ answers → answer.Throughout good := by
  induction requests generalizing e answers with
  | nil =>
    cases run
    refine ⟨before, ?_⟩
    rintro _ ⟨⟩
  | cons request rest ih =>
    simp only [Session.run, Option.bind_eq_bind, Option.bind_eq_some_iff] at run
    obtain ⟨⟨answer, e₁⟩, asked, ⟨answers', e₂⟩, later, same⟩ := run
    cases same
    rw [List.forall_mem_cons] at attached replaced
    obtain ⟨between, first⟩ :=
      Request.ensures inherited attached.1 replaced.1 e answer e₁ asked before
    obtain ⟨after, shown⟩ := ih attached.2 replaced.2 between later
    refine ⟨after, fun answer' listed => ?_⟩
    rcases List.mem_cons.1 listed with same | later
    · exact first answer' same.symm
    · exact shown answer' later

end Requests

end RecordSchema
