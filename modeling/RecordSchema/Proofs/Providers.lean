import RecordSchema.Proofs.Course.Inner
import RecordSchema.Proofs.Ensured
import RecordSchema.Proofs.Twins

/-!
# When a provider decides

A hook that provides a schema type is asked on a cache miss only.  So it decides for its type as
long as nothing else is cached under the key of the type, and `Encoder.Provides` says just that of
an encoder.  No build takes it away: what is stored for the type was built for it, and what is built
for it is what the hook gives (`Course.provides`).  It holds at every moment of a build as well
(`Call.Makes.provides`).

There is one other way into the cache.  A request for the object of a struct never looks at hooks;
if the struct was not cached, its object is cached from then on, and fields of the type show the
object.  `Session.providers_decide` puts both together: a provider decides in every state that is
reached without such a request.
-/

namespace RecordSchema

variable {n : Nat}

open Encoder

/-! ## Encoders on which a provider decides -/

/-- No other type of a scope has the key of a type, up to pointers. -/
def Scope.Alone (U : Universe n) (policy : KeyPolicy) (scope : Scope n) (type : TypeExpr n) :
    Prop :=
  ∀ other, scope.type other → policy.text U other.withoutPointers =
    policy.text U type.withoutPointers → other.withoutPointers = type.withoutPointers

/-- A type has a provider, and nothing else is cached for it than what the provider gives. -/
structure Encoder.Provides (U : Universe n) (policy : KeyPolicy) (type : TypeExpr n)
    (given : SchemaType) (e : Encoder n) : Prop where
  policy : e.cache.policy = policy
  hook : (e.hooksOf U type).typeProvider = some given
  entry : ∀ found, e.cache.lookup U type = some found → found = given

/-- An object is cached for a type. -/
def Encoder.Exposed (U : Universe n) (type : TypeExpr n) (e : Encoder n) : Prop :=
  ∃ id, e.cache.lookup U type = some (.object id)

/-- The call asks for the object of a type. -/
def Call.AsksObject (type : TypeExpr n) : Call n → Prop
  | .object other _ => other = type
  | _ => False

section Provides

variable {U : Universe n} {policy : KeyPolicy} {scope : Scope n} {hooked : TypeExpr n}
  {given : SchemaType} {e e' : Encoder n}

namespace Encoder.Provides

/-- Nothing is cached yet, and the type brings its provider along. -/
theorem new (U : Universe n) (policy : KeyPolicy)
    (provider : (U.hooks hooked).typeProvider = some given) :
    Provides U policy hooked given (.new U policy) where
  policy := rfl
  hook := by rw [hooksOf_new, provider]
  entry found hit := by cases hit

theorem congr (h : Provides U policy hooked given e) (types : e'.cache.types = e.cache.types)
    (same : e'.cache.policy = e.cache.policy)
    (hooks : e'.hooksOf U hooked = e.hooksOf U hooked) : Provides U policy hooked given e' where
  policy := same.trans h.policy
  hook := by rw [hooks, h.hook]
  entry found hit := by
    rw [TypeCache.lookup_congr types same] at hit
    exact h.entry found hit

theorem note (h : Provides U policy hooked given e) (event : Event n) :
    Provides U policy hooked given (e.note event) := h.congr rfl rfl rfl

theorem meet (h : Provides U policy hooked given e) (type : TypeExpr n) :
    Provides U policy hooked given (e.meet U type) :=
  h.congr rfl rfl (hooksOf_of_met U rfl hooked)

theorem know (h : Provides U policy hooked given e) {registry : Registry n}
    (grown : e.registry.Extends U registry) : Provides U policy hooked given (e.know registry) :=
  h.congr rfl rfl (hooksOf_know grown hooked)

theorem close {α : Type} (h : Provides U policy hooked given e) (outermost : Bool)
    (path : String) (result : Except EncodeError α) :
    Provides U policy hooked given (e.close outermost path result) :=
  h.congr (close_types _ _ _ _) (close_policy _ _ _ _)
    (hooksOf_of_registry U (close_registry _ _ _ _) hooked)

theorem expose (h : Provides U policy hooked given e) (id : ObjectId)
    (structPath fieldName : String) (tag : FieldTag) (type : TypeExpr n) (resolved : SchemaType) :
    Provides U policy hooked given (e.expose U id structPath fieldName tag type resolved) :=
  h.congr (by rw [expose_cache]) (by rw [expose_cache])
    (hooksOf_of_met U (expose_registry U e _ _ _ _ _ _) hooked)

/-- What is stored for the type is what its provider gives. -/
theorem store (h : Provides U policy hooked given e) (alone : scope.Alone U policy hooked)
    {type : TypeExpr n} (inside : scope.type type) {resolved : SchemaType}
    (own : type.withoutPointers = hooked.withoutPointers → resolved = given) :
    Provides U policy hooked given (e.store U type resolved) where
  policy := h.policy
  hook := h.hook
  entry found hit := by
    rw [store_cache, TypeCache.lookup_register] at hit
    split at hit
    · next same =>
      rw [TypeCache.key_eq, TypeCache.key_eq, h.policy] at same
      rw [← Option.some.inj hit]
      exact own (alone type inside same)
    · exact h.entry found hit

theorem begin (h : Provides U policy hooked given e) (alone : scope.Alone U policy hooked)
    {type : TypeExpr n} (inside : scope.type type)
    (other : type.withoutPointers ≠ hooked.withoutPointers) (object : ObjectType) :
    Provides U policy hooked given (e.begin U type object) := by
  have stores : Provides U policy hooked given (e.store U type (.object e.arena.nextId)) :=
    h.store alone inside fun same => absurd same other
  exact stores.congr rfl rfl rfl

/-- The type is built as its provider says. -/
theorem built (h : Provides U policy hooked given e) {result : Except EncodeError SchemaType}
    (course : Course U (.build hooked) e result e') : result = .ok given := by
  have hook := h.hook
  cases course with
  | provided hook' =>
    rw [hook] at hook'
    rw [Option.some.inj hook']
  | scalar free | list free | struct free | unrecognized free =>
    rw [hook] at free
    cases free

end Encoder.Provides

/-- A struct that a call begins an object for is not the type with the provider, unless the call
asked for its object. -/
theorem Course.provides {call : Call n} {result : Except EncodeError SchemaType}
    (course : Course U call e result e') (closed : scope.Closed U)
    (alone : scope.Alone U policy hooked) (plain : hooked.isPointer = false)
    (within : call.Within scope)
    (spared : call.AsksObject hooked → U.isStruct hooked = false ∨ e.cache.lookup U hooked ≠ none)
    (h : Provides U policy hooked given e) : Provides U policy hooked given e' := by
  induction course with
  | @pointer shape pointee e result e' inner ih =>
    exact ih (closed.pointee shape pointee within) False.elim h
  | recorded | objectRecorded | notStruct | notSupported | done => exact h
  | recalled | objectRecalled | notAnObject => exact h.note _
  | resolved direct miss inner ih =>
    refine (ih within False.elim h).store alone within fun same => ?_
    rw [TypeExpr.withoutPointers_eq_self direct, TypeExpr.withoutPointers_eq_self plain] at same
    subst same
    cases h.built inner
    rfl
  | refused direct miss inner ih => exact ih within False.elim h
  | provided | scalar | unrecognized => exact (h.note _).meet _
  | @list type item e result e' free other listed inner ih =>
    exact ih (closed.item type item listed within) False.elim ((h.note _).meet _)
  | struct free other struct inner ih =>
    refine ih within (fun same => ?_) ((h.note _).meet _)
    rw [same, h.hook] at free
    cases free
  | @begun type options e object fields result e' miss struct made inner ih =>
    have direct := isPointer_eq_false_of_struct (Universe.isStruct_of_detail struct)
    have other : type.withoutPointers ≠ hooked.withoutPointers := fun same => by
      rw [TypeExpr.withoutPointers_eq_self direct, TypeExpr.withoutPointers_eq_self plain] at same
      subst same
      rcases spared rfl with noStruct | known
      · rw [Universe.isStruct_of_detail struct] at noStruct
        cases noStruct
      · exact known miss
    refine (ih (fun field listed text content tagged => ?_) False.elim
      (h.begin alone within other object)).close _ _ _
    exact closed.field type fields field text content struct listed tagged within
  | untagged untagged inner ih =>
    exact ih (fun other listed => within other (List.mem_cons_of_mem _ listed)) False.elim h
  | @tagged id path field text type rest e resolved e₁ result e' content first live inner ih₁ ih₂ =>
    have resolves := ih₁ (within field List.mem_cons_self text type content) False.elim h
    exact ih₂ (fun other listed => within other (List.mem_cons_of_mem _ listed)) False.elim
      (resolves.expose _ _ _ _ _ _)
  | @stopped id path field text type rest e error e' content first ih =>
    exact ih (within field List.mem_cons_self text type content) False.elim h
  | @dangling id path field text type rest e resolved e₁ content first dead ih =>
    have resolves := ih (within field List.mem_cons_self text type content) False.elim h
    have warned : Provides U policy hooked given (e₁.warn U type (.parse text) resolved) :=
      resolves.congr (by rw [warn_cache]) (by rw [warn_cache])
        (hooksOf_of_registry U (e₁.warn_registry U _ _ _) hooked)
    exact warned.meet _

/-- The provider decides at every moment of a build. -/
theorem Call.Makes.provides {call inner : Call n} {start : Encoder n}
    (makes : call.Makes U e inner start) (closed : scope.Closed U)
    (alone : scope.Alone U policy hooked) (plain : hooked.isPointer = false)
    (within : call.Within scope)
    (spared : call.AsksObject hooked → U.isStruct hooked = false ∨ e.cache.lookup U hooked ≠ none)
    (h : Provides U policy hooked given e) : Provides U policy hooked given start := by
  induction makes with
  | self => exact h
  | @pointee shape pointee e inner start makes ih =>
    exact ih (closed.pointee shape pointee within) False.elim h
  | build direct miss makes ih => exact ih within False.elim h
  | @item type item e inner start free listed makes ih =>
    exact ih (closed.item type item listed within) False.elim ((h.note _).meet _)
  | object free struct makes ih =>
    refine ih within (fun same => ?_) ((h.note _).meet _)
    rw [same, h.hook] at free
    cases free
  | @walk type options e object fields inner start miss struct made makes ih =>
    have direct := isPointer_eq_false_of_struct (Universe.isStruct_of_detail struct)
    have other : type.withoutPointers ≠ hooked.withoutPointers := fun same => by
      rw [TypeExpr.withoutPointers_eq_self direct, TypeExpr.withoutPointers_eq_self plain] at same
      subst same
      rcases spared rfl with noStruct | known
      · rw [Universe.isStruct_of_detail struct] at noStruct
        cases noStruct
      · exact known miss
    refine ih (fun field listed text content tagged => ?_) False.elim
      (h.begin alone within other object)
    exact closed.field type fields field text content struct listed tagged within
  | skip untagged makes ih =>
    exact ih (fun other listed => within other (List.mem_cons_of_mem _ listed)) False.elim h
  | @field id path field text type rest e inner start content makes ih =>
    exact ih (within field List.mem_cons_self text type content) False.elim h
  | @next id path field text type rest e resolved e₁ inner start content first live makes ih =>
    have resolves := first.provides closed alone plain
      (within field List.mem_cons_self text type content) False.elim h
    exact ih (fun other listed => within other (List.mem_cons_of_mem _ listed)) False.elim
      (resolves.expose _ _ _ _ _ _)

/-- Where the cache has nothing for a type with a provider, the type below any pointers resolves to
what the provider gives, and that is cached. -/
theorem Build.outcome_resolve_of_provider (object : TypeExpr n → Build n ObjectId)
    {type : TypeExpr n} (below : type.withoutPointers = hooked)
    (provider : (e.hooksOf U hooked).typeProvider = some given)
    (miss : e.cache.lookup U hooked = none) :
    (Build.resolve U object type).outcome e = some (.ok given,
      ((e.note (.resolving (U.path hooked))).meet U hooked).store U hooked given) := by
  have plain : hooked.isPointer = false := below ▸ type.isPointer_withoutPointers
  rw [← Build.resolve_withoutPointers, below, Build.resolve_eq_recalled U object plain,
    Build.outcome_recalled_of_miss U miss, buildType_eq, Build.outcome_buildBy, provider]
  rfl

/-- The type below any pointers resolves to what its provider gives, whatever builds objects.  So
does a tagged field of such a type, up to the non-null layer of its tag. -/
theorem Encoder.Provides.resolves (h : Provides U policy hooked given e)
    (handleFree : given.handles = []) (object : TypeExpr n → Build n ObjectId)
    {type : TypeExpr n} (below : type.withoutPointers = hooked) :
    (∃ e', (Build.resolve U object type).outcome e = some (.ok given, e')) ∧
      ∀ path name tag, ∃ e',
        (Build.fieldType U (Build.resolve U object) path name tag type).outcome e =
          some (.ok (taggedType tag given), e') := by
  have resolved : ∃ e', (Build.resolve U object type).outcome e = some (.ok given, e') := by
    cases hit : e.cache.lookup U hooked with
    | none => exact ⟨_, Build.outcome_resolve_of_provider object below h.hook hit⟩
    | some found =>
      have plain : hooked.isPointer = false := below ▸ type.isPointer_withoutPointers
      rw [← Build.resolve_withoutPointers, below, Build.resolve_eq_recalled U object plain]
      obtain rfl := h.entry found hit
      have sound : e.cache.failure? found = none :=
        TypeCache.failure?_of_handles_nil handleFree e.cache
      exact ⟨_, Build.outcome_recalled_of_hit U hit sound _⟩
  refine ⟨resolved, fun path name tag => ?_⟩
  obtain ⟨e', run⟩ := resolved
  exact ⟨_, Build.outcome_fieldType_ok U run⟩

end Provides

/-! ## Requests -/

/-- The request asks for the object of a type, up to pointers.  A list asks for the object of its
items. -/
def Request.AsksObject (type : TypeExpr n) : Request n → Prop
  | .structOf other _ | .structOfInfo other _ | .arrayOf other _ | .fieldOf other _ =>
    other.withoutPointers = type
  | _ => False

/-- A property of encoders holds after a step if it held before, however the step ends. -/
def Build.Preserves {α : Type} (holds : Encoder n → Prop) (step : Build n α) : Prop :=
  ∀ e result e', step.outcome e = some (result, e') → holds e → holds e'

/-- A step preserves what it ensures, if nothing is asked of its results. -/
theorem Build.preserves_iff {α : Type} {holds : Encoder n → Prop} {step : Build n α} :
    Build.Preserves holds step ↔ Build.Ensures holds (fun _ => True) step := by
  constructor
  · exact fun preserves e result e' run before =>
      ⟨preserves e result e' run before, fun _ _ => trivial⟩
  · exact fun ensures e result e' run before => (ensures e result e' run before).1

section Steps

variable {U : Universe n} {scope : Scope n} {holds : Encoder n → Prop}
  (notes : ∀ e event, holds e → holds (e.note event))
  (resolves : ∀ type, scope.type type → Build.Preserves holds (resolveType U type))

include notes resolves

theorem Build.preserves_argsOfInfo (closed : scope.Closed U) {type : TypeExpr n}
    (inside : scope.type type) : Build.Preserves holds (argsOfInfo U type) := by
  have ensures := ensures_argsOfInfo notes (fun _ _ => trivial)
    (fun type inside => preserves_iff.1 (resolves type inside)) closed inside
  exact preserves_iff.2 (ensures.weaken fun _ _ => trivial)

/-- What a field gets after its object was built. -/
theorem Build.preserves_options (closed : scope.Closed U) {options : List (SchemaOption n)}
    (sourced : ∀ source ∈ Build.sources options, scope.type source) (id : ObjectId) :
    Build.Preserves holds (do
      let target ← Encoder.object id
      options.foldlM (fun field option => applyToField U option field)
        ({ name := target.name, type := .object id } : Field)) := by
  have ensures := @ensures_options n U scope holds (fun _ => True) notes (fun _ _ => trivial)
    (fun type inside => preserves_iff.1 (resolves type inside)) closed options sourced
    (fun _ _ => trivial) id trivial
  exact preserves_iff.2 (ensures.weaken fun _ _ => trivial)

end Steps

section Requests

variable {U : Universe n} {policy : KeyPolicy} {scope : Scope n} {hooked : TypeExpr n}
  {given : SchemaType} {e e' : Encoder n} (closed : scope.Closed U)
  (alone : scope.Alone U policy hooked) (plain : hooked.isPointer = false)

include closed alone plain

theorem provides_resolveType {type : TypeExpr n} (inside : scope.type type) :
    Build.Preserves (Provides U policy hooked given) (resolveType U type) :=
  fun _ _ _ run h => (course_resolve run).provides closed alone plain inside False.elim h

/-- A request for an object takes the decision from a provider only if it begins the object of its
type. -/
theorem provides_structOfInfo {type : TypeExpr n} (inside : scope.type type)
    {options : List (SchemaOption n)} {result : Except EncodeError ObjectId}
    (run : (structOfInfo U type options).outcome e = some (result, e'))
    (h : Provides U policy hooked given e) :
    Provides U policy hooked given e' ∨ (type.withoutPointers = hooked ∧ U.isStruct hooked ∧
      e.cache.lookup U hooked = none ∧ Exposed U hooked e') := by
  have course := course_object run
  by_cases begins : type.withoutPointers = hooked ∧ U.isStruct hooked ∧
      e.cache.lookup U hooked = none
  · obtain ⟨rfl, struct, miss⟩ := begins
    generalize result.map SchemaType.object = outcome at course
    cases course with
    | objectRecorded hit | objectRecalled hit | notAnObject hit =>
      rw [miss] at hit
      cases hit
    | notStruct _ noStruct =>
      rw [struct] at noStruct
      cases noStruct
    | notSupported => exact .inl h
    | @begun _ _ _ object fields _ e₁ _ _ _ inner =>
      refine .inr ⟨rfl, struct, miss, e.arena.nextId, ?_⟩
      refine (keeps_close 0 e₁ _ _ _).lookup (inner.keeps.lookup ?_)
      exact TypeCache.lookup_register_self U e.cache type.withoutPointers _
  · refine .inl (course.provides closed alone plain (closed.withoutPointers inside) ?_ h)
    intro asked
    by_contra other
    rw [not_or, not_not, Bool.not_eq_false] at other
    exact begins ⟨asked, other⟩

theorem provides_structOf {type : TypeExpr n} (inside : scope.type type)
    {options : List (SchemaOption n)} {result : Except EncodeError ObjectId}
    (run : (structOf U type options).outcome e = some (result, e'))
    (h : Provides U policy hooked given e) :
    Provides U policy hooked given e' ∨ (type.withoutPointers = hooked ∧ U.isStruct hooked ∧
      e.cache.lookup U hooked = none ∧ Exposed U hooked e') := by
  obtain ⟨registry, registered, grown, -⟩ := Build.outcome_register U type e
  unfold structOf at run
  rw [Build.outcome_bind_ok registered] at run
  have after := provides_structOfInfo closed alone plain inside run (h.know grown)
  exact after

theorem provides_arrayOf {type : TypeExpr n} (inside : scope.type type)
    {options : List (SchemaOption n)} {result : Except EncodeError SchemaType}
    (run : (arrayOf U type options).outcome e = some (result, e'))
    (h : Provides U policy hooked given e) :
    Provides U policy hooked given e' ∨ (type.withoutPointers = hooked ∧ U.isStruct hooked ∧
      e.cache.lookup U hooked = none ∧ Exposed U hooked e') := by
  obtain ⟨registry, registered, grown, -⟩ := Build.outcome_register U type e
  have start := h.know grown
  have stripped := closed.withoutPointers inside
  cases hit : (e.know registry).cache.lookup U type with
  | some found =>
    cases failed : (e.know registry).cache.failure? found with
    | some error =>
      rw [Build.outcome_arrayOf_of_failed registered hit failed] at run
      cases run
      exact .inl start
    | none =>
      rw [Build.outcome_arrayOf_of_hit registered hit failed] at run
      cases run
      exact .inl (start.note _)
  | none =>
    rw [Build.outcome_arrayOf_of_miss registered hit, Option.map_eq_some_iff] at run
    obtain ⟨⟨item, e₁⟩, built, same⟩ := run
    cases same
    unfold itemType at built
    split at built
    · rw [Build.outcome_map, Option.map_eq_some_iff] at built
      obtain ⟨⟨outcome, e₂⟩, began, same⟩ := built
      cases same
      have course := course_object began
      rw [TypeExpr.withoutPointers_withoutPointers] at course
      have after := provides_structOfInfo closed alone plain stripped began start
      rw [TypeExpr.withoutPointers_withoutPointers] at after
      cases outcome with
      | error error => exact after
      | ok id =>
        have stored := course.lookup_of_object
        rcases after with decides | ⟨rfl, struct, miss, -⟩
        · refine .inl (decides.store alone stripped fun own => ?_)
          rw [TypeExpr.withoutPointers_withoutPointers,
            TypeExpr.withoutPointers_eq_self plain] at own
          rw [own] at stored
          exact decides.entry _ stored
        · exact .inr ⟨rfl, struct, miss, id, TypeCache.lookup_register_self U _ _ _⟩
    · have course := course_build built
      have decides := course.provides closed alone plain stripped False.elim start
      cases item with
      | error error => exact .inl decides
      | ok resolved =>
        refine .inl (decides.store alone stripped fun own => ?_)
        rw [TypeExpr.withoutPointers_withoutPointers,
          TypeExpr.withoutPointers_eq_self plain] at own
        rw [own] at course
        cases start.built course
        rfl

theorem provides_fieldOf {type : TypeExpr n} (inside : scope.type type)
    {options : List (SchemaOption n)}
    (sourced : ∀ source ∈ Build.sources options, scope.type source)
    {result : Except EncodeError Field}
    (run : (fieldOf U type options).outcome e = some (result, e'))
    (h : Provides U policy hooked given e) :
    Provides U policy hooked given e' ∨ (type.withoutPointers = hooked ∧ U.isStruct hooked ∧
      e.cache.lookup U hooked = none ∧ Exposed U hooked e') := by
  unfold fieldOf at run
  rw [Build.outcome_bind, Option.bind_eq_some_iff] at run
  obtain ⟨⟨built, e₁⟩, began, rest⟩ := run
  have after := provides_structOf closed alone plain inside began h
  cases built with
  | error error =>
    cases rest
    exact after
  | ok id =>
    rcases after with decides | ⟨asked, struct, miss, exposed⟩
    · refine .inl (Build.preserves_options (fun e event h => h.note event) ?_ closed sourced id
        e₁ _ _ rest decides)
      exact fun type inside => provides_resolveType closed alone plain inside
    · refine .inr ⟨asked, struct, miss, ?_⟩
      refine Build.preserves_options (fun e event h => h) ?_ closed sourced id e₁ _ _ rest exposed
      rintro type - e result e' run ⟨other, known⟩
      exact ⟨other, (course_resolve run).keeps.lookup known⟩

/-- After a request that attaches no hook, the provider of a type still decides, unless the request
asked for the object of this type while nothing was cached for it, and has cached an object. -/
theorem Request.provides {request : Request n} (within : request.Within scope)
    (hookless : request.hook? = none) {answer : Except EncodeError Answer}
    (run : (request.run U).outcome e = some (answer, e'))
    (h : Provides U policy hooked given e) :
    Provides U policy hooked given e' ∨ (request.AsksObject hooked ∧ U.isStruct hooked ∧
      e.cache.lookup U hooked = none ∧ Exposed U hooked e') := by
  have bare : ∀ {α : Type} {f : α → Answer} {step : Build n α},
      (f <$> step).outcome e = some (answer, e') →
      ∃ result, step.outcome e = some (result, e') := by
    intro α f step mapped
    rw [Build.outcome_map, Option.map_eq_some_iff] at mapped
    obtain ⟨⟨result, e₁⟩, ran, same⟩ := mapped
    cases same
    exact ⟨result, ran⟩
  have resolves : ∀ type, scope.type type →
      Build.Preserves (Provides U policy hooked given) (Encoder.resolveType U type) :=
    fun type inside => provides_resolveType closed alone plain inside
  cases request with
  | structOf type options =>
    obtain ⟨result, ran⟩ := bare run
    exact provides_structOf closed alone plain (within.types type List.mem_cons_self) ran h
  | structOfInfo type options =>
    obtain ⟨result, ran⟩ := bare run
    exact provides_structOfInfo closed alone plain (within.types type List.mem_cons_self) ran h
  | argsOf type =>
    obtain ⟨result, ran⟩ := bare run
    obtain ⟨registry, registered, grown, -⟩ := Build.outcome_register U type e
    unfold Encoder.argsOf at ran
    rw [Build.outcome_bind_ok registered] at ran
    exact .inl (Build.preserves_argsOfInfo (fun e event h => h.note event) resolves closed
      (within.types type List.mem_cons_self) _ _ _ ran (h.know grown))
  | argsOfInfo type =>
    obtain ⟨result, ran⟩ := bare run
    exact .inl (Build.preserves_argsOfInfo (fun e event h => h.note event) resolves closed
      (within.types type List.mem_cons_self) _ _ _ ran h)
  | arrayOf type options =>
    obtain ⟨result, ran⟩ := bare run
    exact provides_arrayOf closed alone plain (within.types type List.mem_cons_self) ran h
  | fieldOf type options =>
    obtain ⟨result, ran⟩ := bare run
    have sourced : ∀ source ∈ Build.sources options, scope.type source := fun source listed =>
      within.types source (List.mem_cons_of_mem _ listed)
    exact provides_fieldOf closed alone plain (within.types type List.mem_cons_self) sourced ran h
  | resolveType type =>
    obtain ⟨result, ran⟩ := bare run
    exact .inl (resolves type (within.types type List.mem_cons_self) _ _ _ ran h)
  | registerHook | insertHook => cases hookless

end Requests

/-! ## Sessions -/

/-- Some request of a session from `start` asked for the object of a struct for which nothing was
cached at that time, and an object is cached for it on `e`. -/
def Session.BeganObject (U : Universe n) (type : TypeExpr n) (requests : List (Request n))
    (start e : Encoder n) : Prop :=
  ∃ earlier request later answers between, requests = earlier ++ request :: later ∧
    Session.run U earlier start = some (answers, between) ∧ request.AsksObject type ∧
      U.isStruct type ∧ between.cache.lookup U type = none ∧ e.Exposed U type

section Sessions

variable {U : Universe n} {policy : KeyPolicy} {scope : Scope n} {hooked : TypeExpr n}
  {given : SchemaType} {start e : Encoder n}

theorem Session.provides (closed : scope.Closed U) (alone : scope.Alone U policy hooked)
    (plain : hooked.isPointer = false) {requests : List (Request n)}
    (within : ∀ request ∈ requests, request.Within scope)
    (hookless : ∀ request ∈ requests, request.hook? = none) (resting : Resting start)
    {answers : List (Except EncodeError Answer)}
    (run : Session.run U requests start = some (answers, e))
    (h : Provides U policy hooked given start) :
    BeganObject U hooked requests start e ∨ Provides U policy hooked given e := by
  induction requests generalizing start answers with
  | nil =>
    cases run
    exact .inr h
  | cons request rest ih =>
    simp only [Session.run, Option.bind_eq_bind, Option.bind_eq_some_iff] at run
    obtain ⟨⟨answer, e₁⟩, asked, ⟨answers', e₂⟩, later, same⟩ := run
    cases same
    have between := (Request.lasts resting asked).1
    rcases Request.provides closed alone plain (within request List.mem_cons_self)
      (hookless request List.mem_cons_self) asked h with decides | ⟨direct, struct, miss, other⟩
    · rcases ih (fun other listed => within other (List.mem_cons_of_mem _ listed))
        (fun other listed => hookless other (List.mem_cons_of_mem _ listed)) between later decides
        with ⟨earlier, request', later', answers₁, e₃, rfl, ran, direct, struct, miss, other⟩ |
          after
      · exact .inl ⟨request :: earlier, request', later', answer :: answers₁, e₃, rfl,
          Session.run_cons asked ran, direct, struct, miss, other⟩
      · exact .inr after
    · obtain ⟨id, hit⟩ := other
      obtain ⟨_, _, later', -, lasting⟩ := Session.lasts U rest between
      rw [later] at later'
      cases later'
      exact .inl ⟨[], request, rest, [], start, rfl, rfl, direct, struct, miss, id,
        lasting.keeps.lookup hit⟩

/-- A type brings a provider along that names no handle, and no other type of the session has its
key.  Then the provider decides at every state that the session reaches, and at every moment of
whatever is built next: the type below any pointers resolves to what the provider gives, and a
tagged field of it has this type up to the non-null layer of its tag.  The only exception is a
struct whose object an earlier request asked for, before anything was cached for it. -/
theorem Session.providers_decide (closed : scope.Closed U) (alone : scope.Alone U policy hooked)
    (provider : (U.hooks hooked).typeProvider = some given) (handleFree : given.handles = [])
    {requests : List (Request n)} (within : ∀ request ∈ requests, request.Within scope)
    (hookless : ∀ request ∈ requests, request.hook? = none)
    {answers : List (Except EncodeError Answer)}
    (reached : Session.run U requests (.new U policy) = some (answers, e)) :
    BeganObject U hooked requests (.new U policy) e ∨
      ∀ (call inner : Call n) (moment : Encoder n), call.Within scope →
        ¬ call.AsksObject hooked → call.Makes U e inner moment →
        ∀ (object : TypeExpr n → Build n ObjectId) (type : TypeExpr n),
          type.withoutPointers = hooked →
            (∃ e', (Build.resolve U object type).outcome moment = some (.ok given, e')) ∧
            ∀ path name tag, ∃ e',
              (Build.fieldType U (Build.resolve U object) path name tag type).outcome moment =
                some (.ok (taggedType tag given), e') := by
  -- Only declared types bring hooks.
  have plain : hooked.isPointer = false := by
    cases hooked with
    | pointer => cases provider
    | native | declared | list | array | map => rfl
  refine (Session.provides closed alone plain within hookless (resting_new U policy) reached
    (.new U policy provider)).imp_right fun decides => ?_
  intro call inner moment inside spared makes object type below
  have still := makes.provides closed alone plain inside (fun asked => absurd asked spared) decides
  exact still.resolves handleFree object below

end Sessions

namespace Sample

/-- An order and the struct of its amounts, which a hook shows as a scalar. -/
def ledger : Universe 2 where
  declaration
    | 0 =>
      { path := "app::Order", name := "Order"
        body := .struct
          [⟨"total", .tagged "!total" (.pointer .option (.pointer .box (.declared 1)))⟩,
           ⟨"rates", .tagged "rates" (.list .vec (.declared 1))⟩] }
    | 1 =>
      { path := "app::Money", name := "Money"
        body := .struct [⟨"cents", .tagged "cents" (.primitive .u32)⟩]
        hooks := .of [.typeProvider (.scalar (.custom "Money"))] }

def order : TypeExpr 2 := .declared 0

def money : TypeExpr 2 := .declared 1

/-- An order with all that it leads to. -/
def ledgerScope : Scope 2 where
  hook _ := True
  type type := type ∈
    [order, money, .pointer .option (.pointer .box money), .pointer .box money, .list .vec money,
     .primitive .u32]

theorem closed_ledgerScope : ledgerScope.Closed ledger :=
  Scope.closed_of_dependencies (by unfold ledgerScope; decide)

theorem alone_money : ledgerScope.Alone ledger .qualified money := by
  unfold Scope.Alone ledgerScope
  decide +kernel

end Sample

/-- The order shows the scalar in its fields, and the struct of its amounts resolves to it later. -/
theorem Sample.providers_decide_after_order :
    ∃ answers e e', Session.run ledger [.structOf order []] (.new ledger .qualified) =
        some (answers, e) ∧
      (resolveType ledger (.pointer .box money)).outcome e =
        some (.ok (.scalar (.custom "Money")), e') := by
  obtain ⟨answers, e, reached, -⟩ := Session.lasts ledger [.structOf order []]
    (resting_new ledger .qualified)
  have within : ∀ request ∈ [Request.structOf order []], request.Within ledgerScope := by
    intro request asked
    cases List.mem_singleton.1 asked
    exact ⟨fun _ _ => trivial, by simp [Request.types, ledgerScope]⟩
  have hookless : ∀ request ∈ [Request.structOf order []], request.hook? = none := by
    simp [Request.hook?]
  rcases Session.providers_decide closed_ledgerScope alone_money rfl rfl within hookless reached
    with ⟨earlier, request, later, _, _, split, -, direct, -⟩ | decides
  · have asked : request ∈ [Request.structOf order []] := by simp [split]
    cases List.mem_singleton.1 asked
    have same : order = money := direct
    exact absurd same (by decide)
  · have within : (Call.resolve money).Within ledgerScope := by simp [Call.Within, ledgerScope]
    obtain ⟨⟨e', resolved⟩, -⟩ := decides (.resolve money) _ e within (fun direct => direct) .self
      (fun type => structOfInfo ledger type []) (.pointer .box money) rfl
    exact ⟨answers, e, e', reached, resolved⟩

/-- Whoever asks for the object of the amounts first gets their object from then on. -/
theorem Sample.objects_of_amounts_stay :
    (ledger.hooks money).typeProvider = some (.scalar (.custom "Money")) ∧
    ∀ request ∈ [Request.structOf money [], .arrayOf money [], .fieldOf (.pointer .box money) []],
      (Session.run ledger [request] (.new ledger .qualified)).bind (fun r =>
        ((resolveType ledger money).outcome r.2).map Prod.fst) = some (.ok (.object ⟨1⟩)) := by
  decide +kernel

end RecordSchema
