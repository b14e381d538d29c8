import Mathlib.Logic.Relation
import RecordSchema.Proofs.Handles
import RecordSchema.Proofs.Marking

/-!
# Requests are moves between builds

Whatever is asked of an encoder, it answers by a few kinds of moves: it notes events, registers
types, attaches hooks, and starts builds that run to their end.  `Move` lists them, and
`Request.serves` shows that every request always ends after finitely many moves, whether it succeeds
or fails.  What holds of every move therefore holds of every session, and the proofs about sessions
never open a request again.

An answer shows the handles that the builds on the way resulted in; `Returned` keeps track of them.
-/

namespace RecordSchema

variable {n : Nat}

/-! ## Moves -/

/-- What a session brings in: the hooks that it attaches and the types that it asks for. -/
structure Scope (n : Nat) where
  hook : Hook → Prop
  type : TypeExpr n → Prop

/-- A scope that is closed under whatever an answer to one of its types asks for. -/
structure Scope.Closed (U : Universe n) (scope : Scope n) : Prop where
  pointee : ∀ shape pointee, scope.type (.pointer shape pointee) → scope.type pointee
  item : ∀ type item, type.item? = some item → scope.type type → scope.type item
  field : ∀ type fields field text content, U.detail type = .struct fields → field ∈ fields →
    field.content = .tagged text content → scope.type type → scope.type content

/-- A scope with all dependencies of its types is closed. -/
theorem Scope.closed_of_dependencies {U : Universe n} {scope : Scope n}
    (h : ∀ type, scope.type type → ∀ next ∈ U.dependencies type, scope.type next) :
    scope.Closed U where
  pointee _ pointee inside := h _ inside pointee List.mem_cons_self
  item type item listed inside := h type inside item (U.mem_dependencies_of_item listed)
  field type _ _ _ content struct listed tagged inside :=
    h type inside content (U.mem_dependencies_of_field struct listed tagged)

theorem Scope.Closed.withoutPointers {U : Universe n} {scope : Scope n} (closed : scope.Closed U)
    {type : TypeExpr n} (inside : scope.type type) : scope.type type.withoutPointers := by
  induction type with
  | pointer shape pointee ih => exact ih (closed.pointee shape pointee inside)
  | native | declared | list | array | map => exact inside

/-- The encoder with another registry. -/
def Encoder.know (e : Encoder n) (registry : Registry n) : Encoder n := { e with registry }

@[simp] theorem Encoder.know_registry (e : Encoder n) (registry : Registry n) :
    (e.know registry).registry = registry := rfl

/-- Registration changes the hooks of no type. -/
theorem Encoder.hooksOf_know {U : Universe n} {e : Encoder n} {registry : Registry n}
    (grown : e.registry.Extends U registry) (type : TypeExpr n) :
    (e.know registry).hooksOf U type = e.hooksOf U type := by
  rw [Encoder.hooksOf_eq, Encoder.hooksOf_eq, know_registry, grown.brought]

/-- An attached hook is found with a type that was registered, and nowhere else. -/
theorem Encoder.hooksOf_attach (U : Universe n) (e : Encoder n) (type other : TypeExpr n)
    (hook : Hook) :
    (e.know (e.registry.attach type hook)).hooksOf U other =
      if type = other ∧ e.registry.contains type then (e.hooksOf U other).attach hook
      else e.hooksOf U other := by
  rw [Encoder.hooksOf_eq, Encoder.hooksOf_eq, know_registry, Registry.hooks?_attach,
    Registry.contains_eq_isSome]
  by_cases same : type = other
  · subst same
    cases e.registry.hooks? type <;> simp
  · simp [same]

/-- A change that an encoder undergoes while no object is in progress. -/
inductive Move (U : Universe n) (scope : Scope n) : Encoder n → Encoder n → Prop
  | note {e event} (other : event.begun? = none) : Move U scope e (e.note event)
  | register {e registry} (grown : e.registry.Extends U registry) :
      Move U scope e (e.know registry)
  | attach {e type hook} (allowed : scope.hook hook) :
      Move U scope e (e.know (e.registry.attach type hook))
  | call {call type e result e'} (asked : call.type? = some type) (inside : scope.type type)
      (course : Course U call e result e') : Move U scope e e'
  /-- A type unknown to the cache was built, and is then cached. -/
  | enter {call type e built e'} (asked : call.type? = some type)
      (plain : type.isPointer = false) (inside : scope.type type)
      (miss : e.cache.lookup U type = none) (course : Course U call e (.ok built) e') :
      Move U scope e (e'.store U type built)

/-- A sequence of moves. -/
abbrev Moves (U : Universe n) (scope : Scope n) : Encoder n → Encoder n → Prop :=
  Relation.ReflTransGen (Move U scope)

/-! ## What lasts between builds -/

namespace Encoder

/-- No object is in progress. -/
structure Resting (e : Encoder n) : Prop extends Tidy e where
  idle : e.building = []

theorem resting_new (U : Universe n) (policy : KeyPolicy) : Resting (.new U policy) where
  journal := rfl
  marked id error mark := by cases mark
  building id started := by cases started
  idle := rfl

/-- Nothing in an encoder at rest depends on its registry. -/
theorem Resting.know {e : Encoder n} (resting : Resting e) (registry : Registry n) :
    Resting { e with registry } where
  journal := resting.journal
  marked := resting.marked
  building := resting.building
  idle := resting.idle

/-- A new encoder finds the hooks that the types bring along. -/
theorem hooksOf_new (U : Universe n) (policy : KeyPolicy) (type : TypeExpr n) :
    (Encoder.new U policy).hooksOf U type = U.hooks type := by
  have standard : (Encoder.new U policy).registry = .standard U := by simp only [Encoder.new]
  have unknown : (Registry.empty : Registry n).hooks? type = none := rfl
  rw [hooksOf_eq, standard, (Registry.extends_standard U).brought, unknown, Option.getD_none]

/-- All that was there is still there, and the old objects are marked as before. -/
structure Lasts (e e' : Encoder n) : Prop where
  keeps : Keeps e.arena.size e e'
  marks : ∀ id, e.arena.contains id → e'.cache.failures.get? id = e.cache.failures.get? id

namespace Lasts

theorem refl (e : Encoder n) : Lasts e e := ⟨Keeps.refl _ e, fun _ _ => rfl⟩

theorem trans {e e₁ e' : Encoder n} (first : Lasts e e₁) (second : Lasts e₁ e') : Lasts e e' where
  keeps := first.keeps.trans (second.keeps.mono first.keeps.size)
  marks id live := (second.marks id (first.keeps.live live)).trans (first.marks id live)

end Lasts

end Encoder

open Encoder

variable {U : Universe n} {scope : Scope n} {e e₁ e' : Encoder n}

/-- A call while no object is in progress leaves none in progress. -/
theorem Course.lasts {call : Call n} {type : TypeExpr n} {result : Except EncodeError SchemaType}
    (course : Course U call e result e') (asked : call.type? = some type) (resting : Resting e) :
    Resting e' ∧ Lasts e e' := by
  have base : call.base e = e.arena.size := by
    cases call with
    | walk => cases asked
    | resolve | build | object => rfl
  have books := course.accounts resting.toTidy (Call.busy_of_asked asked)
  have kept := course.keeps
  rw [base] at kept
  exact ⟨⟨books.tidy, (books.outside resting.idle).1⟩,
    ⟨kept, fun id live => books.old id (not_new_of_live live)⟩⟩

theorem Move.lasts (move : Move U scope e e') (resting : Resting e) : Resting e' ∧ Lasts e e' := by
  cases move with
  | note other =>
    exact ⟨⟨resting.toTidy.note other, resting.idle⟩, ⟨keeps_note _ e _, fun _ _ => rfl⟩⟩
  | register grown =>
    refine ⟨resting.know _, ?_, fun _ _ => rfl⟩
    exact { Keeps.refl _ e with
      begun := List.prefix_refl _
      registered := fun _ known => grown.contains known }
  | attach allowed =>
    refine ⟨resting.know _, ?_, fun _ _ => rfl⟩
    exact { Keeps.refl _ e with
      begun := List.prefix_refl _
      registered := fun _ known => by
        rw [Registry.contains_eq_isSome] at known ⊢
        rw [know_registry, Registry.hooks?_attach]
        split <;> simpa using known }
  | call asked inside course => exact course.lasts asked resting
  | @enter call type _ built e₁ asked plain inside miss course =>
    obtain ⟨after, lasting⟩ := course.lasts asked resting
    exact ⟨⟨after.toTidy.store U type built, after.idle⟩, lasting.keeps.store miss built,
      lasting.marks⟩

theorem Moves.lasts (moves : Moves U scope e e') (resting : Resting e) :
    Resting e' ∧ Lasts e e' := by
  induction moves with
  | refl => exact ⟨resting, .refl e⟩
  | tail first last ih =>
    obtain ⟨between, lasting⟩ := ih
    obtain ⟨after, lasting'⟩ := last.lasts between
    exact ⟨after, lasting.trans lasting'⟩

/-! ## Handles that builds returned -/

/-- A build ended with a schema type that names a handle, or the cache gave such a type. -/
inductive Returns (U : Universe n) (scope : Scope n) : Encoder n → Encoder n → ObjectId → Prop
  | call {call type e result e' id} (asked : call.type? = some type) (inside : scope.type type)
      (course : Course U call e (.ok result) e') (named : id ∈ result.handles) :
      Returns U scope e e' id
  | entered {call type e built e' id} (asked : call.type? = some type)
      (plain : type.isPointer = false) (inside : scope.type type)
      (miss : e.cache.lookup U type = none) (course : Course U call e (.ok built) e')
      (named : id ∈ built.handles) : Returns U scope e (e'.store U type built) id
  | cached {type e found id} (hit : e.cache.lookup U type = some found)
      (sound : e.cache.failure? found = none) (named : id ∈ found.handles) :
      Returns U scope e e id

/-- Some move between two encoders returned a handle. -/
def Returned (U : Universe n) (scope : Scope n) (e e' : Encoder n) (id : ObjectId) : Prop :=
  ∃ start stop, Moves U scope e start ∧ Returns U scope start stop id ∧ Moves U scope stop e'

namespace Returned

variable {id : ObjectId}

theorem before (moves : Moves U scope e e₁) (h : Returned U scope e₁ e' id) :
    Returned U scope e e' id := by
  obtain ⟨start, stop, toStart, returns, fromStop⟩ := h
  exact ⟨start, stop, moves.trans toStart, returns, fromStop⟩

theorem after (h : Returned U scope e e₁ id) (moves : Moves U scope e₁ e') :
    Returned U scope e e' id := by
  obtain ⟨start, stop, toStart, returns, fromStop⟩ := h
  exact ⟨start, stop, toStart, returns, fromStop.trans moves⟩

end Returned

/-! ## Steps that serve -/

/-- A step always ends, after moves only.  The handles in what it results in were given or returned.
-/
def Build.Serves {α : Type} (U : Universe n) (scope : Scope n) (given : List ObjectId)
    (handles : α → List ObjectId) (step : Build n α) : Prop :=
  ∀ e, ∃ result e', step.outcome e = some (result, e') ∧ Moves U scope e e' ∧
    ∀ a, result = .ok a → ∀ id ∈ handles a, id ∈ given ∨ Returned U scope e e' id

/-- Whatever such a step ends with, it was reached by moves. -/
theorem Build.Serves.moves {α : Type} {given : List ObjectId} {handles : α → List ObjectId}
    {step : Build n α} (serves : Build.Serves U scope given handles step)
    {result : Except EncodeError α} (run : step.outcome e = some (result, e')) :
    Moves U scope e e' := by
  obtain ⟨_, _, run', moves, -⟩ := serves e
  rw [run] at run'
  cases run'
  exact moves

/-- A step that shows no handles. -/
abbrev noHandles {α : Type} : α → List ObjectId := fun _ => []

namespace Build

variable {α β : Type} {given : List ObjectId} {handles : α → List ObjectId}
  {handles' : β → List ObjectId}

theorem serves_pure {a : α} (h : ∀ id ∈ handles a, id ∈ given) :
    Serves U scope given handles (pure a) := by
  intro e
  refine ⟨.ok a, e, rfl, .refl, ?_⟩
  rintro _ ⟨⟩ id named
  exact .inl (h id named)

theorem serves_throw (error : EncodeError) :
    Serves U scope given handles (throw error : Build n α) := by
  intro e
  refine ⟨.error error, e, rfl, .refl, ?_⟩
  rintro _ ⟨⟩

theorem serves_note {event : Event n} (other : event.begun? = none) :
    Serves U scope given noHandles (note event) := by
  intro e
  refine ⟨.ok (), e.note event, rfl, .single (.note other), ?_⟩
  intro _ _ id named
  cases named

theorem serves_bind {step : Build n α} {next : α → Build n β}
    (first : Serves U scope given handles step)
    (second : ∀ a, Serves U scope (given ++ handles a) handles' (next a)) :
    Serves U scope given handles' (step >>= next) := by
  intro e
  obtain ⟨result, e₁, run, moves, returned⟩ := first e
  cases result with
  | error error =>
    refine ⟨.error error, e₁, outcome_bind_error run _, moves, ?_⟩
    rintro _ ⟨⟩
  | ok a =>
    obtain ⟨result, e', run', moves', returned'⟩ := second a e₁
    refine ⟨result, e', (outcome_bind_ok run _).trans run', moves.trans moves', ?_⟩
    intro b ok id named
    rcases returned' b ok id named with known | late
    · rcases List.mem_append.1 known with old | shown
      · exact .inl old
      · exact (returned a rfl id shown).imp_right fun early => early.after moves'
    · exact .inr (late.before moves)

theorem serves_map {step : Build n α} {f : α → β} (h : ∀ a, handles' (f a) = handles a)
    (serves : Serves U scope given handles step) : Serves U scope given handles' (f <$> step) := by
  intro e
  obtain ⟨result, e', run, moves, returned⟩ := serves e
  refine ⟨result.map f, e', by rw [outcome_map, run]; rfl, moves, ?_⟩
  intro b ok id named
  cases result with
  | error error => cases ok
  | ok a =>
    cases ok
    rw [h] at named
    exact returned a rfl id named

theorem serves_adapt {step : Build n α} (f : EncodeError → EncodeError)
    (serves : Serves U scope given handles step) :
    Serves U scope given handles (ExceptT.adapt f step) := by
  intro e
  obtain ⟨result, e', run, moves, returned⟩ := serves e
  refine ⟨result.mapError f, e', by rw [outcome_adapt, run]; rfl, moves, ?_⟩
  intro a ok id named
  cases result with
  | error error => cases ok
  | ok b =>
    cases ok
    exact returned _ rfl id named

/-- A fold over steps, each of which may show what it was given and what it started from. -/
theorem serves_foldlM {step : β → α → Build n β} (items : List α)
    (each : ∀ given b a, a ∈ items →
      (∀ id ∈ handles' b, id ∈ given) → (∀ id ∈ handles a, id ∈ given) →
        Serves U scope given handles' (step b a)) :
    ∀ {given : List ObjectId} {start : β}, (∀ id ∈ handles' start, id ∈ given) →
      (∀ a ∈ items, ∀ id ∈ handles a, id ∈ given) →
        Serves U scope given handles' (items.foldlM step start) := by
  induction items with
  | nil => exact fun known _ => serves_pure known
  | cons a rest ih =>
    intro given start known shown
    rw [List.foldlM_cons]
    have first := each given start a List.mem_cons_self known (shown a List.mem_cons_self)
    refine serves_bind first fun b => ih ?_ ?_ ?_
    · exact fun given b a inside => each given b a (List.mem_cons_of_mem _ inside)
    · exact fun id named => List.mem_append_right _ named
    · exact fun a inside id named =>
        List.mem_append_left _ (shown a (List.mem_cons_of_mem _ inside) id named)

/-! ### The steps of requests -/

/-- Registration ends with the type registered. -/
theorem outcome_register (U : Universe n) (type : TypeExpr n) (e : Encoder n) :
    ∃ registry, (register U type).outcome e = some (.ok (), e.know registry) ∧
      e.registry.Extends U registry ∧ registry.contains type := by
  obtain ⟨registry, registered, grown, known⟩ := Registry.register_extends U e.registry type
  refine ⟨registry, ?_, grown, known⟩
  change (e.registry.register U type).map _ = _
  rw [registered]
  rfl

theorem serves_register (type : TypeExpr n) :
    Serves U scope given noHandles (register U type) := by
  intro e
  obtain ⟨registry, run, grown, -⟩ := outcome_register U type e
  refine ⟨.ok (), e.know registry, run, .single (.register grown), ?_⟩
  intro _ _ id named
  cases named

theorem serves_attach (type : TypeExpr n) {hook : Hook} (allowed : scope.hook hook) :
    Serves U scope given noHandles (attach type hook) := by
  intro e
  refine ⟨.ok (e.registry.contains type), e.know (e.registry.attach type hook), rfl,
    .single (.attach allowed), ?_⟩
  intro _ _ id named
  cases named

theorem serves_structOfInfo (closed : scope.Closed U) {type : TypeExpr n}
    (inside : scope.type type) (options : List (SchemaOption n)) :
    Serves U scope given (fun id => [id]) (structOfInfo U type options) := by
  intro e
  obtain ⟨result, e', run⟩ := structOfInfo_ends U type options e
  have course := course_object run
  have stripped := closed.withoutPointers inside
  refine ⟨result, e', run, .single (.call rfl stripped course), ?_⟩
  rintro id rfl other named
  refine .inr ⟨e, e', .refl, ?_, .refl⟩
  exact Returns.call rfl stripped course named

theorem serves_resolveType {type : TypeExpr n} (inside : scope.type type) :
    Serves U scope given SchemaType.handles (resolveType U type) := by
  intro e
  obtain ⟨result, e', run⟩ := resolveType_ends U type e
  have course := course_resolve run
  refine ⟨result, e', run, .single (.call rfl inside course), ?_⟩
  rintro resolved rfl id named
  refine .inr ⟨e, e', .refl, ?_, .refl⟩
  exact Returns.call rfl inside course named

theorem serves_fieldType {type : TypeExpr n} (inside : scope.type type) (path name : String)
    (tag : FieldTag) :
    Serves U scope given SchemaType.handles (fieldType U (resolveType U) path name tag type) := by
  refine serves_adapt _ ?_
  unfold tagged
  refine serves_bind (serves_resolveType inside) fun resolved => ?_
  have kept : ∀ id ∈ resolved.required.handles, id ∈ given ++ resolved.handles := by
    rw [SchemaType.handles_required]
    exact fun id named => List.mem_append_right _ named
  split
  · split
    · refine serves_bind (serves_note rfl) fun _ => serves_pure fun id named => ?_
      exact List.mem_append_left _ (kept id named)
    · exact serves_pure kept
  · exact serves_pure fun id named => List.mem_append_right _ named

theorem argumentsWith_of_struct (resolve : TypeExpr n → Build n SchemaType) {type : TypeExpr n}
    {fields : List (RecordField n)} (struct : U.detail type = .struct fields) :
    argumentsWith U resolve (U.info type) =
      fields.foldlM (addArgument U resolve (U.path type)) .empty := by
  simp only [argumentsWith, TypeInfo.asStruct, Universe.info, struct]

theorem argumentsWith_of_other (resolve : TypeExpr n → Build n SchemaType) {type : TypeExpr n}
    (noStruct : U.isStruct type = false) :
    argumentsWith U resolve (U.info type) = throw (.notStruct (U.path type)) := by
  unfold argumentsWith TypeInfo.asStruct Universe.info
  cases detail : U.detail type with
  | struct fields => simp [Universe.isStruct, detail, Detail.kind] at noStruct
  | primitive | list | array | pointer | map | closed | dynamic => rfl

theorem argsOfInfo_eq (U : Universe n) (type : TypeExpr n) :
    argsOfInfo U type = argumentsWith U (resolveType U) (U.info type.withoutPointers) := by
  unfold argsOfInfo
  rw [Universe.withoutPointers_info]

theorem serves_addArgument {type : TypeExpr n} (closed : scope.Closed U) (inside : scope.type type)
    {fields : List (RecordField n)} (struct : U.detail type = .struct fields) (path : String)
    {field : RecordField n} (listed : field ∈ fields) {arguments : ArgumentMap}
    (known : ∀ id ∈ arguments.handles, id ∈ given) :
    Serves U scope given ArgumentMap.handles
      (addArgument U (resolveType U) path arguments field) := by
  unfold addArgument
  cases content : field.content with
  | hidden | untagged => exact serves_pure known
  | tagged text type =>
    have part := closed.field _ _ _ _ _ struct listed content inside
    refine serves_bind (serves_fieldType part _ _ _) fun resolved => ?_
    have added : ∀ id ∈ ArgumentMap.handles
        (arguments.insert (FieldTag.parse text).name { type := resolved }).2,
        id ∈ given ++ resolved.handles := fun id named => by
      rcases ArgumentMap.mem_handles_insert named with new | old
      · exact List.mem_append_right _ new
      · exact List.mem_append_left _ (known id old)
    simp only
    split
    · refine serves_bind (serves_note rfl) fun _ => serves_pure fun id named => ?_
      exact List.mem_append_left _ (added id named)
    · exact serves_pure added

theorem serves_argsOfInfo (closed : scope.Closed U) {type : TypeExpr n}
    (inside : scope.type type) :
    Serves U scope given ArgumentMap.handles (argsOfInfo U type) := by
  have stripped := closed.withoutPointers inside
  rw [argsOfInfo_eq]
  rcases Universe.struct_or_not U type.withoutPointers with ⟨fields, struct⟩ | noStruct
  · rw [argumentsWith_of_struct _ struct]
    refine @serves_foldlM n U scope _ _ noHandles _ _ fields ?_ given _ ?_ ?_
    · exact fun given arguments field listed known _ =>
        serves_addArgument closed stripped struct _ listed known
    · intro id named
      cases named
    · intro _ _ id named
      cases named
  · rw [argumentsWith_of_other _ noStruct]
    exact serves_throw _

/-- The schema type of a list item is the result of a call. -/
theorem itemType_course (type : TypeExpr n) (options : List (SchemaOption n)) (e : Encoder n) :
    ∃ call result e', call.type? = some type.withoutPointers ∧
      (itemType U type.withoutPointers options).outcome e = some (result, e') ∧
        Course U call e result e' := by
  unfold itemType
  split
  · obtain ⟨result, e', run⟩ := structOfInfo_ends U type.withoutPointers options e
    have course := course_object run
    rw [TypeExpr.withoutPointers_withoutPointers] at course
    exact ⟨_, _, e', rfl, by rw [outcome_map, run]; rfl, course⟩
  · obtain ⟨result, e', run⟩ := buildType_ends U type.withoutPointers e
    exact ⟨_, _, e', rfl, run, course_build run⟩

section ArrayOf

variable {type : TypeExpr n} {options : List (SchemaOption n)}
  (registered : (register U type).outcome e = some (.ok (), e₁))

include registered

theorem outcome_arrayOf_of_failed {found : SchemaType} {error : EncodeError}
    (hit : e₁.cache.lookup U type = some found) (failed : e₁.cache.failure? found = some error) :
    (arrayOf U type options).outcome e = some (.error error, e₁) := by
  unfold arrayOf
  rw [outcome_bind_ok registered]
  refine outcome_bind_error ?_ _
  rw [outcome_cached, TypeCache.lookup_withoutPointers, hit]
  simp [failed]

theorem outcome_arrayOf_of_hit {found : SchemaType}
    (hit : e₁.cache.lookup U type = some found) (sound : e₁.cache.failure? found = none) :
    (arrayOf U type options).outcome e =
      some (.ok (.list found), e₁.note (.itemCacheHit (U.path type.withoutPointers))) := by
  have known : (cached U type.withoutPointers).outcome e₁ = some (.ok (some found), e₁) := by
    rw [outcome_cached, TypeCache.lookup_withoutPointers, hit]
    simp [sound]
  unfold arrayOf
  rw [outcome_bind_ok registered]
  simp only
  rw [outcome_bind_ok known]
  rfl

theorem outcome_arrayOf_of_miss (miss : e₁.cache.lookup U type = none) :
    (arrayOf U type options).outcome e =
      ((itemType U type.withoutPointers options).outcome e₁).map fun r =>
        (r.1.map .list, match r.1 with
          | .ok built => r.2.store U type.withoutPointers built
          | .error _ => r.2) := by
  have known : (cached U type.withoutPointers).outcome e₁ = some (.ok none, e₁) := by
    rw [outcome_cached, TypeCache.lookup_withoutPointers, miss]
  unfold arrayOf
  rw [outcome_bind_ok registered]
  simp only
  rw [outcome_bind_ok known]
  simp only
  rw [outcome_bind]
  cases (itemType U type.withoutPointers options).outcome e₁ with
  | none => rfl
  | some r => obtain ⟨_ | built, e₂⟩ := r <;> rfl

end ArrayOf

theorem serves_arrayOf (closed : scope.Closed U) {type : TypeExpr n} (inside : scope.type type)
    (options : List (SchemaOption n)) :
    Serves U scope given SchemaType.handles (arrayOf U type options) := by
  intro e
  obtain ⟨registry, registered, grown, -⟩ := outcome_register U type e
  have start : Moves U scope e (e.know registry) := .single (.register grown)
  have stripped := closed.withoutPointers inside
  cases hit : (e.know registry).cache.lookup U type with
  | some found =>
    cases failed : (e.know registry).cache.failure? found with
    | some error =>
      refine ⟨_, _, outcome_arrayOf_of_failed registered hit failed, start, ?_⟩
      rintro _ ⟨⟩
    | none =>
      have noted : Moves U scope (e.know registry) _ :=
        .single (.note (@rfl _ (Event.itemCacheHit (U.path type.withoutPointers) : Event n).begun?))
      refine ⟨_, _, outcome_arrayOf_of_hit registered hit failed, start.trans noted, ?_⟩
      rintro _ ⟨⟩ id named
      exact .inr ⟨_, _, start, .cached hit failed named, noted⟩
  | none =>
    obtain ⟨call, result, e', asked, run, course⟩ := itemType_course type options (e.know registry)
    have plain := type.isPointer_withoutPointers
    have whole := @outcome_arrayOf_of_miss n U e _ type options registered hit
    rw [run] at whole
    rw [← TypeCache.lookup_withoutPointers] at hit
    cases result with
    | error error =>
      refine ⟨_, _, whole, start.trans (.single (.call asked stripped course)), ?_⟩
      rintro _ ⟨⟩
    | ok built =>
      refine ⟨_, _, whole, start.trans (.single (.enter asked plain stripped hit course)), ?_⟩
      rintro _ ⟨⟩ id named
      exact .inr ⟨_, _, start, .entered asked plain stripped hit course named, .refl⟩

/-- The types that options put in the place of a field's own. -/
def replacements (options : List (SchemaOption n)) : List SchemaType :=
  options.filterMap fun option =>
    match option with
    | .type replacement => some replacement
    | _ => none

/-- The handles that an option gives to a field. -/
def optionHandles (option : SchemaOption n) : List ObjectId :=
  match option with
  | .type replacement => replacement.handles
  | _ => []

/-- The types whose fields options take as arguments. -/
def sources (options : List (SchemaOption n)) : List (TypeExpr n) :=
  options.filterMap fun option =>
    match option with
    | .arguments source => some source
    | _ => none

theorem mem_replacements {options : List (SchemaOption n)} {replacement : SchemaType} :
    replacement ∈ replacements options ↔ SchemaOption.type replacement ∈ options := by
  unfold replacements
  rw [List.mem_filterMap]
  constructor
  · rintro ⟨option, listed, same⟩
    cases option <;> cases same
    exact listed
  · exact fun listed => ⟨_, listed, rfl⟩

theorem mem_sources {options : List (SchemaOption n)} {source : TypeExpr n} :
    source ∈ sources options ↔ SchemaOption.arguments source ∈ options := by
  unfold sources
  rw [List.mem_filterMap]
  constructor
  · rintro ⟨option, listed, same⟩
    cases option <;> cases same
    exact listed
  · exact fun listed => ⟨_, listed, rfl⟩

theorem serves_applyToField (closed : scope.Closed U) {option : SchemaOption n} {field : Field}
    (known : ∀ id ∈ field.handles, id ∈ given)
    (replaced : ∀ type, option = .type type → ∀ id ∈ type.handles, id ∈ given)
    (inside : ∀ source, option = .arguments source → scope.type source) :
    Serves U scope given Field.handles (applyToField U option field) := by
  cases option with
  | description text => exact serves_pure known
  | deprecationReason reason => exact serves_pure known
  | resolver replacement => exact serves_pure known
  | defaultValue value => exact serves_throw _
  | type replacement =>
    refine serves_pure fun id named => ?_
    rcases List.mem_append.1 named with own | argument
    · exact replaced replacement rfl id own
    · exact known id (List.mem_append_right _ argument)
  | arguments source =>
    refine serves_bind (serves_argsOfInfo closed (inside source rfl)) fun arguments => ?_
    refine serves_pure fun id named => ?_
    rcases List.mem_append.1 named with own | argument
    · exact List.mem_append_left _ (known id (List.mem_append_left _ own))
    · exact List.mem_append_right _ argument

theorem serves_structOf (closed : scope.Closed U) {type : TypeExpr n} (inside : scope.type type)
    (options : List (SchemaOption n)) :
    Serves U scope given (fun id => [id]) (structOf U type options) :=
  serves_bind (serves_register type) fun _ => serves_structOfInfo closed inside options

/-- The one error of looking an object up is that no object has the handle. -/
theorem outcome_object (id : ObjectId) (e : Encoder n) :
    (object id).outcome e =
      some (((e.arena.get? id).map .ok).getD (.error (.danglingObject id)), e) := by
  unfold object
  rw [outcome_bind_ok (outcome_get e)]
  cases e.arena.get? id <;> rfl

theorem serves_object (id : ObjectId) : Serves U scope given noHandles (@object n id) := by
  intro e
  refine ⟨_, e, outcome_object id e, .refl, ?_⟩
  intro _ _ id named
  cases named

theorem serves_fieldOf (closed : scope.Closed U) {type : TypeExpr n} (inside : scope.type type)
    {options : List (SchemaOption n)} (sourced : ∀ source ∈ sources options, scope.type source) :
    Serves U scope ((replacements options).flatMap SchemaType.handles) Field.handles
      (fieldOf U type options) := by
  refine serves_bind (serves_structOf closed inside []) fun id => ?_
  refine serves_bind (serves_object id) fun target => ?_
  refine @serves_foldlM n U scope _ _ optionHandles _ _ options ?_ _ _ ?_ ?_
  · intro given field option listed known shown
    refine serves_applyToField closed known ?_ ?_
    · rintro replacement rfl
      exact shown
    · rintro source rfl
      exact sourced source (mem_sources.2 listed)
  · intro other named
    rcases List.mem_append.1 named with own | argument
    · exact List.mem_append_left _ (List.mem_append_right _ own)
    · cases argument
  · intro option listed id named
    cases option with
    | type replacement =>
      refine List.mem_append_left _ (List.mem_append_left _ ?_)
      exact List.mem_flatMap.2 ⟨replacement, mem_replacements.2 listed, named⟩
    | description | defaultValue | deprecationReason | resolver | arguments => cases named

end Build

/-! ## Requests and sessions -/

namespace Request

/-- The types that a request asks for. -/
def types : Request n → List (TypeExpr n)
  | .structOf type _ | .structOfInfo type _ | .argsOf type | .argsOfInfo type | .arrayOf type _
  | .resolveType type => [type]
  | .fieldOf type options => type :: Build.sources options
  | .registerHook _ _ | .insertHook _ _ => []

/-- The type whose object a request needs. -/
def objectOf? : Request n → Option (TypeExpr n)
  | .structOf type _ | .structOfInfo type _ | .fieldOf type _ => some type
  | _ => none

/-- The hook that a request attaches. -/
def hook? : Request n → Option Hook
  | .registerHook _ hook | .insertHook _ hook => some hook
  | _ => none

/-- The types that a request gives to a field in the place of its own. -/
def replacements : Request n → List SchemaType
  | .fieldOf _ options => Build.replacements options
  | _ => []

/-- A request that stays inside a scope. -/
structure Within (scope : Scope n) (request : Request n) : Prop where
  hook : ∀ hook, request.hook? = some hook → scope.hook hook
  types : ∀ type ∈ request.types, scope.type type

/-- Every request ends after moves only.  The handles that its answer shows were in its options, or
were returned on the way. -/
theorem serves (closed : scope.Closed U) {request : Request n} (within : request.Within scope) :
    Build.Serves U scope (request.replacements.flatMap SchemaType.handles) Answer.handles
      (request.run U) := by
  cases request with
  | structOf type options =>
    have inside := within.types type List.mem_cons_self
    exact Build.serves_map (fun _ => rfl) (Build.serves_structOf closed inside options)
  | structOfInfo type options =>
    have inside := within.types type List.mem_cons_self
    exact Build.serves_map (fun _ => rfl) (Build.serves_structOfInfo closed inside options)
  | argsOf type =>
    have inside := within.types type List.mem_cons_self
    refine Build.serves_map (fun _ => rfl) (Build.serves_bind (Build.serves_register type) ?_)
    exact fun _ => Build.serves_argsOfInfo closed inside
  | argsOfInfo type =>
    have inside := within.types type List.mem_cons_self
    exact Build.serves_map (fun _ => rfl) (Build.serves_argsOfInfo closed inside)
  | arrayOf type options =>
    have inside := within.types type List.mem_cons_self
    exact Build.serves_map (fun _ => rfl) (Build.serves_arrayOf closed inside options)
  | fieldOf type options =>
    have inside := within.types type List.mem_cons_self
    have sourced : ∀ source ∈ Build.sources options, scope.type source := fun source listed =>
      within.types source (List.mem_cons_of_mem _ listed)
    exact Build.serves_map (fun _ => rfl) (Build.serves_fieldOf closed inside sourced)
  | resolveType type =>
    have inside := within.types type List.mem_cons_self
    exact Build.serves_map (fun _ => rfl) (Build.serves_resolveType inside)
  | registerHook type hook =>
    refine Build.serves_bind (Build.serves_register type) fun _ => ?_
    exact Build.serves_map (fun _ => rfl) (Build.serves_attach type (within.hook hook rfl))
  | insertHook type hook =>
    exact Build.serves_map (fun _ => rfl) (Build.serves_attach type (within.hook hook rfl))

end Request

theorem Session.run_cons {request : Request n} {requests : List (Request n)}
    {answer : Except EncodeError Answer} {answers : List (Except EncodeError Answer)}
    (first : (request.run U).outcome e = some (answer, e₁))
    (rest : Session.run U requests e₁ = some (answers, e')) :
    Session.run U (request :: requests) e = some (answer :: answers, e') := by
  simp [Session.run, first, rest]

/-- Every session ends after moves only.  The handles that its answers show were in the options of
its requests, or were returned on the way. -/
theorem Session.serves (closed : scope.Closed U) (requests : List (Request n))
    (within : ∀ request ∈ requests, request.Within scope) (e : Encoder n) :
    ∃ answers e', Session.run U requests e = some (answers, e') ∧ Moves U scope e e' ∧
      ∀ answer, .ok answer ∈ answers → ∀ id ∈ answer.handles,
        (∃ request ∈ requests, ∃ type ∈ request.replacements, id ∈ type.handles) ∨
          Returned U scope e e' id := by
  induction requests generalizing e with
  | nil =>
    refine ⟨[], e, rfl, .refl, ?_⟩
    intro answer listed
    cases listed
  | cons request rest ih =>
    obtain ⟨answer, e₁, run, moves, returned⟩ :=
      Request.serves closed (within request List.mem_cons_self) e
    obtain ⟨answers, e', run', moves', returned'⟩ :=
      ih (fun later listed => within later (List.mem_cons_of_mem _ listed)) e₁
    refine ⟨answer :: answers, e', Session.run_cons run run', moves.trans moves', ?_⟩
    intro shown listed id named
    rcases List.mem_cons.1 listed with same | later
    · rcases returned shown same.symm id named with given | early
      · obtain ⟨type, replaced, inside⟩ := List.mem_flatMap.1 given
        exact .inl ⟨request, List.mem_cons_self, type, replaced, inside⟩
      · exact .inr (early.after moves')
    · rcases returned' shown later id named with ⟨asked, inside, given⟩ | late
      · exact .inl ⟨asked, List.mem_cons_of_mem _ inside, given⟩
      · exact .inr (late.before moves)

theorem Session.moves (closed : scope.Closed U) {requests : List (Request n)}
    (within : ∀ request ∈ requests, request.Within scope)
    {answers : List (Except EncodeError Answer)}
    (run : Session.run U requests e = some (answers, e')) : Moves U scope e e' := by
  obtain ⟨_, _, run', moves, -⟩ := Session.serves closed requests within e
  rw [run] at run'
  cases run'
  exact moves

/-- Two sessions with one encoder are one session. -/
theorem Session.run_append {before after : List (Request n)}
    {answers answers' : List (Except EncodeError Answer)}
    (first : Session.run U before e = some (answers, e₁))
    (second : Session.run U after e₁ = some (answers', e')) :
    Session.run U (before ++ after) e = some (answers ++ answers', e') := by
  induction before generalizing e answers with
  | nil =>
    cases first
    exact second
  | cons request rest ih =>
    simp only [Session.run, Option.bind_eq_bind, Option.bind_eq_some_iff] at first
    obtain ⟨⟨answer, e₂⟩, asked, ⟨answers₂, e₃⟩, run, same⟩ := first
    cases same
    exact Session.run_cons asked (ih run)

/-- Sessions that may ask for any type and attach any hook. -/
def Scope.everything (n : Nat) : Scope n := ⟨fun _ => True, fun _ => True⟩

theorem Scope.closed_everything (U : Universe n) : (Scope.everything n).Closed U where
  pointee _ _ _ := trivial
  item _ _ _ _ := trivial
  field _ _ _ _ _ _ _ _ _ := trivial

theorem Request.within_everything (request : Request n) : request.Within (.everything n) :=
  ⟨fun _ _ => trivial, fun _ _ => trivial⟩

/-- After a request nothing is in progress, and all that was there is still there. -/
theorem Request.lasts {request : Request n} (resting : Resting e)
    {answer : Except EncodeError Answer} (run : (request.run U).outcome e = some (answer, e')) :
    Resting e' ∧ Lasts e e' := by
  have moves := (Request.serves (Scope.closed_everything U) request.within_everything).moves run
  exact moves.lasts resting

/-- Every session ends, and all that was there before it is still there. -/
theorem Session.lasts (U : Universe n) (requests : List (Request n)) (resting : Resting e) :
    ∃ answers e', Session.run U requests e = some (answers, e') ∧ Resting e' ∧ Lasts e e' := by
  obtain ⟨answers, e', run, moves, -⟩ := Session.serves (Scope.closed_everything U) requests
    (fun request _ => request.within_everything) e
  exact ⟨answers, e', run, moves.lasts resting⟩

end RecordSchema
