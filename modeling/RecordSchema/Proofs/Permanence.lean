import RecordSchema.Proofs.Soundness

/-!
# Successful results are permanent

What a request that succeeded depended on is stored: the types that it resolved are cached and name
usable objects, and what it registered stays registered.  Nothing of this is ever taken back, so the
same request finds it again, whatever was asked in between, and answers as before.  It then stores
nothing new; only the journal grows.

Argument maps are not cached.  They come out equal because each of their types is
(`arguments_repeat`).
-/

namespace RecordSchema

variable {n : Nat}

namespace Encoder

/-! ## Encoders that differ in their journals only -/

/-- What `e'` stores is what `e` stores. -/
structure Unchanged (e e' : Encoder n) : Prop where
  cache : e'.cache = e.cache
  arena : e'.arena = e.arena
  registry : e'.registry = e.registry
  building : e'.building = e.building
  begun : e'.begun = e.begun

namespace Unchanged

variable {e e₁ e' : Encoder n}

theorem refl (e : Encoder n) : Unchanged e e := ⟨rfl, rfl, rfl, rfl, rfl⟩

theorem trans (first : Unchanged e e₁) (second : Unchanged e₁ e') : Unchanged e e' where
  cache := second.cache.trans first.cache
  arena := second.arena.trans first.arena
  registry := second.registry.trans first.registry
  building := second.building.trans first.building
  begun := second.begun.trans first.begun

theorem note (e : Encoder n) (event : Event n) (other : event.begun? = none) :
    Unchanged e (e.note event) :=
  ⟨rfl, rfl, rfl, rfl, by simp [other]⟩

theorem warn (U : Universe n) (e : Encoder n) (type : TypeExpr n) (tag : FieldTag)
    (resolved : SchemaType) : Unchanged e (e.warn U type tag resolved) := by
  unfold Encoder.warn
  split
  · exact note e _ rfl
  · exact refl e

theorem lasts (same : Unchanged e e') : Lasts e e' where
  keeps := {
    objects := fun id _ => by rw [same.arena]
    size := by rw [same.arena]
    entries := fun key found stored => by rwa [same.cache]
    marks := fun id error mark => by rwa [same.cache]
    policy := by rw [same.cache]
    begun := by rw [same.begun]
    registered := fun type known => by rwa [same.registry] }
  marks id _ := by rw [same.cache]

theorem resting (same : Unchanged e e') (resting : Resting e) : Resting e' where
  journal := by rw [same.begun, same.arena, resting.journal]
  marked id error mark := by
    rw [same.cache] at mark
    rw [same.arena]
    exact resting.marked id error mark
  building id started := by
    rw [same.building] at started
    rw [same.arena]
    exact resting.building id started
  idle := same.building.trans resting.idle

end Unchanged

/-! ## Settled types -/

/-- A type is cached, and what is cached for it names usable objects only. -/
structure Settled (U : Universe n) (e : Encoder n) (type : TypeExpr n) (resolved : SchemaType) :
    Prop where
  hit : e.cache.lookup U type = some resolved
  usable : ∀ id ∈ resolved.handles, e.Usable id

namespace Settled

variable {U : Universe n} {e e' : Encoder n} {type : TypeExpr n} {resolved : SchemaType}

theorem lasts (settled : Settled U e type resolved) (lasting : Lasts e e') :
    Settled U e' type resolved where
  hit := lasting.keeps.lookup settled.hit
  usable id named := lasting.usable (settled.usable id named)

theorem unmarked (settled : Settled U e type resolved) : e.cache.failure? resolved = none := by
  unfold TypeCache.failure?
  cases named : resolved.namedObject? with
  | none => rfl
  | some id => exact (settled.usable id (SchemaType.mem_handles.2 named)).unmarked

end Settled

end Encoder

open Encoder

section Repeats

variable {U : Universe n} {e e₁ e' : Encoder n} {type : TypeExpr n} {resolved : SchemaType}

/-- A settled type resolves to what is cached for it. -/
theorem resolveType_of_settled (settled : Settled U e type resolved) :
    ∃ e', (resolveType U type).outcome e = some (.ok resolved, e') ∧ Unchanged e e' := by
  have plain := type.isPointer_withoutPointers
  refine ⟨_, ?_, Unchanged.note e (.typeCacheHit (U.path type.withoutPointers)) rfl⟩
  unfold resolveType
  rw [← Build.resolve_withoutPointers, Build.resolve_eq_recalled U _ plain]
  refine Build.outcome_recalled_of_hit U ?_ settled.unmarked _
  rw [TypeCache.lookup_withoutPointers, settled.hit]

/-- The object of a settled type is the cached one, whatever the options. -/
theorem structOfInfo_of_settled {id : ObjectId} (settled : Settled U e type (.object id))
    (options : List (SchemaOption n)) :
    ∃ e', (structOfInfo U type options).outcome e = some (.ok id, e') ∧ Unchanged e e' := by
  have hit : e.cache.lookup U type.withoutPointers = some (.object id) := by
    rw [TypeCache.lookup_withoutPointers, settled.hit]
  refine ⟨_, ?_, Unchanged.note e (.objectCacheHit (U.path type.withoutPointers)) rfl⟩
  unfold structOfInfo Build.objectOf
  cases n with
  | zero =>
    unfold Build.objectAt
    rw [Universe.withoutPointers_info]
    exact Build.outcome_objectWith_of_hit U _ hit settled.unmarked
  | succ depth =>
    unfold Build.objectAt
    rw [Universe.withoutPointers_info]
    exact Build.outcome_objectWith_of_hit U _ hit settled.unmarked

/-- A registered type is registered again without a change. -/
theorem register_of_contains (known : e.registry.contains type) :
    (Build.register U type).outcome e = some (.ok (), e) := by
  change (e.registry.register U type).map _ = _
  rw [Registry.register_of_contains U known]
  rfl

/-! ## Arguments -/

/-- A tagged field adds the schema type of its type as an argument. -/
theorem addArgument_of_ok {field : RecordField n} {text : String}
    (content : field.content = .tagged text type) (path : String) (arguments : ArgumentMap)
    (run : (resolveType U type).outcome e = some (.ok resolved, e₁)) :
    ∃ e', (Build.addArgument U (resolveType U) path arguments field).outcome e = some
      (.ok (arguments.insert (FieldTag.parse text).name
        { type := taggedType (.parse text) resolved }).2, e') ∧ Unchanged e₁ e' := by
  have warned := Unchanged.warn U e₁ type (.parse text) resolved
  unfold Build.addArgument
  rw [content]
  simp only
  rw [Build.outcome_bind_ok (Build.outcome_fieldType_ok U run)]
  split
  · exact ⟨_, rfl, warned.trans (.note _ (.argumentReplaced path field.name _) rfl)⟩
  · exact ⟨_, rfl, warned⟩

theorem addArgument_of_error {field : RecordField n} {text : String}
    (content : field.content = .tagged text type) (path : String) (arguments : ArgumentMap)
    {error : EncodeError} (run : (resolveType U type).outcome e = some (.error error, e₁)) :
    (Build.addArgument U (resolveType U) path arguments field).outcome e =
      some (.error (error.inStruct path field.name), e₁) := by
  unfold Build.addArgument
  rw [content]
  exact Build.outcome_bind_error (Build.outcome_fieldType_error U run) _

theorem addArgument_of_untagged {field : RecordField n} (untagged : field.tag? = none)
    (path : String) (arguments : ArgumentMap) :
    Build.addArgument U (resolveType U) path arguments field = pure arguments := by
  unfold Build.addArgument
  unfold RecordField.tag? at untagged
  split
  · next content => simp [content] at untagged
  · rfl

/-- What holds between the requests of a session without provided handles. -/
structure Standing (U : Universe n) (e : Encoder n) : Prop where
  free : HandleFree U e
  sound : Sound U e
  resting : Resting e

theorem Encoder.Unchanged.standing (same : Unchanged e e') (standing : Standing U e) :
    Standing U e' where
  free type given hook := by
    rw [hooksOf_of_registry U same.registry] at hook
    exact standing.free type given hook
  sound := standing.sound.congr same.cache same.arena same.building same.begun
  resting := same.resting standing.resting

theorem Moves.standing (moves : Moves U (.handleFree n) e e') (standing : Standing U e) :
    Standing U e' where
  free := (moves.sound standing.free standing.sound).1
  sound := (moves.sound standing.free standing.sound).2
  resting := (moves.lasts standing.resting).1

/-- A type that was resolved is settled. -/
theorem settled_of_resolveType (standing : Standing U e)
    (run : (resolveType U type).outcome e = some (.ok resolved, e')) :
    Standing U e' ∧ Lasts e e' ∧ Settled U e' type resolved := by
  have course := course_resolve run
  have move : Moves U (.handleFree n) e e' := .single (.call rfl trivial course)
  have usable := (course.yields standing.free standing.sound trivial).usable resolved rfl
  exact ⟨move.standing standing, (move.lasts standing.resting).2, course.lookup_of_resolve, usable⟩

/-- Arguments that were built are built again, since the types of their fields are settled. -/
theorem arguments_repeat (path : String) (fields : List (RecordField n)) (start : ArgumentMap)
    {arguments : ArgumentMap} (standing : Standing U e)
    (run : Build.outcome (fields.foldlM (Build.addArgument U (resolveType U) path) start) e =
      some (.ok arguments, e')) :
    Lasts e e' ∧ ∀ e₂, Lasts e' e₂ → ∃ e₃,
      Build.outcome (fields.foldlM (Build.addArgument U (resolveType U) path) start) e₂ =
        some (.ok arguments, e₃) ∧ Unchanged e₂ e₃ := by
  induction fields generalizing start e with
  | nil =>
    cases run
    exact ⟨.refl _, fun e₂ _ => ⟨e₂, rfl, .refl e₂⟩⟩
  | cons field rest ih =>
    rw [List.foldlM_cons] at run ⊢
    cases content : field.content with
    | hidden | untagged =>
      have untagged : field.tag? = none := by simp [RecordField.tag?, content]
      rw [addArgument_of_untagged untagged, pure_bind] at run ⊢
      exact ih start standing run
    | tagged text type =>
      obtain ⟨result, e₁, first⟩ := resolveType_ends U type e
      cases result with
      | error error =>
        rw [Build.outcome_bind_error (addArgument_of_error content path start first)] at run
        cases run
      | ok resolved =>
        obtain ⟨standing₁, grown, settled⟩ := settled_of_resolveType standing first
        obtain ⟨e₁', added, same⟩ := addArgument_of_ok content path start first
        rw [Build.outcome_bind_ok added] at run
        obtain ⟨grown', repeats⟩ := ih _ (same.standing standing₁) run
        refine ⟨(grown.trans same.lasts).trans grown', fun e₂ later => ?_⟩
        have still := settled.lasts ((same.lasts.trans grown').trans later)
        obtain ⟨e₃, again, same₃⟩ := resolveType_of_settled still
        obtain ⟨e₄, added', same₄⟩ := addArgument_of_ok content path start again
        obtain ⟨e₅, rest', same₅⟩ := repeats e₄ ((later.trans same₃.lasts).trans same₄.lasts)
        refine ⟨e₅, ?_, (same₃.trans same₄).trans same₅⟩
        rw [Build.outcome_bind_ok added']
        exact rest'

/-! ## Requests that succeeded -/

/-- A step that succeeded is repeated with the same result from wherever the encoder lasted to. -/
def Repeats {α : Type} (step : Build n α) (a : α) (e : Encoder n) : Prop :=
  ∀ e₂, Lasts e e₂ → ∃ e₃, step.outcome e₂ = some (.ok a, e₃) ∧ Unchanged e₂ e₃

theorem Repeats.map {α β : Type} {step : Build n α} {a : α} (h : Repeats step a e) (f : α → β) :
    Repeats (f <$> step) (f a) e := by
  intro e₂ lasting
  obtain ⟨e₃, run, same⟩ := h e₂ lasting
  exact ⟨e₃, by rw [Build.outcome_map, run]; rfl, same⟩

/-- Registration before a step that repeats. -/
theorem Repeats.after_register {α : Type} {step : Build n α} {a : α} (h : Repeats step a e)
    (known : e.registry.contains type) :
    Repeats (do Build.register U type; step) a e := by
  intro e₂ lasting
  have still := lasting.keeps.registered type known
  obtain ⟨e₃, run, same⟩ := h e₂ lasting
  exact ⟨e₃, (Build.outcome_bind_ok (register_of_contains still) _).trans run, same⟩

theorem Encoder.Lasts.repeats {α : Type} {step : Build n α} {a : α} (lasting : Lasts e e')
    (h : Repeats step a e) : Repeats step a e' :=
  fun e₂ later => h e₂ (lasting.trans later)

theorem Standing.know (standing : Standing U e) {registry : Registry n}
    (grown : e.registry.Extends U registry) : Standing U (e.know registry) := by
  have move : Moves U (.handleFree n) e (e.know registry) := .single (.register grown)
  exact move.standing standing

theorem structOfInfo_repeats (standing : Standing U e) {options : List (SchemaOption n)}
    {id : ObjectId} (run : (structOfInfo U type options).outcome e = some (.ok id, e')) :
    Lasts e e' ∧ Repeats (structOfInfo U type options) id e' := by
  have course := course_object run
  have hit := course.lookup_of_object
  rw [TypeCache.lookup_withoutPointers] at hit
  have usable := (course.yields standing.free standing.sound trivial).usable _ rfl
  refine ⟨(course.lasts rfl standing.resting).2, fun e₂ lasting => ?_⟩
  exact structOfInfo_of_settled (Settled.lasts ⟨hit, usable⟩ lasting) options

theorem argsOfInfo_repeats (standing : Standing U e) {arguments : ArgumentMap}
    (run : (argsOfInfo U type).outcome e = some (.ok arguments, e')) :
    Lasts e e' ∧ Repeats (argsOfInfo U type) arguments e' := by
  rw [Build.argsOfInfo_eq] at run ⊢
  rcases Universe.struct_or_not U type.withoutPointers with ⟨fields, struct⟩ | noStruct
  · rw [Build.argumentsWith_of_struct _ struct] at run ⊢
    exact arguments_repeat _ fields .empty standing run
  · rw [Build.argumentsWith_of_other _ noStruct] at run
    cases run

/-- A list answer repeats because its item is settled. -/
theorem arrayOf_of_settled {options : List (SchemaOption n)} (known : e.registry.contains type)
    (settled : Settled U e type resolved) :
    Repeats (arrayOf U type options) (.list resolved) e := by
  intro e₂ lasting
  have registered : (Build.register U type).outcome e₂ = some (.ok (), e₂) :=
    register_of_contains (lasting.keeps.registered type known)
  have still := settled.lasts lasting
  refine ⟨_, Build.outcome_arrayOf_of_hit registered still.hit still.unmarked, ?_⟩
  exact .note e₂ _ rfl

/-- A list of what is cached, or is no struct, ends as resolving its item does. -/
theorem arrayOf_of_other {options : List (SchemaOption n)}
    (registered : (Build.register U type).outcome e = some (.ok (), e₁))
    (noStruct : e₁.cache.lookup U type = none → U.isStruct type.withoutPointers = false) :
    ∃ result e₂ e', Course U (.resolve type.withoutPointers) e₁ result e₂ ∧
      (arrayOf U type options).outcome e = some (result.map .list, e') ∧ Unchanged e₂ e' := by
  have plain := type.isPointer_withoutPointers
  cases hit : e₁.cache.lookup U type with
  | some found =>
    have known := (TypeCache.lookup_withoutPointers U e₁.cache type).trans hit
    cases failure : e₁.cache.failure? found with
    | some error =>
      exact ⟨_, _, _, .recorded plain known failure,
        Build.outcome_arrayOf_of_failed registered hit failure, .refl _⟩
    | none =>
      refine ⟨_, _, _, .recalled plain known failure,
        Build.outcome_arrayOf_of_hit registered hit failure, ?_⟩
      exact ⟨rfl, rfl, rfl, rfl, rfl⟩
  | none =>
    have miss := (TypeCache.lookup_withoutPointers U e₁.cache type).trans hit
    have outcome := @Build.outcome_arrayOf_of_miss n U e e₁ type options registered hit
    obtain ⟨result, e₂, run⟩ := buildType_ends U type.withoutPointers e₁
    have item : (itemType U type.withoutPointers options).outcome e₁ = some (result, e₂) := by
      unfold itemType
      rw [if_neg (by simp [noStruct hit])]
      exact run
    rw [item, Option.map_some] at outcome
    cases result with
    | ok built => exact ⟨_, _, _, .resolved plain miss (course_build run), outcome, .refl _⟩
    | error error => exact ⟨_, _, _, .refused plain miss (course_build run), outcome, .refl _⟩

theorem arrayOf_repeats (standing : Standing U e) {options : List (SchemaOption n)}
    (run : (arrayOf U type options).outcome e = some (.ok resolved, e')) :
    Repeats (arrayOf U type options) resolved e' := by
  obtain ⟨registry, registered, grown, known⟩ := Build.outcome_register U type e
  have start := standing.know grown
  cases hit : (e.know registry).cache.lookup U type with
  | some found =>
    cases failed : (e.know registry).cache.failure? found with
    | some error =>
      rw [Build.outcome_arrayOf_of_failed registered hit failed] at run
      cases run
    | none =>
      rw [Build.outcome_arrayOf_of_hit registered hit failed] at run
      cases run
      have settled : Settled U (e.know registry) type found :=
        ⟨hit, start.sound.usable_of_hit hit failed⟩
      have same :=
        Unchanged.note (e.know registry) (.itemCacheHit (U.path type.withoutPointers)) rfl
      exact same.lasts.repeats (arrayOf_of_settled known settled)
  | none =>
    obtain ⟨call, result, e₁, asked, inner, course⟩ :=
      Build.itemType_course type options (e.know registry)
    rw [Build.outcome_arrayOf_of_miss registered hit, inner] at run
    cases result with
    | error error => cases run
    | ok built =>
      cases run
      have yields := course.yields start.free start.sound (Call.ready_of_asked asked)
      refine arrayOf_of_settled (course.keeps.registered type known) ⟨?_, ?_⟩
      · rw [← TypeCache.lookup_withoutPointers]
        exact TypeCache.lookup_register_self U e₁.cache type.withoutPointers built
      · exact fun id named =>
          ⟨(yields.usable built rfl id named).live, (yields.usable built rfl id named).unmarked⟩

end Repeats

/-- The requests whose results are permanent: all but those for a field or a hook. -/
def Request.Lasting : Request n → Prop
  | .fieldOf _ _ | .registerHook _ _ | .insertHook _ _ => False
  | _ => True

theorem Build.outcome_map_ok {α β : Type} {step : Build n α} {f : α → β} {e e' : Encoder n} {b : β}
    (run : (f <$> step).outcome e = some (.ok b, e')) :
    ∃ a, f a = b ∧ step.outcome e = some (.ok a, e') := by
  rw [outcome_map, Option.map_eq_some_iff] at run
  obtain ⟨⟨error | a, e₁⟩, inner, same⟩ := run
  · cases same
  · cases same
    exact ⟨a, rfl, inner⟩

/-- A lasting request that succeeded is repeated with the same answer. -/
theorem Request.repeats {U : Universe n} {e e' : Encoder n} (standing : Standing U e)
    {request : Request n} (lasting : request.Lasting) {answer : Answer}
    (run : (request.run U).outcome e = some (.ok answer, e')) :
    Repeats (request.run U) answer e' := by
  cases request with
  | structOf type options =>
    obtain ⟨id, rfl, inner⟩ := Build.outcome_map_ok run
    obtain ⟨registry, registered, grown, known⟩ := Build.outcome_register U type e
    rw [Encoder.structOf, Build.outcome_bind_ok registered] at inner
    obtain ⟨lasts, repeats⟩ := structOfInfo_repeats (standing.know grown) inner
    exact (repeats.after_register (lasts.keeps.registered type known)).map _
  | structOfInfo type options =>
    obtain ⟨id, rfl, inner⟩ := Build.outcome_map_ok run
    exact (structOfInfo_repeats standing inner).2.map _
  | argsOf type =>
    obtain ⟨arguments, rfl, inner⟩ := Build.outcome_map_ok run
    obtain ⟨registry, registered, grown, known⟩ := Build.outcome_register U type e
    rw [Encoder.argsOf, Build.outcome_bind_ok registered] at inner
    obtain ⟨lasts, repeats⟩ := argsOfInfo_repeats (standing.know grown) inner
    exact (repeats.after_register (lasts.keeps.registered type known)).map _
  | argsOfInfo type =>
    obtain ⟨arguments, rfl, inner⟩ := Build.outcome_map_ok run
    exact (argsOfInfo_repeats standing inner).2.map _
  | arrayOf type options =>
    obtain ⟨resolved, rfl, inner⟩ := Build.outcome_map_ok run
    exact (arrayOf_repeats standing inner).map _
  | resolveType type =>
    obtain ⟨resolved, rfl, inner⟩ := Build.outcome_map_ok run
    obtain ⟨_, _, settled⟩ := settled_of_resolveType standing inner
    exact Repeats.map (fun e₂ later => resolveType_of_settled (settled.lasts later)) _
  | fieldOf | registerHook | insertHook => cases lasting

/-- **Successful results are permanent.**  In every encoder that a session reached, whatever failed
on the way and whatever keys collided, all objects, cache entries and failure marks stay as they are
through every later session.  And a lasting request that succeeds there succeeds with an equal
answer after every later session, and then leaves cache, arena and registry alone. -/
theorem Session.successes_are_permanent (U : Universe n) (policy : KeyPolicy)
    (requests : List (Request n)) (provided : U.HooksNameNoHandle)
    (attached : ∀ request ∈ requests, request.HooksNameNoHandle)
    {answers : List (Except EncodeError Answer)} {e : Encoder n}
    (reached : Session.run U requests (.new U policy) = some (answers, e)) :
    (∀ later : List (Request n), ∃ answers' e', Session.run U later e = some (answers', e') ∧
      (∀ id object, e.arena.get? id = some object → e'.arena.get? id = some object) ∧
      (∀ key found, e.cache.types.get? key = some found → e'.cache.types.get? key = some found) ∧
      ∀ id error, e.cache.failures.get? id = some error →
        e'.cache.failures.get? id = some error) ∧
    ∀ (request : Request n) (answer : Answer) (e₁ : Encoder n), request.Lasting →
      (request.run U).outcome e = some (.ok answer, e₁) →
        ∀ later : List (Request n), ∃ answers' e₂ e₃,
          Session.run U later e₁ = some (answers', e₂) ∧
          (request.run U).outcome e₂ = some (.ok answer, e₃) ∧
          e₃.cache = e₂.cache ∧ e₃.arena = e₂.arena ∧ e₃.registry = e₂.registry := by
  have start : Standing U (.new U policy) :=
    ⟨handleFree_new provided policy, sound_new U policy, resting_new U policy⟩
  have moves := Session.moves (Scope.closed_handleFree U)
    (fun request listed => (attached request listed).within) reached
  have standing := moves.standing start
  constructor
  · intro later
    obtain ⟨answers', e', run, -, lasting⟩ := Session.lasts U later standing.resting
    refine ⟨answers', e', run, ?_, lasting.keeps.entries, lasting.keeps.marks⟩
    intro id object found
    have live := (e.arena.contains_iff id).1 (Arena.contains_of_get? found)
    rw [lasting.keeps.objects id live.2, found]
  · intro request answer e₁ lasting success later
    have repeats := Request.repeats standing lasting success
    have resting := (Request.lasts standing.resting success).1
    obtain ⟨answers', e₂, run, -, lasts⟩ := Session.lasts U later resting
    obtain ⟨e₃, again, same⟩ := repeats e₂ lasts
    exact ⟨answers', e₂, e₃, run, again, same.cache, same.arena, same.registry⟩

/-- After the session of the sample, in which builds fail, a list of nodes is asked for. -/
theorem Sample.successes_are_permanent_beside_failures :
    ∃ answers e e₁, Session.run types requests (.new types .bareName) = some (answers, e) ∧
      ((Request.arrayOf (.declared 0) []).run types).outcome e =
        some (.ok (.type (.list (.object ⟨3⟩))), e₁) ∧
      ∀ later : List (Request 4), ∃ answers' e₂ e₃,
        Session.run types later e₁ = some (answers', e₂) ∧
        ((Request.arrayOf (.declared 0) []).run types).outcome e₂ =
          some (.ok (.type (.list (.object ⟨3⟩))), e₃) ∧
        e₃.cache = e₂.cache ∧ e₃.arena = e₂.arena ∧ e₃.registry = e₂.registry := by
  obtain ⟨answers, e, run, -⟩ := Session.lasts types requests (resting_new types .bareName)
  have listed : ((Session.run types requests (.new types .bareName)).bind fun r =>
      (((Request.arrayOf (.declared 0) []).run types).outcome r.2).map Prod.fst) =
        some (.ok (.type (.list (.object ⟨3⟩)))) := by
    decide +kernel
  rw [run, Option.bind_some, Option.map_eq_some_iff] at listed
  obtain ⟨⟨_, e₁⟩, success, rfl⟩ := listed
  refine ⟨answers, e, e₁, run, success, ?_⟩
  have attached : ∀ request ∈ requests, request.HooksNameNoHandle := by
    simp [requests, Request.HooksNameNoHandle, Request.hook?, SchemaType.handles]
  exact (Session.successes_are_permanent types .bareName requests hooksNameNoHandle_types attached
    run).2 _ _ e₁ trivial success

end RecordSchema
