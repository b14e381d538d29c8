import RecordSchema.Proofs.ParallelBuilds
import RecordSchema.Proofs.Permanence
import RecordSchema.Proofs.Simulation

/-!
# Pointers are transparent

The same requests, up to pointers around the types that they ask for, are answered alike over two
universes that differ in pointer layers: with the same schema types, arguments and errors, and the
encoders have the same objects with the same resolvers and the same marks afterwards
(`Session.pointers_are_transparent`).

Two things tell such universes apart.  A request for the object of a list fails on both sides, but
not with the same error: it depends on whether the very list, with its pointers, was met before.
And what was met is registered, so a hook that is attached only to types that are registered already
may find its type on one side alone.
-/

namespace RecordSchema

variable {n : Nat}

open Encoder

/-! ## The steps of requests -/

section Steps

variable {U V : Universe n} {policy : KeyPolicy} {scope scope' : Scope n} {e f e₁ e' : Encoder n}
  {a b : TypeExpr n}

/-- Both encoders may extend their registries. -/
theorem Encoder.Parallel.know (parallel : Parallel U V policy scope scope' e f)
    {registry registry' : Registry n} (grown : e.registry.Extends U registry)
    (grown' : f.registry.Extends V registry') :
    Parallel U V policy scope scope' (e.know registry) (f.know registry') := by
  have left : Parallel U V policy scope scope' (e.know registry) f :=
    parallel.congr rfl rfl rfl (hooksOf_know grown)
  have right : Parallel V U policy scope' scope (f.know registry') (e.know registry) :=
    left.symm.congr rfl rfl rfl (hooksOf_know grown')
  exact right.symm

theorem Encoder.Parallel.unchanged {f' : Encoder n}
    (parallel : Parallel U V policy scope scope' e f) (same : Unchanged e e')
    (same' : Unchanged f f') : Parallel U V policy scope scope' e' f' := by
  have left : Parallel U V policy scope scope' e' f :=
    parallel.congr same.cache same.arena same.building fun type =>
      hooksOf_of_registry U same.registry type
  exact (left.symm.congr same'.cache same'.arena same'.building fun type =>
    hooksOf_of_registry V same'.registry type).symm

/-- Both encoders may attach a hook to a type that is no list, if both have it registered. -/
theorem Encoder.Parallel.attach (parallel : Parallel U V policy scope scope' e f)
    {type : TypeExpr n} (named : type.isNamed) (known : e.registry.contains type)
    (known' : f.registry.contains type) (hook : Hook) :
    Parallel U V policy scope scope' (e.know (e.registry.attach type hook))
      (f.know (f.registry.attach type hook)) := by
  have other : ∀ list item, TypeExpr.item? list = some item → type ≠ list := by
    rintro list item listed rfl
    rw [TypeExpr.item?_eq_none_of_named named] at listed
    cases listed
  exact
    { uses := parallel.uses
      uses' := parallel.uses'
      failures := parallel.failures
      arena := parallel.arena
      building := parallel.building
      entries := parallel.entries
      hooks := fun met named => by
        rw [hooksOf_attach, hooksOf_attach, known, known', parallel.hooks met named]
      bare := fun list item listed => by
        rw [hooksOf_attach, if_neg fun same => other list item listed same.1,
          parallel.bare list item listed]
      bare' := fun list item listed => by
        rw [hooksOf_attach, if_neg fun same => other list item listed same.1,
          parallel.bare' list item listed]
      listed := parallel.listed.congr rfl rfl fun _ free => provider_of_attach free
      listed' := parallel.listed'.congr rfl rfl fun _ free => provider_of_attach free }

/-- A list is cached as a list, so nobody has an object of it. -/
theorem Encoder.Parallel.refuses (parallel : Parallel U V policy scope scope' e f)
    {type item : TypeExpr n} (listed : type.item? = some item) (inside : scope.type type)
    {options : List (SchemaOption n)} {result : Except EncodeError SchemaType}
    (course : Course U (.object type options) e result e') :
    (∃ error, result = .error error) ∧ Parallel U V policy scope scope' e' f := by
  cases course with
  | objectRecorded | notStruct => exact ⟨⟨_, rfl⟩, parallel⟩
  | notAnObject => exact ⟨⟨_, rfl⟩, parallel.noteLeft _⟩
  | objectRecalled hit sound =>
    obtain ⟨inner, same, -⟩ := parallel.item inside listed hit
    cases same
  | notSupported miss struct =>
    rw [item?_eq_none_of_struct struct] at listed
    cases listed
  | begun miss struct =>
    rw [item?_eq_none_of_struct (Universe.isStruct_of_detail struct)] at listed
    cases listed

namespace Build

variable (variants : PointerVariants U V policy scope scope')

include variants

theorem parallel_resolveType (core : b.core = a.core) (inside : scope.type a)
    (inside' : scope'.type b) :
    Simulates (Parallel U V policy scope scope') Eq (resolveType U a) (resolveType V b) := by
  refine .of_courses Function.injective_id (resolveType_ends U a) (resolveType_ends V b)
    course_resolve course_resolve fun e f result e' parallel course => ?_
  obtain ⟨f', course', after⟩ := course.beside variants (.resolve core) inside inside' parallel
  exact ⟨f', course', parallel.of_courses variants course course' inside inside' after⟩

theorem parallel_structOfInfo {options options' : List (SchemaOption n)}
    (same : b.withoutPointers = a.withoutPointers) (named : a.withoutPointers.isNamed)
    (accepted : List.Forall₂ SchemaOption.SameUpToPointers options options')
    (inside : scope.type a) (inside' : scope'.type b) :
    Simulates (Parallel U V policy scope scope') Eq (structOfInfo U a options)
      (structOfInfo V b options') := by
  refine .of_courses map_object_injective (structOfInfo_ends U a options)
    (structOfInfo_ends V b options') course_object course_object
    fun e f result e' parallel course => ?_
  have inside := variants.closed.withoutPointers inside
  have inside' := variants.closed'.withoutPointers inside'
  rw [same] at inside' ⊢
  obtain ⟨f', course', after⟩ :=
    course.beside variants (.object named accepted) inside inside' parallel
  exact ⟨f', course', parallel.of_courses variants course course' inside inside' after⟩

omit variants in
theorem parallel_register (a b : TypeExpr n) :
    Simulates (Parallel U V policy scope scope') (fun _ _ => True) (register U a)
      (register V b) := by
  intro e f parallel
  obtain ⟨registry, registered, grown, -⟩ := outcome_register U a e
  obtain ⟨registry', registered', grown', -⟩ := outcome_register V b f
  exact ⟨_, _, _, _, registered, registered', parallel.know grown grown', .ok trivial⟩

theorem parallel_structOf {options options' : List (SchemaOption n)}
    (same : b.withoutPointers = a.withoutPointers) (named : a.withoutPointers.isNamed)
    (accepted : List.Forall₂ SchemaOption.SameUpToPointers options options')
    (inside : scope.type a) (inside' : scope'.type b) :
    Simulates (Parallel U V policy scope scope') Eq (structOf U a options)
      (structOf V b options') :=
  (parallel_register a b).bind fun _ _ _ =>
    parallel_structOfInfo variants same named accepted inside inside'

/-- The item of a list is a struct, whose object both sides know or neither. -/
theorem parallel_arrayOf_struct {options options' : List (SchemaOption n)}
    (same : b.withoutPointers = a.withoutPointers) (struct : U.isStruct a.withoutPointers)
    (accepted : List.Forall₂ SchemaOption.SameUpToPointers options options')
    (inside : scope.type a) (inside' : scope'.type b) :
    Simulates (Parallel U V policy scope scope') Eq (arrayOf U a options)
      (arrayOf V b options') := by
  intro e f parallel
  obtain ⟨registry, registered, grown, -⟩ := outcome_register U a e
  obtain ⟨registry', registered', grown', -⟩ := outcome_register V b f
  have between := parallel.know grown grown'
  have named : a.withoutPointers.isNamed := by
    obtain ⟨fields, detail⟩ := U.fields_of_isStruct struct
    obtain ⟨index, declared⟩ := eq_declared_of_struct detail
    rw [declared]
    rfl
  have core : b.core = a.withoutPointers.core := by rw [← same, TypeExpr.core_withoutPointers]
  have known : (f.know registry').cache.lookup V b = (e.know registry).cache.lookup U a := by
    have inside := variants.closed.withoutPointers inside
    rw [between.lookup_of_named variants named core inside inside',
      TypeCache.lookup_withoutPointers]
  cases hit : (e.know registry).cache.lookup U a with
  | some found =>
    rw [hit] at known
    cases failure : (e.know registry).cache.failure? found with
    | some error =>
      exact ⟨_, _, _, _, outcome_arrayOf_of_failed registered hit failure,
        outcome_arrayOf_of_failed registered' known ((between.failure? found).trans failure),
        between, .error error⟩
    | none =>
      exact ⟨_, _, _, _, outcome_arrayOf_of_hit registered hit failure,
        outcome_arrayOf_of_hit registered' known ((between.failure? found).trans failure),
        (between.noteLeft _).noteRight _, .ok rfl⟩
  | none =>
    rw [hit] at known
    have below := TypeExpr.withoutPointers_withoutPointers a
    have inside := variants.closed.withoutPointers inside
    have inside' := variants.closed'.withoutPointers inside'
    have outcome := @outcome_arrayOf_of_miss n U e _ a options registered hit
    have outcome' := @outcome_arrayOf_of_miss n V f _ b options' registered' known
    rw [same] at inside' outcome'
    unfold itemType at outcome outcome'
    rw [if_pos struct] at outcome
    rw [if_pos ((variants.same.isStruct a.withoutPointers).trans struct)] at outcome'
    rw [← TypeCache.lookup_withoutPointers] at hit known
    rw [same] at known
    obtain ⟨result, e₁, _, f₁, run, run', after, agree⟩ := parallel_structOfInfo variants rfl
      (below.symm ▸ named) accepted inside inside' _ _ between
    obtain rfl := agree.eq
    rw [outcome_map, run] at outcome
    rw [outcome_map, run'] at outcome'
    refine ⟨_, _, _, _, outcome, outcome', ?_, .of_eq rfl⟩
    cases result with
    | error error => exact after
    | ok id =>
      have course := course_object run
      have course' := course_object run'
      rw [below] at course course'
      have plain := a.isPointer_withoutPointers
      exact
        { toInStep := after.toInStep.storeNamed variants _
          listed := (Move.enter rfl plain inside hit course).listed variants.closed
            (variants.apart.listsAlike _) between.uses between.listed
          listed' := (Move.enter rfl plain inside' known course').listed variants.closed'
            (variants.apart'.listsAlike _) between.uses' between.listed' }

/-- A list of anything is answered alike. -/
theorem parallel_arrayOf {options options' : List (SchemaOption n)}
    (same : b.withoutPointers = a.withoutPointers)
    (accepted : List.Forall₂ SchemaOption.SameUpToPointers options options')
    (inside : scope.type a) (inside' : scope'.type b) :
    Simulates (Parallel U V policy scope scope') Eq (arrayOf U a options)
      (arrayOf V b options') := by
  cases struct : U.isStruct a.withoutPointers with
  | true => exact parallel_arrayOf_struct variants same struct accepted inside inside'
  | false =>
    intro e f parallel
    obtain ⟨registry, registered, grown, -⟩ := outcome_register U a e
    obtain ⟨registry', registered', grown', -⟩ := outcome_register V b f
    have between := parallel.know grown grown'
    have inside := variants.closed.withoutPointers inside
    have inside' := variants.closed'.withoutPointers inside'
    have struct' : V.isStruct b.withoutPointers = false := by
      rw [same, variants.same.isStruct, struct]
    obtain ⟨result, e₁, e', course, outcome, still⟩ := arrayOf_of_other registered fun _ => struct
    obtain ⟨result', f₁, f', course', outcome', still'⟩ :=
      arrayOf_of_other registered' fun _ => struct'
    obtain ⟨f₂, course₂, after⟩ :=
      course.beside variants (.resolve (by rw [same])) inside inside' between
    obtain ⟨rfl, rfl⟩ := course₂.deterministic course'
    have ended := between.of_courses variants course course' inside inside' after
    exact ⟨_, e', _, f', outcome, outcome', ended.unchanged still still', .of_eq rfl⟩

/-- A field adds the same argument on both sides. -/
theorem parallel_addArgument (path : String) (arguments : ArgumentMap)
    {field field' : RecordField n} (same : field.SameUpToPointers field')
    (within : ∀ text type, field.content = .tagged text type → scope.type type)
    (within' : ∀ text type, field'.content = .tagged text type → scope'.type type) :
    Simulates (Parallel U V policy scope scope') Eq
      (addArgument U (resolveType U) path arguments field)
      (addArgument V (resolveType V) path arguments field') := by
  cases content : field.content with
  | hidden | untagged =>
    have untagged : field.tag? = none := by simp [RecordField.tag?, content]
    rw [addArgument_of_untagged untagged, addArgument_of_untagged (same.untagged untagged)]
    exact .pure rfl
  | tagged text type =>
    obtain ⟨type', content', core⟩ := same.tagged content
    intro e f parallel
    obtain ⟨result, e₁, _, f₁, run, run', between, agree⟩ := parallel_resolveType variants core
      (within text type content) (within' text type' content') e f parallel
    obtain rfl := agree.eq
    cases result with
    | ok resolved =>
      obtain ⟨e', added, still⟩ := addArgument_of_ok content path arguments run
      obtain ⟨f', added', still'⟩ := addArgument_of_ok content' path arguments run'
      exact ⟨_, e', _, f', added, added', between.unchanged still still', .ok rfl⟩
    | error error =>
      have added := addArgument_of_error content path arguments run
      have added' := addArgument_of_error content' path arguments run'
      rw [same.name] at added'
      exact ⟨_, e₁, _, f₁, added, added', between, .error _⟩

theorem parallel_argsOfInfo (same : b.withoutPointers = a.withoutPointers) (inside : scope.type a)
    (inside' : scope'.type b) :
    Simulates (Parallel U V policy scope scope') Eq (argsOfInfo U a) (argsOfInfo V b) := by
  have inside := variants.closed.withoutPointers inside
  have inside' := variants.closed'.withoutPointers inside'
  rw [argsOfInfo_eq, argsOfInfo_eq]
  rw [same] at inside' ⊢
  rcases Universe.struct_or_not U a.withoutPointers with ⟨fields, struct⟩ | noStruct
  · obtain ⟨fields', struct', sameFields⟩ := variants.same.struct struct
    rw [argumentsWith_of_struct _ struct, argumentsWith_of_struct _ struct', variants.same.path]
    have listed := forall₂_within sameFields
      (fun field listed text content tagged =>
        variants.closed.field _ fields field text content struct listed tagged inside)
      (fun field listed text content tagged =>
        variants.closed'.field _ fields' field text content struct' listed tagged inside')
    refine @Simulates.foldlM n _ _ _ _ _ fields fields' _ (fun _ => Eq) _ _ ?_ listed [] _ _ rfl
    rintro before field field' arguments _ ⟨within, within', sameField⟩ rfl
    exact parallel_addArgument variants _ arguments sameField within within'
  · have noStruct' := (variants.same.isStruct a.withoutPointers).trans noStruct
    rw [argumentsWith_of_other _ noStruct, argumentsWith_of_other _ noStruct', variants.same.path]
    exact .throw _

theorem parallel_argsOf (same : b.withoutPointers = a.withoutPointers) (inside : scope.type a)
    (inside' : scope'.type b) :
    Simulates (Parallel U V policy scope scope') Eq (argsOf U a) (argsOf V b) :=
  (parallel_register a b).bind fun _ _ _ => parallel_argsOfInfo variants same inside inside'

omit variants in
theorem parallel_object (id : ObjectId) :
    Simulates (Parallel U V policy scope scope') Eq (object id) (object id) := by
  intro e f parallel
  exact ⟨_, e, _, f, outcome_object id e, outcome_object id f, parallel,
    .of_eq (by rw [parallel.arena])⟩

theorem parallel_applyToField {option option' : SchemaOption n} (field : Field)
    (accepted : option.SameUpToPointers option')
    (within : ∀ source, option = .arguments source → scope.type source)
    (within' : ∀ source, option' = .arguments source → scope'.type source) :
    Simulates (Parallel U V policy scope scope') Eq (applyToField U option field)
      (applyToField V option' field) := by
  have given : ∀ {source source'}, source'.withoutPointers = source.withoutPointers →
      scope.type source → scope'.type source' →
      Simulates (Parallel U V policy scope scope') Eq
        (applyToField U (.arguments source) field) (applyToField V (.arguments source') field) :=
    fun same inside inside' =>
      (parallel_argsOfInfo variants same inside inside').map fun _ _ same => by rw [same]
  cases accepted with
  | arguments same => exact given same (within _ rfl) (within' _ rfl)
  | same option =>
    cases option with
    | arguments source => exact given rfl (within source rfl) (within' source rfl)
    | defaultValue => exact .throw _
    | description | deprecationReason | resolver | type => exact .pure rfl

theorem parallel_fieldOf {options options' : List (SchemaOption n)}
    (same : b.withoutPointers = a.withoutPointers) (named : a.withoutPointers.isNamed)
    (accepted : List.Forall₂ SchemaOption.SameUpToPointers options options')
    (inside : scope.type a) (inside' : scope'.type b)
    (within : ∀ source ∈ sources options, scope.type source)
    (within' : ∀ source ∈ sources options', scope'.type source) :
    Simulates (Parallel U V policy scope scope') Eq (fieldOf U a options)
      (fieldOf V b options') := by
  unfold fieldOf
  refine (parallel_structOf variants same named .nil inside inside').bind fun id _ same => ?_
  subst same
  refine (parallel_object id).bind fun target _ same => ?_
  subst same
  have named : ∀ option ∈ options, ∀ source, option = .arguments source → scope.type source :=
    fun option listed source same => within source (mem_sources.2 (same ▸ listed))
  have named' : ∀ option ∈ options', ∀ source, option = .arguments source → scope'.type source :=
    fun option listed source same => within' source (mem_sources.2 (same ▸ listed))
  have listed := forall₂_within accepted named named'
  refine @Simulates.foldlM n _ _ _ _ _ options options' _ (fun _ => Eq) _ _ ?_ listed [] _ _ rfl
  rintro before option option' field _ ⟨within, within', accepted⟩ rfl
  exact parallel_applyToField variants field accepted within within'

omit variants in
theorem parallel_registerHook {type : TypeExpr n} (named : type.isNamed) (hook : Hook) :
    Simulates (Parallel U V policy scope scope') Eq
      (do register U type; Answer.attached <$> attach type hook)
      (do register V type; Answer.attached <$> attach type hook) := by
  intro e f parallel
  obtain ⟨registry, registered, grown, known⟩ := outcome_register U type e
  obtain ⟨registry', registered', grown', known'⟩ := outcome_register V type f
  refine ⟨_, _, _, _, outcome_bind_ok registered _, outcome_bind_ok registered' _,
    (parallel.know grown grown').attach named known known' hook, ?_⟩
  change Agree Eq (.ok (Answer.attached (registry.contains type)))
    (.ok (.attached (registry'.contains type)))
  rw [known, known']
  exact .ok rfl

/-- No side has the object of a list. -/
theorem refuses_list {item : TypeExpr n} (listed : a.withoutPointers.item? = some item)
    (same : b.withoutPointers = a.withoutPointers) (options options' : List (SchemaOption n))
    (inside : scope.type a) (inside' : scope'.type b)
    (parallel : Parallel U V policy scope scope' e f) :
    ∃ error e' error' f', (structOfInfo U a options).outcome e = some (.error error, e') ∧
      (structOfInfo V b options').outcome f = some (.error error', f') ∧
      Parallel U V policy scope scope' e' f' := by
  obtain ⟨result, e', run⟩ := structOfInfo_ends U a options e
  obtain ⟨result', f', run'⟩ := structOfInfo_ends V b options' f
  have inside := variants.closed.withoutPointers inside
  have inside' := variants.closed'.withoutPointers inside'
  obtain ⟨⟨error, failed⟩, left⟩ := parallel.refuses listed inside (course_object run)
  obtain ⟨⟨error', failed'⟩, right⟩ :=
    left.symm.refuses (same ▸ listed) inside' (course_object run')
  cases result <;> cases failed
  cases result' <;> cases failed'
  exact ⟨_, e', _, f', run, run', right.symm⟩

theorem structOf_refuses_list {item : TypeExpr n} (listed : a.withoutPointers.item? = some item)
    (same : b.withoutPointers = a.withoutPointers) (options options' : List (SchemaOption n))
    (inside : scope.type a) (inside' : scope'.type b)
    (parallel : Parallel U V policy scope scope' e f) :
    ∃ error e' error' f', (structOf U a options).outcome e = some (.error error, e') ∧
      (structOf V b options').outcome f = some (.error error', f') ∧
      Parallel U V policy scope scope' e' f' := by
  obtain ⟨registry, registered, grown, -⟩ := outcome_register U a e
  obtain ⟨registry', registered', grown', -⟩ := outcome_register V b f
  obtain ⟨error, e', error', f', run, run', after⟩ := refuses_list variants listed same options
    options' inside inside' (parallel.know grown grown')
  exact ⟨error, e', error', f', (outcome_bind_ok registered _).trans run,
    (outcome_bind_ok registered' _).trans run', after⟩

end Build

end Steps

/-! ## Requests and sessions -/

/-- Two requests that are the same up to the pointers around the types that they ask for.  Hooks are
attached to types that are neither pointers nor lists, which are registered on the way. -/
inductive Request.SameUpToPointers : Request n → Request n → Prop
  | structOf {a b options options'} (same : b.withoutPointers = a.withoutPointers)
      (accepted : List.Forall₂ SchemaOption.SameUpToPointers options options') :
      SameUpToPointers (.structOf a options) (.structOf b options')
  | structOfInfo {a b options options'} (same : b.withoutPointers = a.withoutPointers)
      (accepted : List.Forall₂ SchemaOption.SameUpToPointers options options') :
      SameUpToPointers (.structOfInfo a options) (.structOfInfo b options')
  | argsOf {a b} (same : b.withoutPointers = a.withoutPointers) :
      SameUpToPointers (.argsOf a) (.argsOf b)
  | argsOfInfo {a b} (same : b.withoutPointers = a.withoutPointers) :
      SameUpToPointers (.argsOfInfo a) (.argsOfInfo b)
  | arrayOf {a b options options'} (same : b.withoutPointers = a.withoutPointers)
      (accepted : List.Forall₂ SchemaOption.SameUpToPointers options options') :
      SameUpToPointers (.arrayOf a options) (.arrayOf b options')
  | fieldOf {a b options options'} (same : b.withoutPointers = a.withoutPointers)
      (accepted : List.Forall₂ SchemaOption.SameUpToPointers options options') :
      SameUpToPointers (.fieldOf a options) (.fieldOf b options')
  | resolveType {a b} (same : b.withoutPointers = a.withoutPointers) :
      SameUpToPointers (.resolveType a) (.resolveType b)
  | registerHook {type} (named : type.isNamed) (hook) :
      SameUpToPointers (.registerHook type hook) (.registerHook type hook)

/-- Two answers to a request are equal, or the request is for the object of a list and fails twice.
-/
def Request.AnsweredAlike (request : Request n) (answer answer' : Except EncodeError Answer) :
    Prop :=
  answer' = answer ∨ ∃ type item error error', request.objectOf? = some type ∧
    type.withoutPointers.item? = some item ∧ answer = .error error ∧ answer' = .error error'

section Requests

variable {U V : Universe n} {policy : KeyPolicy} {scope scope' : Scope n} {e f : Encoder n}

theorem Request.answered (variants : PointerVariants U V policy scope scope')
    {request request' : Request n} (same : request.SameUpToPointers request')
    (within : request.Within scope) (within' : request'.Within scope')
    (parallel : Parallel U V policy scope scope' e f) :
    ∃ answer e' answer' f', (request.run U).outcome e = some (answer, e') ∧
      (request'.run V).outcome f = some (answer', f') ∧
      Parallel U V policy scope scope' e' f' ∧ request.AnsweredAlike answer answer' := by
  have agreed : ∀ {step step' : Build n Answer},
      Build.Simulates (Parallel U V policy scope scope') Eq step step' →
      ∃ answer e' answer' f', step.outcome e = some (answer, e') ∧
        step'.outcome f = some (answer', f') ∧ Parallel U V policy scope scope' e' f' ∧
          request.AnsweredAlike answer answer' := fun simulates => by
    obtain ⟨answer, e', answer', f', run, run', after, agree⟩ := simulates e f parallel
    exact ⟨answer, e', answer', f', run, run', after, .inl agree.eq.symm⟩
  have inside : ∀ type ∈ request.types, scope.type type := within.types
  have inside' : ∀ type ∈ request'.types, scope'.type type := within'.types
  cases same with
  | @structOf a b options options' same accepted =>
    have inside := inside a List.mem_cons_self
    have inside' := inside' b List.mem_cons_self
    rcases TypeExpr.named_or_listed a.isPointer_withoutPointers with named | ⟨item, listed⟩
    · exact agreed ((Build.parallel_structOf variants same named accepted inside inside').map
        fun _ _ same => by rw [same])
    · obtain ⟨error, e', error', f', run, run', after⟩ :=
        Build.structOf_refuses_list variants listed same options options' inside inside' parallel
      exact ⟨_, e', _, f', Build.outcome_bind_error run _, Build.outcome_bind_error run' _, after,
        .inr ⟨a, item, error, error', rfl, listed, rfl, rfl⟩⟩
  | @structOfInfo a b options options' same accepted =>
    have inside := inside a List.mem_cons_self
    have inside' := inside' b List.mem_cons_self
    rcases TypeExpr.named_or_listed a.isPointer_withoutPointers with named | ⟨item, listed⟩
    · exact agreed ((Build.parallel_structOfInfo variants same named accepted inside inside').map
        fun _ _ same => by rw [same])
    · obtain ⟨error, e', error', f', run, run', after⟩ :=
        Build.refuses_list variants listed same options options' inside inside' parallel
      exact ⟨_, e', _, f', Build.outcome_bind_error run _, Build.outcome_bind_error run' _, after,
        .inr ⟨a, item, error, error', rfl, listed, rfl, rfl⟩⟩
  | @argsOf a b same =>
    exact agreed ((Build.parallel_argsOf variants same (inside a List.mem_cons_self)
      (inside' b List.mem_cons_self)).map fun _ _ same => by rw [same])
  | @argsOfInfo a b same =>
    exact agreed ((Build.parallel_argsOfInfo variants same (inside a List.mem_cons_self)
      (inside' b List.mem_cons_self)).map fun _ _ same => by rw [same])
  | @arrayOf a b options options' same accepted =>
    exact agreed ((Build.parallel_arrayOf variants same accepted (inside a List.mem_cons_self)
      (inside' b List.mem_cons_self)).map fun _ _ same => by rw [same])
  | @fieldOf a b options options' same accepted =>
    have own := inside a List.mem_cons_self
    have own' := inside' b List.mem_cons_self
    rcases TypeExpr.named_or_listed a.isPointer_withoutPointers with named | ⟨item, listed⟩
    · exact agreed ((Build.parallel_fieldOf variants same named accepted own own'
        (fun source listed => inside source (List.mem_cons_of_mem _ listed))
        (fun source listed => inside' source (List.mem_cons_of_mem _ listed))).map
        fun _ _ same => by rw [same])
    · obtain ⟨error, e', error', f', run, run', after⟩ :=
        Build.structOf_refuses_list variants listed same [] [] own own' parallel
      exact ⟨_, e', _, f', Build.outcome_bind_error (Build.outcome_bind_error run _) _,
        Build.outcome_bind_error (Build.outcome_bind_error run' _) _, after,
        .inr ⟨a, item, error, error', rfl, listed, rfl, rfl⟩⟩
  | @resolveType a b same =>
    have core : b.core = a.core := by
      rw [← TypeExpr.core_withoutPointers b, same, TypeExpr.core_withoutPointers]
    exact agreed ((Build.parallel_resolveType variants core (inside a List.mem_cons_self)
      (inside' b List.mem_cons_self)).map fun _ _ same => by rw [same])
  | @registerHook type named hook => exact agreed (Build.parallel_registerHook named hook)

theorem Encoder.parallel_new (variants : PointerVariants U V policy scope scope') :
    Parallel U V policy scope scope' (.new U policy) (.new V policy) where
  uses := rfl
  uses' := rfl
  failures := rfl
  arena := rfl
  building := rfl
  entries _ _ _ _ := rfl
  hooks type _ := by rw [hooksOf_new, hooksOf_new, variants.same.hooks]
  bare type item listed := by
    rw [hooksOf_new]
    cases type with
    | list | array => rfl
    | native | declared | pointer | map => cases listed
  bare' type item listed := by
    rw [hooksOf_new]
    cases type with
    | list | array => rfl
    | native | declared | pointer | map => cases listed
  listed := listed_new U scope policy
  listed' := listed_new V scope' policy

end Requests

/-- **Pointers are transparent at every depth.**  Two universes differ in pointer layers around
fields and items only, and the types of each have different keys.  Sessions over them, whose
requests are the same up to pointers around the types that they ask for, give equal answers and
leave equal marks and equal arenas, with the same resolvers.  The one exception is the object of a
list: it is refused on both sides, and the two errors may differ. -/
theorem Session.pointers_are_transparent {U V : Universe n} {policy : KeyPolicy}
    {scope scope' : Scope n} (variants : PointerVariants U V policy scope scope')
    (requests requests' : List (Request n))
    (same : List.Forall₂ Request.SameUpToPointers requests requests')
    (within : ∀ request ∈ requests, request.Within scope)
    (within' : ∀ request ∈ requests', request.Within scope') :
    ∃ answers e answers' f, Session.run U requests (.new U policy) = some (answers, e) ∧
      Session.run V requests' (.new V policy) = some (answers', f) ∧
      Session.Corresponds (fun request _ => request.AnsweredAlike) requests requests' answers
        answers' ∧
      f.cache.failures = e.cache.failures ∧ f.arena = e.arena := by
  have each : ∀ (request request' : Request n) e f,
      (request.Within scope ∧ request'.Within scope' ∧ request.SameUpToPointers request') →
      Parallel U V policy scope scope' e f →
      ∃ answer e' answer' f', (request.run U).outcome e = some (answer, e') ∧
        (request'.run V).outcome f = some (answer', f') ∧
          Parallel U V policy scope scope' e' f' ∧ request.AnsweredAlike answer answer' := by
    rintro request request' e f ⟨within, within', same⟩ parallel
    exact Request.answered variants same within within' parallel
  obtain ⟨answers, e, answers', f, run, run', parallel, corresponds⟩ :=
    Session.simulates each (forall₂_within same within within') (parallel_new variants)
  exact ⟨answers, e, answers', f, run, run', corresponds, parallel.failures, parallel.arena⟩

/-! ## A row of boxed pieces -/

namespace Sample

def piece : TypeExpr 2 := .declared 0

def row : TypeExpr 2 := .declared 1

/-- Pieces know other pieces, and a row has parts of some type. -/
def rowOf (parts : TypeExpr 2) : Universe 2 where
  declaration
    | 0 => ⟨"app::Piece", "Piece", .struct [⟨"size", .tagged "size" (.primitive .u32)⟩,
        ⟨"peers", .tagged "peers" (.list .vec piece)⟩], .empty⟩
    | 1 => ⟨"app::Row", "Row", .struct [⟨"parts", .tagged "!parts" parts⟩], .empty⟩

def rows : Universe 2 := rowOf (.list .vec piece)

/-- A list of boxed pieces. -/
def boxedPieces : TypeExpr 2 := .list .vec (.pointer .box piece)

def boxedRows : Universe 2 := rowOf (.pointer .option boxedPieces)

/-- The types that rows and boxed rows lead to. -/
def rowTypes : List (TypeExpr 2) :=
  [.primitive .u32, piece, .pointer .box piece, .list .vec piece, boxedPieces,
   .pointer .option boxedPieces, .pointer .reference boxedPieces, row, .pointer .rc row]

def rowScope : Scope 2 where
  hook _ := True
  type type := type ∈ rowTypes

def rowRequests : List (Request 2) :=
  [.structOf row [], .arrayOf piece [], .resolveType boxedPieces]

def boxedRequests : List (Request 2) :=
  [.structOf (.pointer .rc row) [], .arrayOf (.pointer .box piece) [],
   .resolveType (.pointer .reference boxedPieces)]

theorem sameUpToPointers_rows : rows.SameUpToPointers boxedRows := by
  intro index
  match index with
  | 0 => exact ⟨rfl, rfl, rfl, .struct
      (.cons ⟨rfl, .tagged rfl⟩ (.cons ⟨rfl, .tagged rfl⟩ .nil))⟩
  | 1 => exact ⟨rfl, rfl, rfl, .struct (.cons ⟨rfl, .tagged rfl⟩ .nil)⟩

theorem pointerVariants_rows : PointerVariants rows boxedRows .qualified rowScope rowScope where
  same := sameUpToPointers_rows
  closed := Scope.closed_of_dependencies <| by
    have closed : ∀ type ∈ rowTypes, ∀ next ∈ rows.dependencies type, next ∈ rowTypes := by decide
    exact closed
  closed' := Scope.closed_of_dependencies <| by
    have closed : ∀ type ∈ rowTypes, ∀ next ∈ boxedRows.dependencies type, next ∈ rowTypes := by
      decide
    exact closed
  apart := by
    have apart : ∀ a ∈ rowTypes, ∀ b ∈ rowTypes,
        KeyPolicy.text .qualified rows a.withoutPointers =
          KeyPolicy.text .qualified rows b.withoutPointers →
            a.withoutPointers = b.withoutPointers := by
      decide +kernel
    exact fun a b insideA insideB => apart a insideA b insideB
  apart' := by
    have apart : ∀ a ∈ rowTypes, ∀ b ∈ rowTypes,
        KeyPolicy.text .qualified boxedRows a.withoutPointers =
          KeyPolicy.text .qualified boxedRows b.withoutPointers →
            a.withoutPointers = b.withoutPointers := by
      decide +kernel
    exact fun a b insideA insideB => apart a insideA b insideB

end Sample

/-- A row, a list of pieces and the type of a list of boxed pieces are the same in both universes,
whatever pointers are around the types that are asked for. -/
theorem Sample.rows_are_transparent :
    ∃ answers e answers' f, Session.run rows rowRequests (.new rows .qualified) =
        some (answers, e) ∧
      Session.run boxedRows boxedRequests (.new boxedRows .qualified) = some (answers', f) ∧
      Session.Corresponds (fun request _ => request.AnsweredAlike) rowRequests boxedRequests answers
        answers' ∧
      f.cache.failures = e.cache.failures ∧ f.arena = e.arena := by
  have inside : ∀ request ∈ rowRequests, ∀ type ∈ request.types, type ∈ rowTypes := by decide
  have inside' : ∀ request ∈ boxedRequests, ∀ type ∈ request.types, type ∈ rowTypes := by decide
  have same : List.Forall₂ Request.SameUpToPointers rowRequests boxedRequests :=
    .cons (.structOf rfl .nil) (.cons (.arrayOf rfl .nil) (.cons (.resolveType rfl) .nil))
  exact Session.pointers_are_transparent pointerVariants_rows rowRequests boxedRequests same
    (fun request listed => ⟨fun _ _ => trivial, inside request listed⟩)
    (fun request listed => ⟨fun _ _ => trivial, inside' request listed⟩)

/-- Two requests tell boxed rows from rows.  A piece is registered with a row only if the list of
pieces, through which it is found, was not met before, so a hook does not always find it.  And a
list of boxed pieces has no object, but it depends on whether the list was met if that is because it
is cached or because it is no struct. -/
theorem Sample.rows_are_told_apart :
    PointerVariants rows boxedRows .qualified rowScope rowScope ∧
    (Session.run rows [.structOfInfo piece [], .structOf row [],
      .insertHook piece (.custom "Label" (.text "Piece")), .structOf boxedPieces []]
      (.new rows .qualified)).map Prod.fst =
        some [.ok (.object ⟨1⟩), .ok (.object ⟨2⟩), .ok (.attached false),
          .error (.notStruct "alloc::vec::Vec<alloc::boxed::Box<app::Piece>>")] ∧
    (Session.run boxedRows [.structOfInfo piece [], .structOf row [],
      .insertHook piece (.custom "Label" (.text "Piece")), .structOf boxedPieces []]
      (.new boxedRows .qualified)).map Prod.fst =
        some [.ok (.object ⟨1⟩), .ok (.object ⟨2⟩), .ok (.attached true),
          .error (.notAnObject "alloc::vec::Vec<alloc::boxed::Box<app::Piece>>")] := by
  refine ⟨pointerVariants_rows, ?_, ?_⟩ <;> decide +kernel

end RecordSchema
