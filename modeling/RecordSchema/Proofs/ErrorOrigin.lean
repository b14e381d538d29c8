import RecordSchema.Proofs.ErrorContext
import RecordSchema.Proofs.Permanence

/-!
# Where the errors of a session come from

`ErrorContext` explains the errors of a build.  A request adds little: it may ask for an object of
the wrong type, and options may be refused.  `Build.Justifies` carries this through the steps of a
request.  Up to the first error nothing is marked, and the error that ends the request is the one
that the new marks hold, so every recorded error was once returned (`Session.marks_arose`).
`Session.errors_carry_one_layer` puts it together.
-/

namespace RecordSchema

variable {n : Nat}

open Encoder

/-! ## Errors of a request -/

/-- The errors of earlier builds and of fields, for a request that starts on an encoder. -/
def Known (U : Universe n) (start : Encoder n) (error : EncodeError) : Prop :=
  start.Records error ∨ Explained U (start.hooksOf U) error

/-- An encoder that a request has come to without an error. -/
structure During (U : Universe n) (start e : Encoder n) : Prop where
  resting : Resting e
  hooked : ∀ type, e.hooksOf U type = start.hooksOf U type
  marks : ∀ error, e.Records error → start.Records error

/-- The end of a step of a request.  An error is one that the step may fail with, and if it marks
objects, then it is known. -/
inductive Justified {α : Type} (U : Universe n) (start : Encoder n) (may : EncodeError → Prop) :
    Except EncodeError α → Encoder n → Prop
  | ok {a e} (during : During U start e) : Justified U start may (.ok a) e
  | error {error e} (allowed : may error)
      (marks : ∀ other, e.Records other →
        start.Records other ∨ other = error ∧ Known U start error) :
      Justified U start may (.error error) e

/-- However a step ends on an encoder, its end is justified. -/
def Build.Justifies {α : Type} (U : Universe n) (start : Encoder n) (may : EncodeError → Prop)
    (step : Build n α) (e : Encoder n) : Prop :=
  ∀ result e', step.outcome e = some (result, e') → Justified U start may result e'

/-- The error says that a type below pointers is no struct. -/
def NoStruct (U : Universe n) (type : TypeExpr n) (error : EncodeError) : Prop :=
  U.isStruct type.withoutPointers = false ∧ error = .notStruct (U.path type.withoutPointers)

section Steps

variable {U : Universe n} {start e e' : Encoder n} {may may' : EncodeError → Prop} {α β : Type}

theorem During.refl (resting : Resting start) : During U start start :=
  ⟨resting, fun _ => rfl, fun _ recorded => recorded⟩

theorem During.know (during : During U start e) {registry : Registry n}
    (grown : e.registry.Extends U registry) : During U start (e.know registry) where
  resting := during.resting.know registry
  hooked type := (hooksOf_know grown type).trans (during.hooked type)
  marks := during.marks

theorem During.unchanged (during : During U start e) (same : Unchanged e e') :
    During U start e' where
  resting := same.resting during.resting
  hooked type := (hooksOf_of_registry U same.registry type).trans (during.hooked type)
  marks error recorded := during.marks error ((records_congr (by rw [same.cache])).1 recorded)

namespace Build

theorem justifies_pure (during : During U start e) (a : α) :
    Justifies U start may (pure a : Build n α) e := by
  intro result e' run
  cases run
  exact .ok during

theorem justifies_throw (during : During U start e) {error : EncodeError} (allowed : may error) :
    Justifies U start may (throw error : Build n α) e := by
  intro result e' run
  cases run
  exact .error allowed fun other recorded => .inl (during.marks other recorded)

theorem Justifies.mono {step : Build n α} (justifies : Justifies U start may step e)
    (imp : ∀ error, may error → may' error) : Justifies U start may' step e := by
  intro result e' run
  cases justifies result e' run with
  | ok during => exact .ok during
  | error allowed marks => exact .error (imp _ allowed) marks

theorem Justifies.bind {step : Build n α} {next : α → Build n β}
    (first : Justifies U start may step e)
    (second : ∀ a e₁, step.outcome e = some (.ok a, e₁) → During U start e₁ →
      Justifies U start may (next a) e₁) :
    Justifies U start may (step >>= next) e := by
  intro result e' run
  rw [outcome_bind, Option.bind_eq_some_iff] at run
  obtain ⟨⟨error | a, e₁⟩, ran, rest⟩ := run
  · cases rest
    cases first _ _ ran with
    | error allowed marks => exact .error allowed marks
  · cases first _ _ ran with
    | ok during => exact second a e₁ ran during _ _ rest

theorem Justifies.map {step : Build n α} (justifies : Justifies U start may step e) (f : α → β) :
    Justifies U start may (f <$> step) e :=
  justifies.bind fun a _ _ during => justifies_pure during (f a)

theorem justifies_foldlM {step : β → α → Build n β} (items : List α)
    (each : ∀ b a e, a ∈ items → During U start e → Justifies U start may (step b a) e)
    (first : β) (during : During U start e) :
    Justifies U start may (items.foldlM step first) e := by
  induction items generalizing first e with
  | nil => exact justifies_pure during first
  | cons a rest ih =>
    rw [List.foldlM_cons]
    refine (each first a e List.mem_cons_self during).bind fun b e₁ _ during => ?_
    exact ih (fun b a e listed => each b a e (List.mem_cons_of_mem _ listed)) b during

end Build

theorem justifies_register (during : During U start e) (type : TypeExpr n) :
    Build.Justifies U start may (Build.register U type) e := by
  obtain ⟨registry, registered, grown, -⟩ := Build.outcome_register U type e
  intro result e' run
  rw [registered] at run
  cases run
  exact .ok (during.know grown)

/-- The object that was asked for is there. -/
theorem live_of_structOf (free : HandleFree U start) (sound : Sound U start)
    (resting : Resting start) {type : TypeExpr n} {options : List (SchemaOption n)} {id : ObjectId}
    (run : (structOf U type options).outcome start = some (.ok id, e')) : e'.arena.contains id := by
  have serves : Build.Serves U (Scope.handleFree n) [] (fun id => [id])
      (structOf U type options) :=
    Build.serves_structOf (Scope.closed_handleFree U) trivial options
  obtain ⟨result, e₁, ran, -, returned⟩ := serves start
  rw [run] at ran
  cases ran
  rcases returned id rfl id List.mem_cons_self with given | returned
  · cases given
  · exact (returned.usable free sound resting).live

variable (layers : ∀ error, start.Records error → error.Layered)

include layers

theorem Known.layered {error : EncodeError} (known : Known U start error) : error.Layered :=
  known.elim (layers error) Explained.layered

/-- A call while nothing is in progress marks objects with its own error only. -/
theorem Course.justified {call : Call n} {type : TypeExpr n}
    {result : Except EncodeError SchemaType} (course : Course U call e result e')
    (asked : call.type? = some type) (entered : call.Entered U e) (during : During U start e) :
    Justified U start (call.MayFail U (start.hooksOf U) (Known U start) e) result e' := by
  obtain ⟨marks, fails⟩ := course.explains (fun _ => .inr) (fun _ => Known.layered layers) entered
    during.hooked fun error recorded => .inl (during.marks error recorded)
  have books := course.accounts during.resting.toTidy (Call.busy_of_asked asked)
  have new : ∀ other, e'.Records other → e.Records other ∨ reason? result = some other := by
    rintro other ⟨id, mark⟩
    by_cases new : New e e' id
    · exact .inr (((books.outside during.resting.idle).2 id new).symm.trans mark)
    · exact .inl ⟨id, (books.old id new).symm.trans mark⟩
  cases result with
  | ok resolved =>
    refine .ok ⟨(course.lasts asked during.resting).1, fun type => ?_, fun error recorded => ?_⟩
    · exact (course.hooksOf type).trans (during.hooked type)
    · exact during.marks error ((new error recorded).resolve_right (by simp [reason?]))
  | error error =>
    refine .error (fails error rfl) fun other recorded => ?_
    rcases new other recorded with old | own
    · exact .inl (during.marks other old)
    · cases own
      exact .inr ⟨rfl, marks error recorded⟩

theorem justifies_resolveType (during : During U start e) (type : TypeExpr n) :
    Build.Justifies U start
      (fun error => Known U start error ∨
        ∃ inner, Culprit U (start.hooksOf U) type inner ∧ error = .typeNotRecognized (U.path inner))
      (resolveType U type) e :=
  fun _ _ run => (course_resolve run).justified layers rfl trivial during

/-- A field of a struct adds an argument, or fails with a known error. -/
theorem justifies_addArgument (during : During U start e) {struct : TypeExpr n}
    {fields : List (RecordField n)} (isStruct : U.detail struct = .struct fields)
    {field : RecordField n} (listed : field ∈ fields) (arguments : ArgumentMap) :
    Build.Justifies U start (Known U start)
      (Build.addArgument U (resolveType U) (U.path struct) arguments field) e := by
  cases content : field.content with
  | hidden | untagged =>
    rw [addArgument_of_untagged (by simp [RecordField.tag?, content])]
    exact Build.justifies_pure during arguments
  | tagged text type =>
    obtain ⟨resolved, e₁, ran⟩ := resolveType_ends U type e
    intro result e' run
    cases justifies_resolveType layers during type _ _ ran with
    | ok during =>
      obtain ⟨e₂, added, same⟩ := addArgument_of_ok content (U.path struct) arguments ran
      rw [added] at run
      cases run
      exact .ok (during.unchanged same)
    | @error error _ allowed marks =>
      rw [addArgument_of_error content (U.path struct) arguments ran] at run
      cases run
      rcases allowed with known | ⟨inner, culprit, rfl⟩
      · rw [(Known.layered layers known).inStruct]
        exact .error known marks
      · refine .error (.inr (.inField isStruct listed content culprit)) fun other recorded => ?_
        refine (marks other recorded).imp_right fun own => ?_
        obtain ⟨_, _, _, same⟩ := Known.layered layers own.2
        cases same

theorem justifies_argsOfInfo (during : During U start e) (type : TypeExpr n) :
    Build.Justifies U start (fun error => Known U start error ∨ NoStruct U type error)
      (argsOfInfo U type) e := by
  rw [Build.argsOfInfo_eq]
  rcases Universe.struct_or_not U type.withoutPointers with ⟨fields, struct⟩ | noStruct
  · rw [Build.argumentsWith_of_struct _ struct]
    refine Build.justifies_foldlM fields (fun arguments field e listed during => ?_) _ during
    exact (justifies_addArgument layers during struct listed arguments).mono fun _ => .inl
  · rw [Build.argumentsWith_of_other _ noStruct]
    exact Build.justifies_throw during (.inr ⟨noStruct, rfl⟩)

theorem justifies_structOfInfo (during : During U start e) (type : TypeExpr n)
    (options : List (SchemaOption n)) :
    Build.Justifies U start
      (fun error => Known U start error ∨ Refused U e type.withoutPointers options error)
      (structOfInfo U type options) e := by
  intro result e' run
  have justified := (course_object run).justified layers rfl trivial during
  cases result with
  | ok id =>
    cases justified with
    | ok during => exact .ok during
  | error error =>
    cases justified with
    | error allowed marks => exact .error allowed marks

theorem justifies_structOf (resting : Resting start) (type : TypeExpr n)
    (options : List (SchemaOption n)) :
    Build.Justifies U start
      (fun error => Known U start error ∨ Refused U start type.withoutPointers options error)
      (structOf U type options) start := by
  have during : During U start start := .refl resting
  refine (justifies_register during type).bind fun _ e₁ run during => ?_
  obtain ⟨registry, registered, -⟩ := Build.outcome_register U type start
  rw [registered] at run
  cases run
  refine (justifies_structOfInfo layers during type options).mono fun error => Or.imp_right ?_
  rintro (⟨hit, other⟩ | noStruct | refusal)
  · exact .notAnObject hit other
  · exact .notStruct noStruct
  · exact .notSupported refusal

/-- The build of a list item asks for an object only if the item is a struct that is not cached. -/
theorem justifies_itemType (during : During U start e) (type : TypeExpr n)
    (options : List (SchemaOption n)) (miss : e.cache.lookup U type.withoutPointers = none) :
    Build.Justifies U start
      (fun error => Known U start error ∨
        (∃ inner, Culprit U (start.hooksOf U) type.withoutPointers inner ∧
          error = .typeNotRecognized (U.path inner)) ∨ ∃ target, error = .notSupported target)
      (itemType U type.withoutPointers options) e := by
  unfold itemType
  split
  · next struct =>
    refine .map ((justifies_structOfInfo layers during _ options).mono fun error => ?_) _
    rw [TypeExpr.withoutPointers_withoutPointers]
    refine Or.imp_right fun refused => .inr ?_
    cases refused with
    | notAnObject hit => exact absurd (miss.symm.trans hit) (by simp)
    | notStruct noStruct => exact absurd (struct.symm.trans noStruct) (by simp)
    | notSupported refusal => exact ⟨_, SchemaOption.eq_refusal_of_applyAllToObject refusal⟩
  · next noStruct =>
    intro result e' run
    have entered : (Call.build type.withoutPointers).Entered U e :=
      ⟨type.isPointer_withoutPointers, fun struct => absurd struct noStruct⟩
    cases (course_build run).justified layers rfl entered during with
    | ok during => exact .ok during
    | error allowed marks => exact .error (allowed.imp_right .inl) marks

theorem justifies_arrayOf (resting : Resting start) (type : TypeExpr n)
    (options : List (SchemaOption n)) :
    Build.Justifies U start
      (fun error => Known U start error ∨
        (∃ inner, Culprit U (start.hooksOf U) type inner ∧
          error = .typeNotRecognized (U.path inner)) ∨ ∃ target, error = .notSupported target)
      (arrayOf U type options) start := by
  obtain ⟨registry, registered, grown, -⟩ := Build.outcome_register U type start
  have during : During U start (start.know registry) := (During.refl resting).know grown
  intro result e' run
  cases hit : (start.know registry).cache.lookup U type with
  | some found =>
    cases failed : (start.know registry).cache.failure? found with
    | some error =>
      rw [Build.outcome_arrayOf_of_failed registered hit failed] at run
      cases run
      exact .error (.inl (.inl (records_of_failure (e := start) failed))) fun _ => .inl
    | none =>
      rw [Build.outcome_arrayOf_of_hit registered hit failed] at run
      cases run
      exact .ok (during.unchanged (.note _ _ rfl))
  | none =>
    rw [Build.outcome_arrayOf_of_miss registered hit, Option.map_eq_some_iff] at run
    obtain ⟨⟨outcome, e₁⟩, ran, same⟩ := run
    rw [← TypeCache.lookup_withoutPointers] at hit
    have justified := justifies_itemType layers during type options hit _ _ ran
    cases justified with
    | ok during =>
      cases same
      refine .ok ⟨⟨during.resting.toTidy.store U _ _, during.resting.idle⟩, during.hooked, ?_⟩
      exact during.marks
    | error allowed marks =>
      cases same
      refine .error (allowed.imp_right (Or.imp_left ?_)) marks
      rintro ⟨inner, culprit, same⟩
      exact ⟨inner, { culprit with leads := culprit.leads.of_withoutPointers }, same⟩

theorem justifies_applyToField (during : During U start e) (option : SchemaOption n)
    (field : Field) :
    Build.Justifies U start
      (fun error => Known U start error ∨
        (∃ source, option = .arguments source ∧ NoStruct U source error) ∨
          ∃ target, error = .notSupported target)
      (applyToField U option field) e := by
  cases option with
  | description | deprecationReason | resolver | type => exact Build.justifies_pure during _
  | defaultValue => exact Build.justifies_throw during (.inr (.inr ⟨_, rfl⟩))
  | arguments source =>
    refine Build.Justifies.bind ?_ fun arguments _ _ during => Build.justifies_pure during _
    refine (justifies_argsOfInfo layers during source).mono fun error => ?_
    exact Or.imp_right fun noStruct => .inl ⟨source, rfl, noStruct⟩

theorem justifies_fieldOf (free : HandleFree U start) (sound : Sound U start)
    (resting : Resting start) (type : TypeExpr n) (options : List (SchemaOption n)) :
    Build.Justifies U start
      (fun error => Known U start error ∨ Refused U start type.withoutPointers [] error ∨
        (∃ source ∈ Build.sources options, NoStruct U source error) ∨
          ∃ target, error = .notSupported target)
      (fieldOf U type options) start := by
  refine ((justifies_structOf layers resting type []).mono fun _ => Or.imp_right .inl).bind
    fun id e₁ run during => ?_
  have live := live_of_structOf free sound resting run
  refine Build.Justifies.bind ?_ fun target e₂ _ during => ?_
  · intro result e' run
    obtain ⟨object, found⟩ := Option.isSome_iff_exists.1 live
    rw [Build.outcome_object, found] at run
    cases run
    exact .ok during
  · refine Build.justifies_foldlM options (fun field option e listed during => ?_) _ during
    refine (justifies_applyToField layers during option field).mono fun error => ?_
    refine Or.imp_right fun refused => .inr (refused.imp_left ?_)
    rintro ⟨source, rfl, noStruct⟩
    exact ⟨source, Build.mem_sources.2 listed, noStruct⟩

end Steps

/-! ## Errors of a session -/

namespace Request

/-- The type that a request resolves, also where it is not a struct. -/
def resolved? : Request n → Option (TypeExpr n)
  | .resolveType type | .arrayOf type _ => some type
  | _ => none

/-- The types that a request needs to be structs. -/
def structs : Request n → List (TypeExpr n)
  | .structOf type _ | .structOfInfo type _ | .argsOf type | .argsOfInfo type => [type]
  | .fieldOf type options => type :: Build.sources options
  | _ => []

/-- The errors that a request may fail with on an encoder.  A type that is not recognized is reached
from the type that was to be resolved; a type that has no object, or is no struct, is the one that
was asked for, or a source of arguments; and an error in a field is `known`. -/
def MayFail (U : Universe n) (known : EncodeError → Prop) (e : Encoder n) (request : Request n)
    (error : EncodeError) : Prop :=
  match error with
  | .typeNotRecognizedInStruct _ _ _ => known error
  | .typeNotRecognized path =>
    ∃ type inner, request.resolved? = some type ∧ Culprit U (e.hooksOf U) type inner ∧
      path = U.path inner
  | .notAnObject path =>
    ∃ type found, request.objectOf? = some type ∧ e.cache.lookup U type = some found ∧
      found.object? = none ∧ path = U.path type.withoutPointers
  | .notStruct path =>
    ∃ type ∈ request.structs, U.isStruct type.withoutPointers = false ∧
      path = U.path type.withoutPointers
  | .notSupported _ => True
  | .danglingObject _ => False

section MayFail

variable {U : Universe n} {e e' : Encoder n} {request : Request n} {type : TypeExpr n}
  {error : EncodeError}

theorem mayFail_of_known (layers : ∀ error, e.Records error → error.Layered)
    (known : Known U e error) : request.MayFail U (Known U e) e error := by
  obtain ⟨_, _, _, rfl⟩ := Known.layered layers known
  exact known

theorem mayFail_of_refused {options : List (SchemaOption n)}
    (asks : request.objectOf? = some type) (needs : type ∈ request.structs)
    (refused : Refused U e type.withoutPointers options error) :
    request.MayFail U (Known U e) e error := by
  cases refused with
  | @notAnObject found hit other =>
    rw [TypeCache.lookup_withoutPointers] at hit
    exact ⟨type, found, asks, hit, other, rfl⟩
  | notStruct noStruct => exact ⟨type, needs, noStruct, rfl⟩
  | notSupported refusal =>
    rw [SchemaOption.eq_refusal_of_applyAllToObject refusal]
    trivial

theorem mayFail_of_noStruct (needs : type ∈ request.structs) (noStruct : NoStruct U type error) :
    request.MayFail U (Known U e) e error := by
  obtain ⟨other, rfl⟩ := noStruct
  exact ⟨type, needs, other, rfl⟩

theorem mayFail_of_culprit (asks : request.resolved? = some type)
    (culprit : ∃ inner, Culprit U (e.hooksOf U) type inner ∧
      error = .typeNotRecognized (U.path inner)) : request.MayFail U (Known U e) e error := by
  obtain ⟨inner, culprit, rfl⟩ := culprit
  exact ⟨type, inner, asks, culprit, rfl⟩

theorem mayFail_of_notSupported (unsupported : ∃ target, error = .notSupported target) :
    request.MayFail U (Known U e) e error := by
  obtain ⟨target, rfl⟩ := unsupported
  trivial

end MayFail

/-- A request that attaches no hook ends justified. -/
theorem justifies {U : Universe n} {e : Encoder n} (free : HandleFree U e) (sound : Sound U e)
    (resting : Resting e) (layers : ∀ error, e.Records error → error.Layered)
    (request : Request n) (builds : request.hook? = none) :
    Build.Justifies U e (request.MayFail U (Known U e) e) (request.run U) e := by
  have known : ∀ error, Known U e error → request.MayFail U (Known U e) e error := fun _ =>
    mayFail_of_known layers
  cases request with
  | structOf type options =>
    refine .map ((justifies_structOf layers resting type options).mono fun error => ?_) _
    exact Or.rec (known error) (mayFail_of_refused rfl List.mem_cons_self)
  | structOfInfo type options =>
    have during : During U e e := .refl resting
    refine .map ((justifies_structOfInfo layers during type options).mono fun error => ?_) _
    exact Or.rec (known error) (mayFail_of_refused rfl List.mem_cons_self)
  | argsOf type =>
    refine .map ((justifies_register (.refl resting) type).bind fun _ _ _ during => ?_) _
    refine (justifies_argsOfInfo layers during type).mono fun error => ?_
    exact Or.rec (known error) (mayFail_of_noStruct List.mem_cons_self)
  | argsOfInfo type =>
    refine .map ((justifies_argsOfInfo layers (.refl resting) type).mono fun error => ?_) _
    exact Or.rec (known error) (mayFail_of_noStruct List.mem_cons_self)
  | arrayOf type options =>
    refine .map ((justifies_arrayOf layers resting type options).mono fun error => ?_) _
    rintro (earlier | culprit | unsupported)
    · exact known error earlier
    · exact mayFail_of_culprit rfl culprit
    · exact mayFail_of_notSupported unsupported
  | fieldOf type options =>
    refine .map ((justifies_fieldOf layers free sound resting type options).mono fun error => ?_) _
    rintro (earlier | refused | ⟨source, listed, noStruct⟩ | unsupported)
    · exact known error earlier
    · exact mayFail_of_refused rfl List.mem_cons_self refused
    · exact mayFail_of_noStruct (List.mem_cons_of_mem _ listed) noStruct
    · exact mayFail_of_notSupported unsupported
  | resolveType type =>
    refine .map ((justifies_resolveType layers (.refl resting) type).mono fun error => ?_) _
    exact Or.rec (known error) (mayFail_of_culprit rfl)
  | registerHook | insertHook => cases builds

/-- A request that attaches a hook succeeds and marks nothing. -/
theorem attaches (U : Universe n) (e : Encoder n) {request : Request n} {hook : Hook}
    (attached : request.hook? = some hook) :
    ∃ answer registry, (request.run U).outcome e = some (.ok answer, e.know registry) := by
  cases request with
  | registerHook type hook =>
    obtain ⟨registry, registered, -⟩ := Build.outcome_register U type e
    exact ⟨_, _, Build.outcome_bind_ok registered _⟩
  | insertHook type hook => exact ⟨_, _, rfl⟩
  | structOf | structOfInfo | argsOf | argsOfInfo | arrayOf | fieldOf | resolveType =>
    cases attached

/-- Every error of a request is one that it may fail with, and the objects that it marks are marked
with its error. -/
theorem explains {U : Universe n} {e e' : Encoder n} (free : HandleFree U e) (sound : Sound U e)
    (resting : Resting e) (layers : ∀ error, e.Records error → error.Layered)
    {request : Request n} {answer : Except EncodeError Answer}
    (run : (request.run U).outcome e = some (answer, e')) :
    (∀ error, answer = .error error → request.MayFail U (Known U e) e error) ∧
      ∀ error, e'.Records error → e.Records error ∨ answer = .error error ∧ Known U e error := by
  cases attached : request.hook? with
  | none =>
    cases request.justifies free sound resting layers attached _ _ run with
    | ok during => exact ⟨fun _ failed => (nomatch failed), fun error recorded =>
        .inl (during.marks error recorded)⟩
    | error allowed marks =>
      refine ⟨?_, fun error recorded => (marks error recorded).imp_right ?_⟩
      · rintro _ ⟨⟩
        exact allowed
      · rintro ⟨rfl, known⟩
        exact ⟨rfl, known⟩
  | some hook =>
    obtain ⟨_, registry, run'⟩ := attaches U e attached
    rw [run] at run'
    cases run'
    exact ⟨fun _ failed => (nomatch failed), fun _ => .inl⟩

/-- A request fails on an encoder with an error that stands for a type without provider. -/
def Raises (U : Universe n) (e : Encoder n) (request : Request n) (error : EncodeError) : Prop :=
  (∃ e', (request.run U).outcome e = some (.error error, e')) ∧ Explained U (e.hooksOf U) error

end Request

/-- Some request of a session, on the encoder that it came to, failed with an error that stood for a
type without provider there. -/
def Session.Arose (U : Universe n) (policy : KeyPolicy) (requests : List (Request n))
    (error : EncodeError) : Prop :=
  ∃ earlier raising later answers e, requests = earlier ++ raising :: later ∧
    Session.run U earlier (.new U policy) = some (answers, e) ∧ Request.Raises U e raising error

section Sessions

variable {U : Universe n} {policy : KeyPolicy} {requests : List (Request n)} {error : EncodeError}

theorem Session.Arose.layered (arose : Session.Arose U policy requests error) : error.Layered := by
  obtain ⟨_, _, _, _, _, -, -, -, explained⟩ := arose
  exact explained.layered

theorem Session.Arose.append (arose : Session.Arose U policy requests error)
    (more : List (Request n)) : Session.Arose U policy (requests ++ more) error := by
  obtain ⟨earlier, raising, later, answers, e, rfl, reached, raises⟩ := arose
  exact ⟨earlier, raising, later ++ more, answers, e, by simp, reached, raises⟩

/-- The state that a session leaves, together with its next request. -/
theorem Session.explains_next (provided : U.HooksNameNoHandle)
    (attached : ∀ request ∈ requests, request.HooksNameNoHandle)
    {answers : List (Except EncodeError Answer)} {e e' : Encoder n}
    (reached : Session.run U requests (.new U policy) = some (answers, e))
    (arose : ∀ error, e.Records error → Session.Arose U policy requests error)
    {request : Request n} {answer : Except EncodeError Answer}
    (run : (request.run U).outcome e = some (answer, e')) :
    (∀ error, answer = .error error → request.MayFail U (Known U e) e error) ∧
      (∀ error, answer = .error error → Known U e error →
        Session.Arose U policy (requests ++ [request]) error) ∧
      ∀ error, e'.Records error → Session.Arose U policy (requests ++ [request]) error := by
  have moves : Moves U (.handleFree n) (.new U policy) e :=
    Session.moves (Scope.closed_handleFree U)
      (fun request listed => (attached request listed).within) reached
  obtain ⟨free, sound⟩ := moves.sound (handleFree_new provided policy) (sound_new U policy)
  have resting := (moves.lasts (resting_new U policy)).1
  have layers : ∀ error, e.Records error → error.Layered := fun error recorded =>
    (arose error recorded).layered
  obtain ⟨fails, marks⟩ := Request.explains free sound resting layers run
  have failed : ∀ error, answer = .error error → Known U e error →
      Session.Arose U policy (requests ++ [request]) error := by
    rintro error rfl (recorded | explained)
    · exact (arose error recorded).append [request]
    · exact ⟨requests, request, [], answers, e, rfl, reached, ⟨e', run⟩, explained⟩
  refine ⟨fails, failed, fun error recorded => ?_⟩
  rcases marks error recorded with old | ⟨own, known⟩
  · exact (arose error old).append [request]
  · exact failed error own known

/-- Every mark of a session goes back to a request of the session. -/
theorem Session.marks_arose (provided : U.HooksNameNoHandle)
    (attached : ∀ request ∈ requests, request.HooksNameNoHandle)
    {answers : List (Except EncodeError Answer)} {e : Encoder n}
    (reached : Session.run U requests (.new U policy) = some (answers, e)) :
    ∀ error, e.Records error → Session.Arose U policy requests error := by
  induction requests using List.reverseRecOn generalizing answers e with
  | nil =>
    cases reached
    rintro error ⟨id, mark⟩
    cases mark
  | append_singleton before request ih =>
    have attached : ∀ request ∈ before, request.HooksNameNoHandle := fun other listed =>
      attached other (List.mem_append_left _ listed)
    obtain ⟨answers₀, e₀, ran, resting, -⟩ := Session.lasts U before (resting_new U policy)
    have whole := Scope.closed_everything U
    obtain ⟨answer, e₁, run, -⟩ := Request.serves whole request.within_everything e₀
    have joined := Session.run_append ran (Session.run_cons run (rfl : Session.run U [] e₁ = _))
    rw [reached] at joined
    cases joined
    exact (Session.explains_next provided attached ran (ih attached ran) run).2.2

end Sessions

/-- **Errors carry exactly one layer, that of the innermost struct.**  After every session whose
hooks name no handles, and whatever is asked next, each recorded error arose at a field: it was
returned by a request of the session, at a time when pointers, lists and arrays led from the field
to a type that nothing maps and no hook provides.  The next request fails with such an error, or
with one that stands for the types it asks for (`Request.MayFail`). -/
theorem Session.errors_carry_one_layer (U : Universe n) (policy : KeyPolicy)
    (before : List (Request n)) (request : Request n) (provided : U.HooksNameNoHandle)
    (attached : ∀ request ∈ before, request.HooksNameNoHandle) :
    ∃ answers e answer e', Session.run U before (.new U policy) = some (answers, e) ∧
      (request.run U).outcome e = some (answer, e') ∧
      (∀ error, e'.Records error → Session.Arose U policy (before ++ [request]) error) ∧
      ∀ error, answer = .error error →
        request.MayFail U (Session.Arose U policy (before ++ [request])) e error := by
  obtain ⟨answers, e, reached, -⟩ := Session.lasts U before (resting_new U policy)
  have whole := Scope.closed_everything U
  obtain ⟨answer, e', run, -⟩ := Request.serves whole request.within_everything e
  obtain ⟨fails, arises, marks⟩ := Session.explains_next provided attached reached
    (Session.marks_arose provided attached reached) run
  refine ⟨answers, e, answer, e', reached, run, marks, fun error failed => ?_⟩
  have may := fails error failed
  cases error with
  | typeNotRecognizedInStruct => exact arises _ failed may
  | typeNotRecognized | notAnObject | notStruct | notSupported | danglingObject => exact may

/-- The error of the table comes through the list of parts to the request for parts, and again to a
later one. -/
theorem Sample.parts_name_the_table :
    ∃ e answer e', (Session.run types [.arrayOf part []] (.new types .bareName)).map Prod.snd =
        some e ∧
      ((Request.structOf (.pointer .box part) []).run types).outcome e = some (answer, e') ∧
      answer = .error (.typeNotRecognizedInStruct
        (.typeNotRecognized "std::collections::HashMap<alloc::string::String, bool>")
        "app::Broken" "table") ∧
      ∀ error, answer = .error error →
        Session.Arose types .bareName [.arrayOf part [], .structOf (.pointer .box part) []]
          error := by
  obtain ⟨answers, e, answer, e', reached, run, -, fails⟩ :=
    Session.errors_carry_one_layer types .bareName [.arrayOf part []]
      (.structOf (.pointer .box part) []) hooksNameNoHandle_types
      (by simp [Request.HooksNameNoHandle, Request.hook?])
  have failed : ((Session.run types [.arrayOf part []] (.new types .bareName)).bind fun r =>
      (((Request.structOf (.pointer .box part) []).run types).outcome r.2).map Prod.fst) =
      some (.error (.typeNotRecognizedInStruct
        (.typeNotRecognized "std::collections::HashMap<alloc::string::String, bool>")
        "app::Broken" "table")) := by
    decide +kernel
  rw [reached, Option.bind_some, run, Option.map_some, Option.some.injEq] at failed
  change answer = _ at failed
  refine ⟨e, answer, e', by rw [reached]; rfl, run, failed, ?_⟩
  intro error same
  have may := fails error same
  rw [failed] at same
  cases same
  exact may

end RecordSchema
